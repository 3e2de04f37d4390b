import PromptScript.CommandLine.Arguments
import PromptScript.CommandLine.Encode
import PromptScript.Config

/-!
# CommandLine.Basic

The commands of the command line, as functions of the files that are there. A command yields what is
written to both outputs, and an exit code.
-/

namespace PromptScript

structure Outcome where
  code : Nat := 0
  output : String := ""
  errors : String := ""
  deriving DecidableEq, Repr

def asLine (text : String) : String := text ++ "\n"

namespace Outcome

def success (output : String) : Outcome := { output := output }

def failure (errors : String) : Outcome := { code := 1, errors := errors }

end Outcome

structure Workspace where
  /-- The directory that the program runs in. -/
  here : Place
  settings : Settings
  config : Config

/-- A text with blanks after it, up to a width. -/
def padded (width : Nat) (text : String) : String :=
  text ++ String.ofList (List.replicate (width - text.toList.length) ' ')

def unreadableMessage (path : String) (e : FileError) : String :=
  asLine ("error: could not read '" ++ path ++ "': " ++ e.message)

def jsonOutput (v : JsonValue) : String := asLine (v.pretty 0)

namespace Workspace

def source (w : Workspace) : FileSource := ⟨w.here, textBytes w.settings.root, w.config.limits⟩

def unlessQuiet (w : Workspace) (message : String) : String :=
  if w.settings.quiet then "" else message

end Workspace

/-- The header of a document, without compiling it. -/
def readHeader (text : String) : HeaderResult Header :=
  match Sections.ofText? text.toList with
  | none => .error ⟨1, .unterminated⟩
  | some s => Document.headerOf s

def headerLines (h : Header) : List String :=
  (h.name.map ("name: " ++ ·)).toList ++ (h.description.map ("description: " ++ ·)).toList ++
    ["actionLocation: " ++ h.location.name, "enabled: " ++ toString h.enabled] ++
    (h.agent.map ("agent: " ++ ·)).toList ++
    (if h.declarations.isEmpty then [] else ["variables:"]) ++
    h.declarations.map (fun d =>
      "  " ++ d.name ++ " (line " ++ toString d.line ++ "): " ++ d.value.kindName) ++
    h.entries.entries.map (fun e => e.1 ++ ": " ++ e.2.kindName)

def parseCommand (w : Workspace) (file : String) : Outcome :=
  match w.here.readText (textBytes file) with
  | .error e => .failure (unreadableMessage file e)
  | .ok text =>
    match readHeader text, w.settings.output with
    | .ok h, .json => .success (jsonOutput h.toJson)
    | .ok h, .text => .success (String.join ((headerLines h).map asLine))
    | .error e, .json => .failure (asLine (lineMessage e.line e.fault.message).compact)
    | .error e, .text =>
      .failure (w.unlessQuiet
        (asLine (file ++ ": line " ++ toString e.line ++ ": " ++ e.fault.message)))

/-- The message about a script that does not compile. -/
def compileMessage (w : Workspace) (file : String) (e : AtLine DocumentFault) : String :=
  match w.settings.output with
  | .json => jsonOutput (lineMessage e.line e.located)
  | .text => w.unlessQuiet (asLine (file ++ ": " ++ e.located))

def withDocument (w : Workspace) (file : String) (use : Document → Outcome) : Outcome :=
  match w.here.readText (textBytes file) with
  | .error e => .failure (unreadableMessage file e)
  | .ok text =>
    match Document.compile text with
    | .error e => .failure (compileMessage w file e)
    | .ok d => use d

def symbolLine (name : String) (s : Symbol) : String :=
  padded 20 name ++ " " ++ padded 8 s.type.word ++ " " ++ padded 12 s.scope.word ++ " line "
    ++ toString s.line

def checkCommand (w : Workspace) (file : String) : Outcome :=
  withDocument w file fun d =>
    match w.settings.output with
    | .json => .success (jsonOutput (.record [("symbols", d.symbols.toJson Symbol.toJson)]))
    | .text =>
      .success (w.unlessQuiet
          (asLine (file ++ ": ok, " ++ toString d.symbols.size ++ " symbols")) ++
        String.join (d.symbols.entries.map fun e => asLine (symbolLine e.1 e.2)))

/-- The values that a run starts with: the path and the name of the script, and then those of the
command line. -/
def contextOf (file : String) (bindings : List (String × String)) : Context :=
  let name := (Path.fileName? (textBytes file)).map Utf8.shown
  .ofList ([("filePath", file)] ++ (name.map (Prod.mk "fileName")).toList ++ bindings)

/-- Runs a script. A response is shown as it is printed, chunk by chunk. -/
def runScriptCommand (w : Workspace) (file : String) (bindings : List (String × String)) : Outcome :=
  withDocument w file fun d =>
    let host : Host := ⟨w.source.toItemSource, AgentRegistry.withEcho⟩
    let (result, _, p) := d.run host file (contextOf file bindings) .empty {}
    match result, w.settings.output with
    | .error e, _ => .failure (asLine ("error: " ++ e.message))
    | .ok o, .json => .success (jsonOutput o.toJson)
    | .ok o, .text =>
      { output :=
          if d.header.agent.isSome then String.join (p.log.filterMap Event.printedChunk?)
          else o.text
        errors := w.unlessQuiet (String.join (o.failures.map fun f =>
          asLine ("warning: xargs '" ++ f.item ++ "': " ++ f.message))) }

def execCommand (w : Workspace) (call : String) : Outcome :=
  let (result, _) := showCommand w.source.toItemSource {} call
  let failed := isDiagnostic result
  { code := if failed then 1 else 0
    output :=
      match w.settings.output with
      | .json => jsonOutput (.record [("error", .flag failed), ("result", .text result)])
      | .text => asLine result }

def scriptExtension : Bytes := textBytes "shire"

/-- The paths of the scripts in a directory, in order. -/
def scriptPaths (here : Place) (directory : Bytes) (place : Place) : List Bytes :=
  (sortBy (fun a b => (compare a b).isLE) (place.entries.map (·.1))).filterMap fun name =>
    let path := joinPath directory name
    if here.isFile path && Path.extension? path == some scriptExtension then some path else none

/-- Scripts that were read from their files. -/
structure Loaded where
  scripts : Registry := .empty
  skipped : Nat := 0
  warnings : String := ""

/-- Reads scripts in order, each under its path as a text. One that does not compile is skipped, one
that cannot be read ends it all. -/
def loadScripts (w : Workspace) (loaded : Loaded) : List Bytes → Except String Loaded
  | [] => .ok loaded
  | path :: rest =>
    let key := Utf8.shown path
    match w.here.readText path with
    | .error e => .error (loaded.warnings ++ unreadableMessage key e)
    | .ok text =>
      match Document.compile text with
      | .ok d => loadScripts w { loaded with scripts := loaded.scripts.insert key ⟨key, d⟩ } rest
      | .error e =>
        let warning := w.unlessQuiet (asLine ("warning: skipping " ++ key ++ ": " ++ e.located))
        loadScripts w
          { loaded with skipped := loaded.skipped + 1, warnings := loaded.warnings ++ warning } rest

def scriptLine (s : LoadedScript) : String :=
  padded 24 s.name ++ " " ++ padded 14 s.location.name ++ " " ++ s.path

/-- The scripts to be listed: those that are enabled, everywhere or at one location. -/
def listedScripts (r : Registry) : Option Location → List LoadedScript
  | some location => r.offeredAt location
  | none => r.values.filter LoadedScript.enabled

def actionsCommand (w : Workspace) (directory : String) (location : Option Location) : Outcome :=
  match w.here.directory (textBytes directory) with
  | .error e => .failure (unreadableMessage directory e)
  | .ok place =>
    match loadScripts w {} (scriptPaths w.here (textBytes directory) place) with
    | .error errors => .failure errors
    | .ok loaded =>
      let listed := listedScripts loaded.scripts location
      match w.settings.output with
      | .json =>
        { output := jsonOutput (.list (listed.map LoadedScript.toJson)), errors := loaded.warnings }
      | .text =>
        { output := String.join (listed.map fun s => asLine (scriptLine s))
          errors := loaded.warnings ++ w.unlessQuiet (asLine (toString listed.length
            ++ " action(s), " ++ toString loaded.skipped ++ " script(s) skipped")) }

def Command.outcome (w : Workspace) : Command → Outcome
  | .parse file => parseCommand w file
  | .check file => checkCommand w file
  | .run file bindings => runScriptCommand w file bindings
  | .exec call => execCommand w call
  | .actions directory location => actionsCommand w directory location

def programVersion : String := "0.1.0"

def usage : String :=
  programTitle ++ "\n\nUsage: " ++ programName ++ " [OPTIONS] <COMMAND>\n\nCommands: "
    ++ joinTexts ", " (CommandName.all.map CommandName.word) ++ "\nOptions: "
    ++ joinTexts ", " (Parameter.global.map Parameter.shown) ++ "\n"

def Interruption.outcome : Interruption → Outcome
  | .help => .success usage
  | .version => .success (asLine (programName ++ " " ++ programVersion))
  | .refused .nothingGiven => { code := 2, errors := usage }
  | .refused e => { code := 2, errors := asLine e.message }

def runCommandLine (here : Place) (arguments : List String) : Outcome :=
  match readArguments arguments with
  | .error i => i.outcome
  | .ok (settings, command) =>
    match Config.load here settings.config settings.root with
    | .error e => .failure (asLine ("error: " ++ e.message))
    | .ok config => command.outcome ⟨here, settings, config⟩

end PromptScript
