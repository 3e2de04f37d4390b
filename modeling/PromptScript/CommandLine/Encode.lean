import PromptScript.CommandLine.Json
import PromptScript.Registry
import PromptScript.Run.Basic

/-!
# CommandLine.Encode

What the command line shows, as JSON.
-/

namespace PromptScript

def JsonValue.texts (texts : List String) : JsonValue := .list (texts.map .text)

/-- A map with its names in order. -/
def NameMap.toJson {α : Type} (m : NameMap α) (f : α → JsonValue) : JsonValue :=
  .record (m.entries.map fun e => (e.1, f e.2))

def Verb.argumentsName : Verb → String
  | .prompt _ => "message"
  | .grep _ => "patterns"
  | .sort _ => "arguments"
  | .xargs _ => "variables"

def Verb.toJson (v : Verb) : JsonValue :=
  .record [("verb", .text v.word),
    (v.argumentsName,
      match v with
      | .prompt message => .text message
      | v => .texts v.arguments)]

def Action.toJson (a : Action) : JsonValue :=
  .record [("pattern", .text a.trigger), ("processors", .list (a.verbs.map Verb.toJson))]

def JsonValue.tagged (kind : String) (v : JsonValue) : JsonValue :=
  .record [("kind", .text kind), ("value", v)]

mutual

def Value.toJson : Value → JsonValue
  | .text s => .tagged "string" (.text s)
  | .number n => .tagged "number" (.number n)
  | .date s => .tagged "date" (.text s)
  | .flag b => .tagged "boolean" (.flag b)
  | .list items => .tagged "array" (.list (valuesToJson items))
  | .record fields => .tagged "object" (.record (fieldsToJson fields))
  | .action a => .tagged "pattern" a.toJson
  | .caseMatch m =>
    .tagged "case_match"
      (.record [("subject", .text m.subject), ("cases", m.arms.toJson Action.toJson)])

def valuesToJson : List Value → List JsonValue
  | [] => []
  | v :: rest => v.toJson :: valuesToJson rest

def fieldsToJson : List (String × Value) → List (String × JsonValue)
  | [] => []
  | (k, v) :: rest => (k, v.toJson) :: fieldsToJson rest

end

def Declaration.toJson (d : Declaration) : JsonValue :=
  .record [("name", .text d.name), ("value", d.value.toJson), ("line", .number d.line)]

def Header.toJson (h : Header) : JsonValue :=
  .record [("name", .textOrNull h.name), ("description", .textOrNull h.description),
    ("action_location", .text h.location.name), ("enabled", .flag h.enabled),
    ("agent", .textOrNull h.agent), ("variables", .list (h.declarations.map Declaration.toJson)),
    ("entries", h.entries.toJson Value.toJson)]

def Symbol.toJson (s : Symbol) : JsonValue :=
  .record [("line_declared", .number s.line), ("scope", .text s.scope.word),
    ("type", .text s.type.word)]

def lineMessage (line : Nat) (message : String) : JsonValue :=
  .record [("line", .number line), ("message", .text message)]

/-- A candidate that could not be handled. -/
def ItemFailure.toJson (f : ItemFailure) : JsonValue :=
  .record [("item", .text f.item), ("message", .text f.message)]

/-- What a run yields; the response only if the document names an agent. -/
def RunOutput.toJson (o : RunOutput) : JsonValue :=
  .record ([("variables", o.rendered.toJson .text), ("text", .text o.text),
    ("failures", .list (o.failures.map ItemFailure.toJson))] ++
    match o.response with
    | some r => [("response", .text r)]
    | none => [])

/-- What is shown of a script in a list; its description only if it has one. -/
def LoadedScript.toJson (s : LoadedScript) : JsonValue :=
  .record ([("name", .text s.name), ("script_path", .text s.path),
    ("location", .text s.location.name), ("enabled", .flag s.enabled)] ++
    match s.description with
    | some d => [("description", .text d)]
    | none => [])

end PromptScript
