/-!
# CommandLine.Parameter

The commands of the command line, their arguments and how messages show them.
-/

namespace PromptScript

inductive OutputFormat where
  | text
  | json
  deriving DecidableEq, Repr

/-- A form of output by its name. -/
def OutputFormat.ofName? (name : String) : Option OutputFormat :=
  if name = "text" then some .text else if name = "json" then some .json else none

inductive Parameter where
  | output
  | quiet
  | verbose
  | config
  | root
  | help
  | version
  | variable
  | location
  | file
  | call
  | directory
  deriving DecidableEq, Repr

namespace Parameter

/-- The word of an option without its dashes; empty for an argument that is told by its place. -/
def word : Parameter → String
  | .output => "output"
  | .quiet => "quiet"
  | .verbose => "verbose"
  | .config => "config"
  | .root => "root"
  | .help => "help"
  | .version => "version"
  | .variable => "var"
  | .location => "location"
  | .file => ""
  | .call => ""
  | .directory => ""

/-- What the value is called; empty for an option without a value. -/
def valueName : Parameter → String
  | .output => "OUTPUT"
  | .config => "CONFIG"
  | .root => "ROOT"
  | .variable => "KEY=VALUE"
  | .location => "LOCATION"
  | .file => "FILE"
  | .call => "CALL"
  | .directory => "DIR"
  | .quiet => ""
  | .verbose => ""
  | .help => ""
  | .version => ""

def hasValue (p : Parameter) : Bool := !p.valueName.isEmpty

def shown (p : Parameter) : String :=
  let value := if p.hasValue then "<" ++ p.valueName ++ ">" else ""
  if p.word.isEmpty then value
  else if p.hasValue then "--" ++ p.word ++ " " ++ value
  else "--" ++ p.word

def global : List Parameter := [.output, .quiet, .verbose, .config, .root, .help]

end Parameter

inductive CommandName where
  | parse
  | check
  | run
  | exec
  | actions
  deriving DecidableEq, Repr

namespace CommandName

def all : List CommandName := [.parse, .check, .run, .exec, .actions]

def word : CommandName → String
  | .parse => "parse"
  | .check => "check"
  | .run => "run"
  | .exec => "exec"
  | .actions => "actions"

def ofWord? (word : String) : Option CommandName := all.find? fun c => c.word == word

/-- The argument that a command takes by its place. -/
def operand : CommandName → Parameter
  | .parse => .file
  | .check => .file
  | .run => .file
  | .exec => .call
  | .actions => .directory

def options (c : CommandName) : List Parameter :=
  Parameter.global ++
    match c with
    | .run => [.variable]
    | .actions => [.location]
    | _ => []

end CommandName

end PromptScript
