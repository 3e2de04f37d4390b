import PromptScript.CommandLine.Usage

/-!
# CommandLine.Arguments

The arguments of the command line. Options for all commands may stand before and after the name of
the command. The value of an option is looked at only when the next argument shows that it is
complete, and the arguments after the name of a command are read before an option in front of it is
completed; which of several mistakes is reported follows from that.
-/

namespace PromptScript

structure Settings where
  output : OutputFormat := .text
  quiet : Bool := false
  verbose : Bool := false
  config : Option String := none
  root : String := "."
  deriving DecidableEq, Repr

inductive Command where
  | parse (file : String)
  | check (file : String)
  | run (file : String) (bindings : List (String × String))
  | exec (call : String)
  | actions (directory : String) (location : Option Location)
  deriving DecidableEq, Repr

/-- The arguments of one level: those before the name of the command, or those after it. -/
structure Level where
  /-- The command whose arguments these are. -/
  command : Option CommandName := none
  /-- The arguments that are complete, in order. -/
  given : List (Parameter × String) := []
  /-- The argument that is not yet complete, with its value if that has been read. -/
  pending : Option (Parameter × Option String) := none
  /-- Whether two dashes have ended the options. -/
  literal : Bool := false
  /-- Whether the argument that is told by its place has been read. -/
  hasOperand : Bool := false

namespace Level

def options (l : Level) : List Parameter :=
  match l.command with
  | some c => c.options
  | none => Parameter.global ++ [.version]

/-- The argument that the next one is by its place. -/
def operand? (l : Level) : Option Parameter :=
  if l.hasOperand then none else l.command.map CommandName.operand

def expectsValue (l : Level) : Bool :=
  match l.pending with
  | some (_, none) => !l.literal
  | _ => false

/-- Adds a complete argument; only variables may be given more than once. -/
def add (l : Level) (p : Parameter) (value : String) : Except Interruption Level :=
  if p ≠ .variable ∧ l.given.any (fun g => g.1 == p) then .error (.refused (.repeated p))
  else
    match valueFault? p value with
    | some e => .error (.refused e)
    | none => .ok { l with given := l.given ++ [(p, value)] }

/-- Completes the argument that is not yet complete. -/
def complete (l : Level) : Except Interruption Level :=
  match l.pending with
  | none => .ok l
  | some (p, none) => .error (.refused (.valueMissing p))
  | some (p, some value) => { l with pending := none }.add p value

/-- Takes an option without a value. -/
def takeFlag (l : Level) (p : Parameter) : Except Interruption Level :=
  match l.complete with
  | .error i => .error i
  | .ok l =>
    match p with
    | .help => .error .help
    | .version => .error .version
    | p => l.add p ""

/-- Takes an option that is written out, with the value after its equals sign if it has one. -/
def takeLong (l : Level) (word : String) (value : Option String) : Except Interruption Level :=
  match l.options.find? fun p => p.word == word, value with
  | none, _ => .error (.refused (.unexpected ("--" ++ word)))
  | some p, some value =>
    if p.hasValue then
      match l.complete with
      | .error i => .error i
      | .ok l => l.add p value
    else .error (.refused (.unexpectedValue value p))
  | some p, none =>
    if p.hasValue then
      match l.complete with
      | .error i => .error i
      | .ok l => .ok { l with pending := some (p, none) }
    else l.takeFlag p

def takeShort (l : Level) (letter : Char) : Except Interruption Level :=
  if letter = 'h' then l.takeFlag .help
  else if letter = 'V' ∧ l.command = none then l.takeFlag .version
  else .error (.refused (.unexpected (String.ofList ['-', letter])))

/-- Takes an argument by its place. -/
def takeOperand (l : Level) (argument : String) : Except Interruption Level :=
  match l.operand? with
  | some p =>
    match l.complete with
    | .error i => .error i
    | .ok l => .ok { l with pending := some (p, some argument), hasOperand := true }
  | none =>
    if l.command.isNone ∧ !(l.literal && (CommandName.ofWord? argument).isSome) then
      .error (.refused (.unknownCommand argument))
    else .error (.refused (.unexpected argument))

def take (l : Level) (argument : String) : Except Interruption Level :=
  if l.literal then l.takeOperand argument
  else
    match argument.toList with
    | ['-', '-'] => .ok { l with literal := true }
    | '-' :: '-' :: option =>
      let word := option.takeWhile (· ≠ '=')
      match option.dropWhile (· ≠ '=') with
      | [] => l.takeLong (String.ofList word) none
      | _ :: value => l.takeLong (String.ofList word) (some (String.ofList value))
    | '-' :: letter :: _ => l.takeShort letter
    | _ =>
      match l.pending, l.expectsValue with
      | some (p, _), true => .ok { l with pending := some (p, some argument) }
      | _, _ => l.takeOperand argument

def takeAll (l : Level) : List String → Except Interruption Level
  | [] => l.complete
  | argument :: rest =>
    match l.take argument with
    | .error i => .error i
    | .ok l => takeAll l rest

def value? (l : Level) (p : Parameter) : Option String := l.given.lookup p

end Level

def helpWord : String := "help"

/-- What a help command asks for: each word after it has to name a command. -/
def helpOn : List String → Interruption
  | [] => .help
  | word :: rest =>
    if word = helpWord then .help
    else if (CommandName.ofWord? word).isNone then .refused (.unknownCommand word)
    else
      match rest with
      | [] => .help
      | next :: _ => .refused (.unknownCommand next)

/-- Reads the arguments after the name of a command. -/
def readOperands (c : CommandName) (arguments : List String) : Except Interruption Level :=
  match Level.takeAll { command := some c } arguments with
  | .error i => .error i
  | .ok l => if (l.value? c.operand).isSome then .ok l else .error (.refused .argumentMissing)

/-- The levels of the arguments, that of the command and that in front of it. -/
def readLevels (l : Level) : List String → Except Interruption (CommandName × Level × Level)
  | [] =>
    match l.complete with
    | .error i => .error i
    | .ok l =>
      .error (.refused (if l.given.isEmpty then .nothingGiven else .commandMissing))
  | argument :: rest =>
    if !l.literal && !l.expectsValue && argument == helpWord then .error (helpOn rest)
    else
      match if l.literal || l.expectsValue then none else CommandName.ofWord? argument with
      | some c =>
        match readOperands c rest with
        | .error i => .error i
        | .ok inner =>
          match l.complete with
          | .error i => .error i
          | .ok l => .ok (c, inner, l)
      | none =>
        match l.take argument with
        | .error i => .error i
        | .ok l => readLevels l rest

/-- The settings that two levels give; the one after the name of the command comes first. -/
def settingsOf (inner outer : Level) : Settings :=
  let value? (p : Parameter) : Option String := (inner.value? p).or (outer.value? p)
  { output := ((value? .output).bind OutputFormat.ofName?).getD .text
    quiet := (value? .quiet).isSome
    verbose := (value? .verbose).isSome
    config := value? .config
    root := (value? .root).getD "." }

def commandOf (c : CommandName) (l : Level) : Command :=
  let operand := (l.value? c.operand).getD ""
  match c with
  | .parse => .parse operand
  | .check => .check operand
  | .run =>
    .run operand
      (l.given.filterMap fun (p, value) => if p = .variable then binding? value else none)
  | .exec => .exec operand
  | .actions => .actions operand ((l.value? .location).bind Location.ofName?)

def readArguments (arguments : List String) : Except Interruption (Settings × Command) :=
  match readLevels {} arguments with
  | .error i => .error i
  | .ok (c, inner, outer) => .ok (settingsOf inner outer, commandOf c inner)

end PromptScript
