import PromptScript.Pattern.Reader
import PromptScript.Header.Value
import PromptScript.Pipeline.Token

/-!
# Pipeline.Expression

Expressions of the pattern language. An expression is an action,

    /pattern/ { verb | verb("argument", ...) | ... }

or a case match,

    case "subject" { "key" /pattern/ { ... } ... }

Patterns, verbs and the number of their arguments are checked while reading, so that a pipeline
that cannot run is found here. Sort keys are looked at only when the pipeline runs. Which texts write
a pattern is left open: the readers take a check of patterns and use it for triggers and `grep`.
-/

namespace PromptScript

inductive ExpressionFault where
  | lexical (f : LexicalFault)
  | expectedSign (sign : Char) (got : Token)
  | expectedVerb (got : Token)
  | expectedText (got : Token)
  | expectedPattern (got : Token)
  | trailing (got : Token)
  | badPattern (pattern : String) (f : PatternFault)
  | emptyPipeline (trigger : String)
  | promptArguments (n : Nat)
  | grepArguments
  | xargsVariables (n : Nat)
  | unknownVerb (word : String)
  | duplicateCase (key : String)
  deriving DecidableEq, Repr

namespace ExpressionFault

/-- The largest number of variables that one `xargs` binds. -/
def mostVariables : Nat := 5

def message : ExpressionFault → String
  | .lexical f => f.message
  | .expectedSign sign got => "expected '" ++ String.singleton sign ++ "', got " ++ got.shown
  | .expectedVerb got => "expected verb name, got " ++ got.shown
  | .expectedText got => "expected string literal, got " ++ got.shown
  | .expectedPattern got => "expected /pattern/, got " ++ got.shown
  | .trailing got => "unexpected " ++ got.shown ++ " after expression"
  | .badPattern pattern f => "invalid regex '" ++ pattern ++ "': " ++ f.message
  | .emptyPipeline trigger => "pattern action '/" ++ trigger ++ "/' has an empty pipeline"
  | .promptArguments n => "prompt takes exactly 1 argument, got " ++ toString n
  | .grepArguments => "grep needs at least 1 pattern"
  | .xargsVariables n =>
    "xargs binds 1 to " ++ toString mostVariables ++ " variables, got " ++ toString n
  | .unknownVerb word => "unknown pattern processor '" ++ word ++ "'"
  | .duplicateCase key => "duplicate case '" ++ key ++ "'"

end ExpressionFault

abbrev Checked (α : Type) := Except ExpressionFault α

abbrev Placed (α : Type) := Except (AtLine ExpressionFault) α

namespace Expression

/-- The check that headers are read with. -/
def checkPattern (pattern : String) : Checked Unit :=
  match Pattern.read pattern with
  | .ok _ => .ok ()
  | .error f => .error (.badPattern pattern f)

/-- Checks texts in order, up to the first that writes no pattern. -/
def checkPatterns (check : String → Checked Unit) : List String → Checked Unit
  | [] => .ok ()
  | p :: rest =>
    match check p with
    | .error f => .error f
    | .ok () => checkPatterns check rest

def verbOf (check : String → Checked Unit) (word : String) (arguments : List String) :
    Checked Verb :=
  match word with
  | "prompt" =>
    match arguments with
    | [message] => .ok (.prompt message)
    | _ => .error (.promptArguments arguments.length)
  | "grep" =>
    match arguments with
    | [] => .error .grepArguments
    | _ => (checkPatterns check arguments).map fun _ => .grep arguments
  | "sort" => .ok (.sort arguments)
  | "xargs" =>
    if arguments.isEmpty ∨ ExpressionFault.mostVariables < arguments.length then
      .error (.xargsVariables arguments.length)
    else .ok (.xargs arguments)
  | _ => .error (.unknownVerb word)

def onLine {α : Type} (line : Nat) (c : Checked α) : Placed α :=
  match c with
  | .ok a => .ok a
  | .error f => .error ⟨line, f⟩

/-- The next token; past the last there is only the end. -/
def next : List PlacedToken → PlacedToken
  | [] => ⟨.done, 0⟩
  | t :: _ => t

/-- The rest after a certain sign. -/
def expect (t : Token) (sign : Char) : List PlacedToken → Placed (List PlacedToken)
  | ts =>
    match ts with
    | p :: rest =>
      if p.token = t then .ok rest else .error ⟨p.line, .expectedSign sign p.token⟩
    | [] => .error ⟨0, .expectedSign sign .done⟩

/-- The texts after commas, and the rest. -/
def moreTexts : List PlacedToken → Placed (List String × List PlacedToken)
  | ⟨.comma, _⟩ :: ⟨.text s, _⟩ :: rest =>
    match moreTexts rest with
    | .error e => .error e
    | .ok (texts, rest) => .ok (s :: texts, rest)
  | ⟨.comma, _⟩ :: rest => .error ⟨(next rest).line, .expectedText (next rest).token⟩
  | rest => .ok ([], rest)

/-- The arguments after an opening parenthesis, up to the closing one. -/
def closedArguments : List PlacedToken → Placed (List String × List PlacedToken)
  | ⟨.closeParen, _⟩ :: rest => .ok ([], rest)
  | ⟨.text s, _⟩ :: rest =>
    match moreTexts rest with
    | .error e => .error e
    | .ok (texts, rest) =>
      match expect .closeParen ')' rest with
      | .error e => .error e
      | .ok rest => .ok (s :: texts, rest)
  | rest => .error ⟨(next rest).line, .expectedText (next rest).token⟩

/-- The arguments of a call; a call without parentheses has none. -/
def arguments : List PlacedToken → Placed (List String × List PlacedToken)
  | ⟨.openParen, _⟩ :: rest => closedArguments rest
  | rest => .ok ([], rest)

def call (check : String → Checked Unit) : List PlacedToken → Placed (Verb × List PlacedToken)
  | ⟨.word w, line⟩ :: rest =>
    match arguments rest with
    | .error e => .error e
    | .ok (args, rest) =>
      match onLine line (verbOf check w args) with
      | .error e => .error e
      | .ok v => .ok (v, rest)
  | rest => .error ⟨(next rest).line, .expectedVerb (next rest).token⟩

theorem length_expect {t : Token} {sign : Char} {ts rest : List PlacedToken}
    (h : expect t sign ts = .ok rest) : rest.length < ts.length := by
  cases ts with
  | nil => simp [expect] at h
  | cons p more =>
    simp only [expect] at h
    split at h
    · cases h
      simp
    · simp at h

theorem length_moreTexts {ts : List PlacedToken} {r : List String × List PlacedToken}
    (h : moreTexts ts = .ok r) : r.2.length ≤ ts.length := by
  fun_induction moreTexts ts generalizing r with
  | case1 _ _ _ rest e he => simp at h
  | case2 _ _ _ rest texts more he ih =>
    cases h
    have := ih he
    simp only [List.length_cons] at this ⊢
    omega
  | case3 => simp at h
  | case4 => cases h; exact Nat.le_refl _

theorem length_arguments {ts : List PlacedToken} {r : List String × List PlacedToken}
    (h : arguments ts = .ok r) : r.2.length ≤ ts.length := by
  unfold arguments at h
  split at h
  · unfold closedArguments at h
    split at h
    · cases h
      simp only [List.length_cons]
      omega
    · split at h
      · simp at h
      · rename_i hmore
        split at h
        · simp at h
        · rename_i hclose
          cases h
          have h1 := length_moreTexts hmore
          have h2 := length_expect hclose
          simp only [List.length_cons] at h1 h2 ⊢
          omega
    · simp at h
  · cases h
    exact Nat.le_refl _

theorem length_call {check : String → Checked Unit} {ts : List PlacedToken}
    {r : Verb × List PlacedToken} (h : call check ts = .ok r) : r.2.length < ts.length := by
  unfold call at h
  split at h
  · split at h
    · simp at h
    · rename_i hargs
      split at h
      · simp at h
      · cases h
        have := length_arguments hargs
        simp only [List.length_cons] at this ⊢
        omega
  · simp at h

/-- The verbs after bars, and the rest. -/
def moreVerbs (check : String → Checked Unit) (ts : List PlacedToken) :
    Placed (List Verb × List PlacedToken) :=
  match ts with
  | ⟨.bar, _⟩ :: rest =>
    match h : call check rest with
    | .error e => .error e
    | .ok (v, rest') =>
      have : rest'.length < rest.length + 1 := Nat.lt_succ_of_lt (length_call h)
      match moreVerbs check rest' with
      | .error e => .error e
      | .ok (vs, rest) => .ok (v :: vs, rest)
  | rest => .ok ([], rest)
  termination_by ts.length

/-- The verbs between braces, after the opening one; braces with nothing between them hold none. -/
def verbs (check : String → Checked Unit) (ts : List PlacedToken) :
    Placed (List Verb × List PlacedToken) :=
  match ts with
  | ⟨.closeBrace, _⟩ :: _ => .ok ([], ts)
  | _ =>
    match call check ts with
    | .error e => .error e
    | .ok (v, rest) =>
      match moreVerbs check rest with
      | .error e => .error e
      | .ok (vs, rest) => .ok (v :: vs, rest)

/-- An action. Its pattern is checked before what follows it is read. -/
def action (check : String → Checked Unit) (ts : List PlacedToken) :
    Placed (Action × List PlacedToken) :=
  match ts with
  | ⟨.pattern p, line⟩ :: rest =>
    match onLine line (check p) with
    | .error e => .error e
    | .ok () =>
      match expect .openBrace '\x7b' rest with
      | .error e => .error e
      | .ok rest =>
        match verbs check rest with
        | .error e => .error e
        | .ok (vs, rest) =>
          match expect .closeBrace '\x7d' rest with
          | .error e => .error e
          | .ok rest =>
            match Action.ofVerbs? p vs with
            | none => .error ⟨line, .emptyPipeline p⟩
            | some a => .ok (a, rest)
  | ts => .error ⟨(next ts).line, .expectedPattern (next ts).token⟩

theorem length_moreVerbs {check : String → Checked Unit} {ts : List PlacedToken}
    {r : List Verb × List PlacedToken} (h : moreVerbs check ts = .ok r) : r.2.length ≤ ts.length := by
  fun_induction moreVerbs check ts generalizing r with
  | case1 => simp at h
  | case2 => simp at h
  | case3 _ rest v rest' hcall hlt vs more hmore ih =>
    cases h
    have h1 := ih hmore
    have h2 := length_call hcall
    simp only [List.length_cons] at h1 h2 ⊢
    omega
  | case4 => cases h; exact Nat.le_refl _

theorem length_verbs {check : String → Checked Unit} {ts : List PlacedToken}
    {r : List Verb × List PlacedToken} (h : verbs check ts = .ok r) : r.2.length ≤ ts.length := by
  unfold verbs at h
  split at h
  · cases h
    exact Nat.le_refl _
  · split at h
    · simp at h
    · rename_i hcall
      split at h
      · simp at h
      · rename_i hmore
        cases h
        have h1 := length_moreVerbs hmore
        have h2 := length_call hcall
        simp only at h1 h2 ⊢
        omega

theorem length_action {check : String → Checked Unit} {ts : List PlacedToken}
    {r : Action × List PlacedToken} (h : action check ts = .ok r) : r.2.length < ts.length := by
  unfold action at h
  split at h
  · split at h
    · simp at h
    · split at h
      · simp at h
      · rename_i hopen
        split at h
        · simp at h
        · rename_i hverbs
          split at h
          · simp at h
          · rename_i hclose
            split at h
            · simp at h
            · cases h
              have h1 := length_expect hopen
              have h2 := length_verbs hverbs
              have h3 := length_expect hclose
              simp only [List.length_cons] at h1 h2 h3 ⊢
              omega
  · simp at h

/-- The arms of a case match up to the closing brace, added to those found so far. -/
def arms (check : String → Checked Unit) (found : NameMap Action) (ts : List PlacedToken) :
    Placed (NameMap Action × List PlacedToken) :=
  match ts with
  | ⟨.closeBrace, _⟩ :: rest => .ok (found, rest)
  | ⟨.text key, line⟩ :: rest =>
    match h : action check rest with
    | .error e => .error e
    | .ok (a, rest') =>
      have : rest'.length < rest.length + 1 := Nat.lt_succ_of_lt (length_action h)
      if found.contains key then .error ⟨line, .duplicateCase key⟩
      else arms check (found.insert key a) rest'
  | ts => .error ⟨(next ts).line, .expectedText (next ts).token⟩
  termination_by ts.length

/-- A case match, after the word that begins it. -/
def caseMatch (check : String → Checked Unit) (ts : List PlacedToken) :
    Placed (CaseMatch × List PlacedToken) :=
  match ts with
  | ⟨.text subject, _⟩ :: rest =>
    match expect .openBrace '\x7b' rest with
    | .error e => .error e
    | .ok rest =>
      match arms check .empty rest with
      | .error e => .error e
      | .ok (found, rest) => .ok (⟨subject, found⟩, rest)
  | ts => .error ⟨(next ts).line, .expectedText (next ts).token⟩

def caseWord : String := "case"

/-- An expression at the start of the tokens. -/
def leading (check : String → Checked Unit) (ts : List PlacedToken) :
    Placed (Value × List PlacedToken) :=
  if (next ts).token = .word caseWord then
    (caseMatch check (ts.drop 1)).map fun (m, rest) => (.caseMatch m, rest)
  else (action check ts).map fun (a, rest) => (.action a, rest)

def ofTokens (check : String → Checked Unit) (ts : List PlacedToken) : Placed Value :=
  match leading check ts with
  | .error e => .error e
  | .ok (v, rest) =>
    if (next rest).token = .done then .ok v
    else .error ⟨(next rest).line, .trailing (next rest).token⟩

/-- The expression that a text writes, the text starting on the given line; `check` tells which texts
write a pattern. -/
def ofTextWith (check : String → Checked Unit) (text : String) (line : Nat) : Placed Value :=
  match Token.ofText text line with
  | .error e => .error (e.map .lexical)
  | .ok ts => ofTokens check ts

/-- The expression that a text writes, the text starting on the given line. -/
def ofText (text : String) (line : Nat) : Placed Value := ofTextWith checkPattern text line

end Expression

end PromptScript
