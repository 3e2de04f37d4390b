import PromptScript.Pattern.Bracket

/-!
# Pattern.Reader

Reading a pattern from its text. The text is read from left to right with the groups that are still
open kept on a stack; each step takes at least one character.
-/

namespace PromptScript

/-- Why a text is no pattern, in the words of the library that refuses it. -/
structure PatternFault where
  message : String
  deriving DecidableEq, Repr

namespace Pattern

/-- A part of a sequence: a pattern with the depth of its nesting. A setting of flags is a part
that cannot be repeated. -/
structure Part where
  pattern : Pattern
  depth : Nat
  repeatable : Bool := true

/-- A group that is still open: what stands before it in the enclosing group, and the flags to go
back to. -/
structure OpenGroup where
  parts : List Part
  branches : List Part
  flags : Flags

/-- How far a pattern has been read. Lists hold the last element first. -/
structure Reading where
  flags : Flags := {}
  /-- The parts of the current branch. -/
  parts : List Part := []
  /-- The finished branches of the current group. -/
  branches : List Part := []
  groups : List OpenGroup := []
  /-- The names that groups have been given. -/
  names : List (List Char) := []

def depthOver (parts : List Part) : Nat := parts.foldl (fun d p => max d p.depth) 0 + 1

def sequence : List Part → Part
  | [] => ⟨.empty, 0, true⟩
  | [p] => p
  | parts => ⟨seqs (parts.reverse.map (·.pattern)), depthOver parts, true⟩

def choice : List Part → Part
  | [] => ⟨.empty, 0, true⟩
  | [p] => p
  | branches => ⟨alts (branches.reverse.map (·.pattern)), depthOver branches, true⟩

def Reading.body (r : Reading) : Part := choice (sequence r.parts :: r.branches)

def Reading.add (r : Reading) (p : Part) : Reading := { r with parts := p :: r.parts }

def Flags.put? (flags : Flags) (value : Bool) : Char → Option Flags
  | 'i' => some { flags with caseless := value }
  | 'm' => some { flags with multiLine := value }
  | 's' => some { flags with dotAll := value }
  | 'u' => some { flags with unicode := value }
  | 'R' => some { flags with anyLineEnd := value }
  | 'x' => some { flags with verbose := value }
  | 'U' => some flags
  | _ => none

/-- The flags that letters give: those after a hyphen are cleared. No letter stands twice, and a
hyphen stands at most once and not last. -/
def flagsOf? (flags : Flags) (value : Bool) : List Char → Option Flags
  | [] => some flags
  | '-' :: rest => if value && rest ≠ [] then flagsOf? flags false rest else none
  | c :: rest =>
    if rest.contains c then none
    else (flags.put? value c).bind fun flags => flagsOf? flags value rest

def isGroupNameChar (first : Bool) (c : Char) : Bool :=
  if first then c == '_' || isLetter c
  else c == '_' || c == '.' || c == '[' || c == ']' || isLetterOrNumber c

/-- A group's name, up to the angle bracket after it. -/
def groupName? (cs : List Char) : Option (List Char × List Char) :=
  match cs.takeWhile (· ≠ '>'), cs.dropWhile (· ≠ '>') with
  | c :: more, _ :: rest =>
    if isGroupNameChar true c && more.all (isGroupNameChar false) then some (c :: more, rest)
    else none
  | _, _ => none

def Reading.open (r : Reading) (flags : Flags) : Reading :=
  { r with
    flags := flags, parts := [], branches := [],
    groups := ⟨r.parts, r.branches, r.flags⟩ :: r.groups }

def Reading.openNamed? (r : Reading) (cs : List Char) : Option (Reading × List Char) :=
  match groupName? cs with
  | none => none
  | some (name, rest) =>
    if r.names.contains name then none
    else some ({ r.open r.flags with names := name :: r.names }, rest)

/-- What follows an opening parenthesis: a group, or a setting of flags. -/
def Reading.openGroup? (r : Reading) (cs : List Char) : Option (Reading × List Char) :=
  match skip r.flags cs with
  | '?' :: '=' :: _ => none
  | '?' :: '!' :: _ => none
  | '?' :: '<' :: '=' :: _ => none
  | '?' :: '<' :: '!' :: _ => none
  | '?' :: 'P' :: '<' :: rest => r.openNamed? rest
  | '?' :: '<' :: rest => r.openNamed? rest
  | '?' :: rest =>
    let letters := rest.takeWhile fun c => c ≠ ':' && c ≠ ')'
    match flagsOf? r.flags true letters, rest.drop letters.length with
    | some flags, ':' :: after => some (r.open flags, after)
    | some flags, ')' :: after =>
      if letters = [] then none
      else some ({ r with flags := flags, parts := ⟨.empty, 0, false⟩ :: r.parts }, after)
    | _, _ => none
  | cs => some (r.open r.flags, cs)

def Reading.closeGroup? (r : Reading) : Option Reading :=
  match r.groups with
  | [] => none
  | g :: groups =>
    let body := r.body
    some { r with
      flags := g.flags, parts := ⟨body.pattern, body.depth + 1, true⟩ :: g.parts,
      branches := g.branches, groups := groups }

/-- Repeats the last part of the current branch. -/
def Reading.repeat? (r : Reading) (least : Nat) (most : Option Nat) : Option Reading :=
  match r.parts with
  | [] => none
  | p :: parts =>
    if p.repeatable then
      some { r with parts := ⟨.rep least most p.pattern, p.depth + 1, true⟩ :: parts }
    else none

/-- The rest after a question mark, which makes a repetition reluctant and changes no match. -/
def afterReluctance : List Char → List Char
  | '?' :: rest => rest
  | cs => cs

/-- The counts between braces, after the opening one. -/
def readCounts? (flags : Flags) (cs : List Char) : Option (Nat × Option Nat × List Char) :=
  match readCount? flags (skip flags cs) with
  | none => none
  | some (least, rest) =>
    match rest with
    | '\x7d' :: rest => some (least, some least, rest)
    | ',' :: rest =>
      match skip flags rest with
      | '\x7d' :: rest => some (least, none, rest)
      | rest =>
        match readCount? flags rest with
        | some (most, '\x7d' :: rest) =>
          if least ≤ most then some (least, some most, rest) else none
        | _ => none
    | _ => none

/-- A character as a pattern of its own. Under ASCII rules only ASCII characters have cases, and a
byte outside ASCII stands for no character. -/
def charPattern? (flags : Flags) (c : Char) (byte : Bool) : Option Pattern :=
  if flags.unicode || c.toNat < 128 then some (.set (folded flags (.single c)))
  else if byte || flags.caseless then none
  else some (.set (.single c))

/-- The dot: any character, or any that ends no line. -/
def dotPattern? (flags : Flags) : Option Pattern :=
  if !flags.unicode then none
  else if flags.dotAll then some (.set .all)
  else if flags.anyLineEnd then some (.set (.compl (.union (.single '\n') (.single '\r'))))
  else some (.set (.compl (.single '\n')))

/-- The start of the text or of a line. -/
def startLook (flags : Flags) : Look :=
  if !flags.multiLine then .textStart else if flags.anyLineEnd then .anyLineStart else .lineStart

/-- The end of the text or of a line. -/
def endLook (flags : Flags) : Look :=
  if !flags.multiLine then .textEnd else if flags.anyLineEnd then .anyLineEnd else .lineEnd

def atomPattern? (flags : Flags) : Atom → Option Pattern
  | .char c byte => charPattern? flags c byte
  | .set s => some (.set s)
  | .look l => some (.look l)

/-- Reads what starts with the character `c`, which counts. -/
def Reading.step? (r : Reading) (c : Char) (rest : List Char) : Option (Reading × List Char) :=
  let atom (p : Option Pattern) (rest : List Char) : Option (Reading × List Char) :=
    p.map fun p => (r.add ⟨p, 0, true⟩, rest)
  match c with
  | '(' => r.openGroup? rest
  | ')' => r.closeGroup?.map fun r => (r, rest)
  | '|' => some ({ r with parts := [], branches := sequence r.parts :: r.branches }, rest)
  | '[' =>
    (readBracket? r.flags (2 * rest.length + 2) rest).map fun (m, after) =>
      (r.add ⟨.set m.set, m.depth, true⟩, after)
  | '?' => (r.repeat? 0 (some 1)).map fun r => (r, afterReluctance rest)
  | '*' => (r.repeat? 0 none).map fun r => (r, afterReluctance rest)
  | '+' => (r.repeat? 1 none).map fun r => (r, afterReluctance rest)
  | '\x7b' =>
    match readCounts? r.flags rest with
    | none => none
    | some (least, most, after) =>
      (r.repeat? least most).map fun r' => (r', afterReluctance (skip r.flags after))
  | '\\' =>
    match readEscape? r.flags rest with
    | none => none
    | some (a, after) => atom (atomPattern? r.flags a) after
  | '.' => atom (dotPattern? r.flags) rest
  | '^' => atom (some (.look (startLook r.flags))) rest
  | '$' => atom (some (.look (endLook r.flags))) rest
  | c => atom (charPattern? r.flags c false) rest

def readFrom? : Nat → Reading → List Char → Option Part
  | 0, _, _ => none
  | fuel + 1, r, cs =>
    match skip r.flags cs with
    | [] => if r.groups.isEmpty then some r.body else none
    | c :: rest =>
      match r.step? c rest with
      | none => none
      | some (r, after) => readFrom? fuel r after

/-- The deepest nesting that a pattern may have. -/
def depthLimit : Nat := 250

/-- The text does not follow the rules of patterns. -/
def malformed : PatternFault := ⟨"regex parse error"⟩

def read (text : String) : Except PatternFault Pattern :=
  match readFrom? (text.toList.length + 1) {} text.toList with
  | none => .error malformed
  | some part => if depthLimit < part.depth then .error malformed else .ok part.pattern

end Pattern

end PromptScript
