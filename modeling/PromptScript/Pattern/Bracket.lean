import PromptScript.Pattern.Escape

/-!
# Pattern.Bracket

Classes of characters in square brackets: characters, ranges, escapes and nested brackets, combined
by intersection `&&`, difference `--` and symmetric difference `~~`, which group to the left and
bind less tightly than the listing of members.
-/

namespace PromptScript

namespace Pattern

/-- A member of a class, with the depth of the brackets and lists inside it. -/
structure Member where
  set : CharSet
  depth : Nat

/-- The members listed so far, the last one first, as one member. -/
def listed : List Member → Member
  | [] => ⟨.none, 0⟩
  | [m] => m
  | members =>
    ⟨CharSet.unions (members.reverse.map (·.set)),
      (members.foldl (fun d m => max d m.depth) 0) + 1⟩

/-- An operation between two lists of members. -/
inductive SetOperation where
  | inter
  | diff
  | symmDiff

def SetOperation.apply : SetOperation → CharSet → CharSet → CharSet
  | .inter, a, b => .inter a b
  | .diff, a, b => .diff a b
  | .symmDiff, a, b => .symmDiff a b

/-- The member that an operation with its left side makes of its right side. -/
def combined (flags : Flags) (pending : Option (SetOperation × Member)) (right : Member) : Member :=
  match pending with
  | none => right
  | some (op, left) =>
    ⟨op.apply (folded flags left.set) (folded flags right.set), max left.depth right.depth + 1⟩

/-- A class between colons, after the bracket that opens it; `none` if it is not one. -/
def asciiClass? (flags : Flags) (cs : List Char) : Option (CharSet × List Char) :=
  match cs with
  | ':' :: rest =>
    let (negated, rest) :=
      match rest with
      | '^' :: rest => (true, rest)
      | rest => (false, rest)
    match rest.dropWhile (· ≠ ':') with
    | ':' :: ']' :: after =>
      (CharSet.ofAsciiName? (rest.takeWhile (· ≠ ':'))).map fun s =>
        (signed negated (folded flags s), after)
    | _ => none
  | _ => none

def readMember? (flags : Flags) : List Char → Option (Atom × List Char)
  | [] => none
  | '\\' :: rest => readEscape? flags rest
  | c :: rest => some (.char c false, rest)

/-- The character that an atom of a class stands for as a member or as an end of a range. Under
ASCII rules only ASCII and written bytes can stand there. -/
def memberChar? (flags : Flags) : Atom → Option Char
  | .char c byte => if flags.unicode || byte || c.toNat < 128 then some c else none
  | _ => none

def memberSet? (flags : Flags) : Atom → Option CharSet
  | .set s => some s
  | a => (memberChar? flags a).map .single

/-- A member of a class: an atom, or a range between two characters. A hyphen before the closing
bracket or before another hyphen makes no range. -/
def readRange? (flags : Flags) (cs : List Char) : Option (CharSet × List Char) :=
  match readMember? flags cs with
  | none => none
  | some (first, rest) =>
    let alone (rest : List Char) : Option (CharSet × List Char) :=
      (memberSet? flags first).map fun s => (s, rest)
    match skip flags rest with
    | [] => none
    | '-' :: more =>
      match skip flags more with
      | [] => none
      | ']' :: _ => alone ('-' :: more)
      | '-' :: _ => alone ('-' :: more)
      | more =>
        match readMember? flags more with
        | none => none
        | some (last, after) =>
          match memberChar? flags first, memberChar? flags last with
          | some a, some b => if a ≤ b then some (.span a.toNat b.toNat, after) else none
          | _, _ => none
    | rest => alone rest

/-- The number of hyphens at the start of a class, and what follows them. -/
def leadingHyphens (verbose comment : Bool) : List Char → Nat × List Char
  | [] => (0, [])
  | c :: rest =>
    if comment then leadingHyphens verbose (c ≠ '\n') rest
    else if c = '-' then
      let (n, after) := leadingHyphens verbose false rest
      (n + 1, after)
    else if verbose && isBlank c then leadingHyphens verbose false rest
    else if verbose && c = '#' then leadingHyphens verbose true rest
    else (0, c :: rest)

/-- The members that stand first in a class for themselves: any number of hyphens or else a closing
bracket. -/
def firstMembers (flags : Flags) (cs : List Char) : List Member × List Char :=
  match leadingHyphens flags.verbose false cs with
  | (0, ']' :: rest) => ([⟨.single ']', 0⟩], rest)
  | (n, rest) => (List.replicate n ⟨.single '-', 0⟩, rest)

mutual

/-- A class, after the bracket that opens it. The depth counts the brackets, lists and operations
inside. -/
def readBracket? (flags : Flags) : Nat → List Char → Option (Member × List Char)
  | 0, _ => none
  | fuel + 1, cs =>
    let (negated, cs) :=
      match skip flags cs with
      | '^' :: rest => (true, skip flags rest)
      | cs => (false, cs)
    let (first, rest) := firstMembers flags cs
    match readMembers? flags fuel first none rest with
    | none => none
    | some (body, after) =>
      (ruled? flags (signed negated (folded flags body.set))).map fun s =>
        (⟨s, body.depth + 1⟩, after)

/-- The members up to the closing bracket; `members` are those of the current list, the last one
first, and `pending` is the operation that waits for it. -/
def readMembers? (flags : Flags) : Nat → List Member → Option (SetOperation × Member) → List Char →
    Option (Member × List Char)
  | 0, _, _, _ => none
  | fuel + 1, members, pending, cs =>
    let left := combined flags pending (listed members)
    match skip flags cs with
    | [] => none
    | ']' :: rest => some (left, rest)
    | '[' :: rest =>
      match asciiClass? flags rest with
      | some (s, after) =>
        match ruled? flags s with
        | none => none
        | some s => readMembers? flags fuel (⟨s, 0⟩ :: members) pending after
      | none =>
        match readBracket? flags fuel rest with
        | none => none
        | some (m, after) => readMembers? flags fuel (m :: members) pending after
    | '&' :: '&' :: rest => readMembers? flags fuel [] (some (.inter, left)) rest
    | '-' :: '-' :: rest => readMembers? flags fuel [] (some (.diff, left)) rest
    | '~' :: '~' :: rest => readMembers? flags fuel [] (some (.symmDiff, left)) rest
    | cs =>
      match readRange? flags cs with
      | none => none
      | some (s, after) => readMembers? flags fuel (⟨s, 0⟩ :: members) pending after

end

end Pattern

end PromptScript
