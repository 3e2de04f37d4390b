import PromptScript.Pattern.Reader
import PromptScript.Proofs.PatternSearch

/-!
# Proofs.PatternReading

What reading a pattern does to the text and to the groups that are open. Each reader leaves an end
of the text that it was given (`readEscape?_suffix` and its like). `Reading.Step` says what one step
can do. Along a whole reading every open group is closed by a parenthesis of its own
(`groups_le_of_readFrom?`), and what is read has its counts in order (`ordered_of_read`).
-/

namespace PromptScript

namespace Pattern

variable {flags : Flags} {cs rest : List Char}

/-! ## What is left of the text -/

theorem dropBlanks_suffix (comment : Bool) (cs : List Char) : dropBlanks comment cs <:+ cs := by
  induction cs generalizing comment with
  | nil => exact List.suffix_rfl
  | cons c cs ih =>
    rw [dropBlanks]
    split
    · exact (ih _).trans (List.suffix_cons c cs)
    · split
      · exact (ih _).trans (List.suffix_cons c cs)
      · split
        · exact (ih _).trans (List.suffix_cons c cs)
        · exact List.suffix_rfl

theorem skip_suffix (flags : Flags) (cs : List Char) : skip flags cs <:+ cs := by
  rw [skip]
  split
  · exact dropBlanks_suffix false cs
  · exact List.suffix_rfl

theorem untilBrace?_suffix {verbose comment : Bool} {text : List Char}
    (h : untilBrace? verbose comment cs = some (text, rest)) : rest <:+ cs := by
  induction cs generalizing comment text with
  | nil => cases h
  | cons c cs ih =>
    refine List.IsSuffix.trans ?_ (List.suffix_cons c cs)
    rw [untilBrace?] at h
    split at h
    · exact ih h
    · split at h
      · exact ih h
      · split at h
        · exact ih h
        · split at h
          · cases h
            exact List.suffix_rfl
          · obtain ⟨⟨text', rest'⟩, hmore, heq⟩ := Option.map_eq_some_iff.1 h
            cases heq
            exact ih hmore

theorem leadingDigits_suffix (verbose comment : Bool) (cs : List Char) :
    (leadingDigits verbose comment cs).2 <:+ cs := by
  induction cs generalizing comment with
  | nil => exact List.suffix_rfl
  | cons c cs ih =>
    rw [leadingDigits]
    split
    · exact (ih _).trans (List.suffix_cons c cs)
    · split
      · exact (ih _).trans (List.suffix_cons c cs)
      · split
        · exact (ih _).trans (List.suffix_cons c cs)
        · split
          · exact (ih _).trans (List.suffix_cons c cs)
          · exact List.suffix_rfl

theorem readCount?_suffix {n : Nat} (h : readCount? flags cs = some (n, rest)) : rest <:+ cs := by
  have hdigits := leadingDigits_suffix flags.verbose false (cs.dropWhile isBlank)
  rw [readCount?] at h
  split at h
  · cases h
  · rename_i digits after _ heq
    rw [heq] at hdigits
    split at h
    · cases h
    · cases h
      exact (List.dropWhile_suffix isBlank).trans (hdigits.trans (List.dropWhile_suffix isBlank))

theorem hexDigits?_suffix {n : Nat} {digits : List Char}
    (h : hexDigits? flags n cs = some (digits, rest)) : rest <:+ cs := by
  induction n generalizing cs digits with
  | zero =>
    cases h
    exact List.suffix_rfl
  | succ n ih =>
    cases cs with
    | nil => cases h
    | cons c cs =>
      rw [hexDigits?] at h
      split at h
      · obtain ⟨⟨digits', rest'⟩, hmore, heq⟩ := Option.map_eq_some_iff.1 h
        cases heq
        exact (ih hmore).trans ((skip_suffix flags cs).trans (List.suffix_cons c cs))
      · cases h

theorem readCodePoint?_suffix {width : Nat} {a : Atom}
    (h : readCodePoint? flags width cs = some (a, rest)) : rest <:+ cs := by
  refine List.IsSuffix.trans ?_ (skip_suffix flags cs)
  rw [readCodePoint?] at h
  split at h
  · rename_i more hskip
    rw [hskip]
    split at h
    · cases h
    · rename_i digits after huntil
      split at h
      · obtain ⟨c, _, heq⟩ := Option.map_eq_some_iff.1 h
        cases heq
        exact (skip_suffix flags after).trans
          ((untilBrace?_suffix huntil).trans (List.suffix_cons _ more))
      · cases h
  · split at h
    · cases h
    · rename_i digits after hhex
      obtain ⟨c, _, heq⟩ := Option.map_eq_some_iff.1 h
      cases heq
      exact hexDigits?_suffix hhex

theorem readProperty?_suffix {negated : Bool} {a : Atom}
    (h : readProperty? flags negated cs = some (a, rest)) : rest <:+ cs := by
  refine List.IsSuffix.trans ?_ (skip_suffix flags cs)
  rw [readProperty?] at h
  split at h
  · rename_i s after hfound
    split at h
    · cases h
      split at hfound
      · cases hfound
      · rename_i more hskip
        rw [hskip]
        split at hfound
        · cases hfound
        · rename_i text after huntil
          obtain ⟨s, _, heq⟩ := Option.map_eq_some_iff.1 hfound
          cases heq
          exact (untilBrace?_suffix huntil).trans (List.suffix_cons _ more)
      · cases hfound
      · rename_i c more _ _ hskip
        rw [hskip]
        obtain ⟨s, _, heq⟩ := Option.map_eq_some_iff.1 hfound
        cases heq
        exact (skip_suffix flags more).trans (List.suffix_cons c more)
    · cases h
  · cases h

theorem readBoundary?_suffix {a : Atom} (h : readBoundary? flags cs = some (a, rest)) :
    rest <:+ cs := by
  rw [readBoundary?.eq_def] at h
  split at h
  · rename_i more
    split at h
    · cases h
    · rename_i c more' hskip
      split at h
      · split at h
        · cases h
        · rename_i name after huntil
          obtain ⟨l, _, heq⟩ := Option.map_eq_some_iff.1 h
          cases heq
          rw [← hskip] at huntil
          exact (untilBrace?_suffix huntil).trans
            ((skip_suffix flags more).trans (List.suffix_cons _ more))
      · cases h
        exact List.suffix_rfl
  · cases h
    exact List.suffix_rfl

/-- A backslash introduces a code point, a class of the standard or a boundary, or the one character
after it. -/
theorem readEscape?_cases {a : Atom} {c : Char} (h : readEscape? flags (c :: cs) = some (a, rest)) :
    (∃ width, readCodePoint? flags width cs = some (a, rest)) ∨
      (∃ negated, readProperty? flags negated cs = some (a, rest)) ∨
        readBoundary? flags cs = some (a, rest) ∨ rest = cs := by
  have hset : ∀ {s : Option CharSet}, s.map (fun s => (Atom.set s, cs)) = some (a, rest) →
      rest = cs := by
    intro s hs
    obtain ⟨s, _, heq⟩ := Option.map_eq_some_iff.1 hs
    cases heq
    rfl
  unfold readEscape? at h
  dsimp only at h
  split at h
  case h_1 => exact .inl ⟨2, h⟩
  case h_2 => exact .inl ⟨4, h⟩
  case h_3 => exact .inl ⟨8, h⟩
  case h_4 => exact .inr (.inl ⟨false, h⟩)
  case h_5 => exact .inr (.inl ⟨true, h⟩)
  case h_20 => exact .inr (.inr (.inl h))
  case h_24 =>
    split at h
    · cases h
      exact .inr (.inr (.inr rfl))
    · cases h
  all_goals refine .inr (.inr (.inr ?_))
  case h_6 | h_7 | h_8 | h_9 | h_10 | h_11 => exact hset h
  all_goals
    cases h
    rfl

theorem readEscape?_suffix {a : Atom} {c : Char}
    (h : readEscape? flags (c :: cs) = some (a, rest)) : rest <:+ cs := by
  rcases readEscape?_cases h with ⟨width, h⟩ | ⟨negated, h⟩ | h | rfl
  · exact readCodePoint?_suffix h
  · exact readProperty?_suffix h
  · exact readBoundary?_suffix h
  · exact List.suffix_rfl

theorem asciiClass?_suffix {s : CharSet} (h : asciiClass? flags cs = some (s, rest)) :
    rest <:+ cs := by
  have hends : ∀ {name : List Char}, name.dropWhile (· ≠ ':') = ':' :: ']' :: rest →
      rest <:+ name := by
    intro name hdrop
    have hrest : rest <:+ ':' :: ']' :: rest := ⟨[':', ']'], rfl⟩
    exact (hdrop ▸ hrest).trans (List.dropWhile_suffix _)
  unfold asciiClass? at h
  split at h
  · rename_i more
    refine List.IsSuffix.trans ?_ (List.suffix_cons ':' more)
    dsimp only at h
    split at h
    · rename_i hdrop
      obtain ⟨s, _, heq⟩ := Option.map_eq_some_iff.1 h
      cases heq
      split at hdrop
      · exact (hends hdrop).trans (List.suffix_cons '^' _)
      · exact hends hdrop
    · cases h
  · cases h

theorem readMember?_suffix {a : Atom} (h : readMember? flags cs = some (a, rest)) :
    rest <:+ cs.tail := by
  unfold readMember? at h
  split at h
  · cases h
  · rename_i more
    cases more with
    | nil => cases h
    | cons c more => exact (readEscape?_suffix h).trans (List.suffix_cons c more)
  · cases h
    exact List.suffix_rfl

theorem readRange?_suffix {s : CharSet} (h : readRange? flags cs = some (s, rest)) :
    rest <:+ cs.tail := by
  unfold readRange? at h
  split at h
  · cases h
  · rename_i first more hfirst
    refine List.IsSuffix.trans ?_ ((skip_suffix flags more).trans (readMember?_suffix hfirst))
    have halone : ∀ {after : List Char},
        (memberSet? flags first).map (fun s => (s, after)) = some (s, rest) → rest = after := by
      intro after hset
      obtain ⟨s, _, heq⟩ := Option.map_eq_some_iff.1 hset
      cases heq
      rfl
    dsimp only at h
    split at h
    · cases h
    · rename_i more' hskip
      rw [hskip]
      have hmore := skip_suffix flags more'
      split at h
      · cases h
      · obtain rfl := halone h
        exact List.suffix_rfl
      · obtain rfl := halone h
        exact List.suffix_rfl
      · split at h
        · cases h
        · rename_i last after hlast
          have hafter := (readMember?_suffix hlast).trans
            ((List.tail_suffix _).trans (hmore.trans (List.suffix_cons '-' more')))
          split at h
          · split at h
            · cases h
              exact hafter
            · cases h
          · cases h
    · obtain rfl := halone h
      exact List.suffix_rfl

theorem leadingHyphens_suffix (verbose comment : Bool) (cs : List Char) :
    (leadingHyphens verbose comment cs).2 <:+ cs := by
  induction cs generalizing comment with
  | nil => exact List.suffix_rfl
  | cons c cs ih =>
    rw [leadingHyphens]
    split
    · exact (ih _).trans (List.suffix_cons c cs)
    · split
      · exact (ih _).trans (List.suffix_cons c cs)
      · split
        · exact (ih _).trans (List.suffix_cons c cs)
        · split
          · exact (ih _).trans (List.suffix_cons c cs)
          · exact List.suffix_rfl

theorem firstMembers_suffix (flags : Flags) (cs : List Char) :
    (firstMembers flags cs).2 <:+ cs := by
  have hhyphens := leadingHyphens_suffix flags.verbose false cs
  unfold firstMembers
  split
  · rename_i rest heq
    rw [heq] at hhyphens
    exact (List.suffix_cons ']' rest).trans hhyphens
  · rename_i heq
    rw [heq] at hhyphens
    exact hhyphens

/-- The members of a class from a bracket on that opens inside of it. -/
def readNested? (flags : Flags) (fuel : Nat) (members : List Member)
    (pending : Option (SetOperation × Member)) (cs : List Char) : Option (Member × List Char) :=
  match asciiClass? flags cs with
  | some (s, after) =>
    match ruled? flags s with
    | none => none
    | some s => readMembers? flags fuel (⟨s, 0⟩ :: members) pending after
  | none =>
    match readBracket? flags fuel cs with
    | none => none
    | some (m, after) => readMembers? flags fuel (m :: members) pending after

/-- What a class of so much fuel leaves is an end of its text. -/
def LeavesBracket (flags : Flags) (fuel : Nat) : Prop :=
  ∀ cs m rest, readBracket? flags fuel cs = some (m, rest) → rest <:+ cs

/-- What the members of a class of so much fuel leave is an end of their text. -/
def LeavesMembers (flags : Flags) (fuel : Nat) : Prop :=
  ∀ members pending cs m rest,
    readMembers? flags fuel members pending cs = some (m, rest) → rest <:+ cs

namespace LeavesMembers

variable {fuel : Nat}

theorem bracket (h : LeavesMembers flags fuel) : LeavesBracket flags (fuel + 1) := by
  intro cs m rest hread
  rw [readBracket?] at hread
  dsimp only at hread
  split at hread
  · cases hread
  · rename_i body after hmembers
    obtain ⟨s, _, heq⟩ := Option.map_eq_some_iff.1 hread
    cases heq
    refine (h _ _ _ _ _ hmembers).trans ((firstMembers_suffix flags _).trans ?_)
    refine List.IsSuffix.trans ?_ (skip_suffix flags cs)
    split
    · rename_i more hskip
      rw [hskip]
      exact (skip_suffix flags more).trans (List.suffix_cons '^' more)
    · exact List.suffix_rfl

theorem nested (h : LeavesMembers flags fuel) (hbracket : LeavesBracket flags fuel)
    {members : List Member} {pending : Option (SetOperation × Member)} {m : Member}
    (hread : readNested? flags fuel members pending cs = some (m, rest)) : rest <:+ cs := by
  rw [readNested?] at hread
  split at hread
  · rename_i s after hclass
    split at hread
    · cases hread
    · exact (h _ _ _ _ _ hread).trans (asciiClass?_suffix hclass)
  · split at hread
    · cases hread
    · rename_i inner after hinner
      exact (h _ _ _ _ _ hread).trans (hbracket _ _ _ hinner)

theorem succ (h : LeavesMembers flags fuel) (hbracket : LeavesBracket flags fuel) :
    LeavesMembers flags (fuel + 1) := by
  intro members pending cs m rest hread
  refine List.IsSuffix.trans ?_ (skip_suffix flags cs)
  unfold readMembers? at hread
  dsimp only at hread
  split at hread
  · cases hread
  · rename_i hskip
    cases hread
    rw [hskip]
    exact List.suffix_cons ']' rest
  · rename_i more hskip
    rw [hskip]
    exact (h.nested hbracket hread).trans (List.suffix_cons '[' more)
  · rename_i more hskip
    rw [hskip]
    exact (h _ _ _ _ _ hread).trans ⟨['&', '&'], rfl⟩
  · rename_i more hskip
    rw [hskip]
    exact (h _ _ _ _ _ hread).trans ⟨['-', '-'], rfl⟩
  · rename_i more hskip
    rw [hskip]
    exact (h _ _ _ _ _ hread).trans ⟨['~', '~'], rfl⟩
  · split at hread
    · cases hread
    · rename_i s after hrange
      exact (h _ _ _ _ _ hread).trans ((readRange?_suffix hrange).trans (List.tail_suffix _))

end LeavesMembers

theorem readClass_suffix (flags : Flags) (fuel : Nat) :
    LeavesBracket flags fuel ∧ LeavesMembers flags fuel := by
  induction fuel with
  | zero =>
    constructor
    · intro cs m rest h
      rw [readBracket?] at h
      cases h
    · intro members pending cs m rest h
      rw [readMembers?] at h
      cases h
  | succ fuel ih => exact ⟨ih.2.bracket, ih.2.succ ih.1⟩

theorem readBracket?_suffix {fuel : Nat} {m : Member}
    (h : readBracket? flags fuel cs = some (m, rest)) : rest <:+ cs :=
  (readClass_suffix flags fuel).1 _ _ _ h

theorem groupName?_suffix {name : List Char} (h : groupName? cs = some (name, rest)) :
    rest <:+ cs := by
  unfold groupName? at h
  split at h
  · rename_i c more close after _ hdrop
    split at h
    · cases h
      have hafter : rest <:+ cs.dropWhile (· ≠ '>') := hdrop ▸ List.suffix_cons close rest
      exact hafter.trans (List.dropWhile_suffix _)
    · cases h
  · cases h

theorem afterReluctance_suffix (cs : List Char) : afterReluctance cs <:+ cs := by
  unfold afterReluctance
  split
  · exact List.suffix_cons '?' _
  · exact List.suffix_rfl

theorem readCounts?_suffix {least : Nat} {most : Option Nat}
    (h : readCounts? flags cs = some (least, most, rest)) : rest <:+ cs := by
  unfold readCounts? at h
  split at h
  · cases h
  · rename_i n after hcount
    refine List.IsSuffix.trans ?_ ((readCount?_suffix hcount).trans (skip_suffix flags cs))
    split at h
    · cases h
      exact List.suffix_cons _ _
    · rename_i more
      refine List.IsSuffix.trans ?_ ((skip_suffix flags more).trans (List.suffix_cons ',' more))
      split at h
      · rename_i hskip
        cases h
        rw [hskip]
        exact List.suffix_cons _ _
      · split at h
        · rename_i hcount'
          split at h
          · cases h
            exact (List.suffix_cons _ _).trans (readCount?_suffix hcount')
          · cases h
        · cases h
    · cases h

theorem ordered_of_readCounts? {least : Nat} {most : Option Nat}
    (h : readCounts? flags cs = some (least, most, rest)) : ∀ m ∈ most, least ≤ m := by
  unfold readCounts? at h
  split at h
  · cases h
  · split at h
    · cases h
      rintro m ⟨⟩
      exact Nat.le_refl _
    · split at h
      · cases h
        nofun
      · split at h
        · split at h
          · cases h
            rintro m ⟨⟩
            assumption
          · cases h
        · cases h
    · cases h

/-! ## One step -/

namespace Reading

/-- What one step can do to a reading: which character it reads, what stands behind that, and what
is left of it. -/
inductive Step : Reading → Char → List Char → Reading → List Char → Prop where
  | add {r : Reading} {c : Char} {behind rest : List Char} {p : Part} :
      c ≠ '(' → c ≠ ')' → p.pattern.Ordered → rest <:+ behind → Step r c behind (r.add p) rest
  | repeated {r : Reading} {c : Char} {behind rest : List Char} {p : Part} {parts : List Part}
      {least : Nat} {most : Option Nat} :
      c ≠ '(' → c ≠ ')' → r.parts = p :: parts → (∀ m ∈ most, least ≤ m) → rest <:+ behind →
        Step r c behind { r with parts := ⟨.rep least most p.pattern, p.depth + 1, true⟩ :: parts }
          rest
  | branch {r : Reading} {behind : List Char} :
      Step r '|' behind { r with parts := [], branches := sequence r.parts :: r.branches } behind
  | opens {r : Reading} {behind rest : List Char} (flags : Flags) (names : List (List Char)) :
      rest <:+ behind → Step r '(' behind { r.open flags with names := names } rest
  /-- A setting of flags takes the parenthesis that closes it. -/
  | sets {r : Reading} {behind rest : List Char} (flags : Flags) :
      ')' :: rest <:+ behind →
        Step r '(' behind { r with flags := flags, parts := ⟨.empty, 0, false⟩ :: r.parts } rest
  | closes {r r' : Reading} {behind : List Char} :
      r.closeGroup? = some r' → Step r ')' behind r' behind

theorem ordered_of_charPattern? {c : Char} {byte : Bool} :
    ∀ p ∈ charPattern? flags c byte, p.Ordered := by
  unfold charPattern?
  split
  · rintro p ⟨⟩
    trivial
  · split
    · nofun
    · rintro p ⟨⟩
      trivial

theorem ordered_of_dotPattern? : ∀ p ∈ dotPattern? flags, p.Ordered := by
  unfold dotPattern?
  split
  · nofun
  · split
    · rintro p ⟨⟩
      trivial
    · split
      · rintro p ⟨⟩
        trivial
      · rintro p ⟨⟩
        trivial

theorem ordered_of_atomPattern? {a : Atom} : ∀ p ∈ atomPattern? flags a, p.Ordered := by
  cases a with
  | char c byte => exact ordered_of_charPattern?
  | set s =>
    rintro p ⟨⟩
    trivial
  | look l =>
    rintro p ⟨⟩
    trivial

theorem repeat?_eq_some_iff {r r' : Reading} {least : Nat} {most : Option Nat} :
    r.repeat? least most = some r' ↔ ∃ p parts, r.parts = p :: parts ∧ p.repeatable = true ∧
      r' = { r with parts := ⟨.rep least most p.pattern, p.depth + 1, true⟩ :: parts } := by
  unfold repeat?
  split
  · rename_i hparts
    simp [hparts]
  · rename_i p parts hparts
    rw [hparts]
    constructor
    · intro h
      split at h
      · rename_i hp
        cases h
        exact ⟨p, parts, rfl, hp, rfl⟩
      · cases h
    · rintro ⟨p, parts, heq, hp, rfl⟩
      cases heq
      exact if_pos hp

theorem step_of_openNamed? {r r' : Reading} {name behind : List Char}
    (h : r.openNamed? name = some (r', rest)) (hname : name <:+ behind) :
    Step r '(' behind r' rest := by
  unfold openNamed? at h
  split at h
  · cases h
  · rename_i found after hfound
    split at h
    · cases h
    · cases h
      exact .opens r.flags _ ((groupName?_suffix hfound).trans hname)

theorem step_of_openGroup? {r r' : Reading} (h : r.openGroup? cs = some (r', rest)) :
    Step r '(' cs r' rest := by
  have hskip := skip_suffix r.flags cs
  unfold openGroup? at h
  split at h
  · cases h
  · cases h
  · cases h
  · cases h
  · rename_i more heq
    rw [heq] at hskip
    exact step_of_openNamed? h (List.IsSuffix.trans ⟨['?', 'P', '<'], rfl⟩ hskip)
  · rename_i more _ _ heq
    rw [heq] at hskip
    exact step_of_openNamed? h (List.IsSuffix.trans ⟨['?', '<'], rfl⟩ hskip)
  · rename_i more _ _ _ _ _ _ heq
    rw [heq] at hskip
    have hmore := (List.suffix_cons '?' more).trans hskip
    dsimp only at h
    split at h
    · rename_i flags after _ hdrop
      cases h
      have hafter : ':' :: rest <:+ more := hdrop ▸ List.drop_suffix _ _
      exact .opens flags _ ((List.suffix_cons ':' rest).trans (hafter.trans hmore))
    · rename_i flags after _ hdrop
      split at h
      · cases h
      · cases h
        have hafter : ')' :: rest <:+ more := hdrop ▸ List.drop_suffix _ _
        exact .sets flags (hafter.trans hmore)
    · cases h
  · cases h
    exact .opens r.flags _ hskip

theorem step_of_repeat? {r r' : Reading} {c : Char} {least : Nat} {most : Option Nat}
    {after : List Char} (hopen : c ≠ '(') (hclose : c ≠ ')') (hcounts : ∀ m ∈ most, least ≤ m)
    (hafter : after <:+ cs)
    (h : (r.repeat? least most).map (fun r => (r, after)) = some (r', rest)) :
    Step r c cs r' rest := by
  obtain ⟨r₁, hr₁, heq⟩ := Option.map_eq_some_iff.1 h
  cases heq
  obtain ⟨p, parts, hparts, _, rfl⟩ := repeat?_eq_some_iff.1 hr₁
  exact .repeated hopen hclose hparts hcounts hafter

theorem step_of_pattern? {r r' : Reading} {c : Char} {p : Option Pattern} {after : List Char}
    (hopen : c ≠ '(') (hclose : c ≠ ')') (hp : ∀ q ∈ p, q.Ordered) (hafter : after <:+ cs)
    (h : p.map (fun p => (r.add ⟨p, 0, true⟩, after)) = some (r', rest)) :
    Step r c cs r' rest := by
  obtain ⟨q, hq, heq⟩ := Option.map_eq_some_iff.1 h
  cases heq
  exact .add hopen hclose (hp q hq) hafter

theorem step_of_step? {r r' : Reading} {c : Char} (h : r.step? c cs = some (r', rest)) :
    Step r c cs r' rest := by
  unfold step? at h
  dsimp only at h
  split at h
  · exact step_of_openGroup? h
  · obtain ⟨r₁, hr₁, heq⟩ := Option.map_eq_some_iff.1 h
    cases heq
    exact .closes hr₁
  · cases h
    exact .branch
  · obtain ⟨⟨m, after⟩, hm, heq⟩ := Option.map_eq_some_iff.1 h
    cases heq
    exact .add (by decide) (by decide) trivial (readBracket?_suffix hm)
  · exact step_of_repeat? (by decide) (by decide) (by simp) (afterReluctance_suffix cs) h
  · exact step_of_repeat? (by decide) (by decide) (by simp) (afterReluctance_suffix cs) h
  · exact step_of_repeat? (by decide) (by decide) (by simp) (afterReluctance_suffix cs) h
  · split at h
    · cases h
    · rename_i least most after hcounts
      exact step_of_repeat? (by decide) (by decide) (ordered_of_readCounts? hcounts)
        ((afterReluctance_suffix _).trans
          ((skip_suffix r.flags after).trans (readCounts?_suffix hcounts))) h
  · split at h
    · cases h
    · rename_i a after hescape
      have hafter : after <:+ cs := by
        cases cs with
        | nil => cases hescape
        | cons c cs => exact (readEscape?_suffix hescape).trans (List.suffix_cons c cs)
      exact step_of_pattern? (by decide) (by decide) ordered_of_atomPattern? hafter h
  · exact step_of_pattern? (by decide) (by decide) ordered_of_dotPattern? List.suffix_rfl h
  · cases h
    exact .add (by decide) (by decide) trivial List.suffix_rfl
  · cases h
    exact .add (by decide) (by decide) trivial List.suffix_rfl
  · exact step_of_pattern? ‹_› ‹_› ordered_of_charPattern? List.suffix_rfl h

/-! ## Open groups -/

namespace Step

variable {r r' : Reading} {c : Char} {behind rest : List Char}

/-- No step loses sight of an open group: it closes one for each parenthesis at most. -/
theorem groups_le (h : Step r c behind r' rest) :
    r.groups.length + rest.count ')' ≤ r'.groups.length + (c :: behind).count ')' := by
  have hcons := List.count_le_count_cons (a := ')') (b := c) (l := behind)
  cases h with
  | add _ _ _ hrest =>
    have hle := hrest.sublist.count_le ')'
    simp only [Reading.add]
    omega
  | repeated _ _ _ _ hrest =>
    have hle := hrest.sublist.count_le ')'
    dsimp only
    omega
  | branch => simp
  | opens flags names hrest =>
    have hle := hrest.sublist.count_le ')'
    simp only [«open», List.length_cons]
    omega
  | sets flags hrest =>
    have hle := hrest.sublist.count_le ')'
    simp only [List.count_cons_self] at hle
    dsimp only
    omega
  | closes hclose =>
    unfold closeGroup? at hclose
    split at hclose
    · cases hclose
    · rename_i g groups hgroups
      cases hclose
      simp only [hgroups, List.length_cons, List.count_cons_self]
      omega

/-- What an opening parenthesis begins takes a closing one more than it leaves. -/
theorem groups_lt_of_open (h : Step r '(' behind r' rest) :
    r.groups.length + rest.count ')' < r'.groups.length + behind.count ')' := by
  cases h with
  | add hopen => exact absurd rfl hopen
  | repeated hopen => exact absurd rfl hopen
  | opens flags names hrest =>
    have hle := hrest.sublist.count_le ')'
    simp only [«open», List.length_cons]
    omega
  | sets flags hrest =>
    have hle := hrest.sublist.count_le ')'
    simp only [List.count_cons_self] at hle
    dsimp only
    omega

theorem same_group (h : Step r c behind r' rest) (hopen : c ≠ '(') (hclose : c ≠ ')') :
    r'.groups = r.groups ∧ r'.flags = r.flags := by
  cases h with
  | add => exact ⟨rfl, rfl⟩
  | repeated => exact ⟨rfl, rfl⟩
  | branch => exact ⟨rfl, rfl⟩
  | opens => exact absurd rfl hopen
  | sets => exact absurd rfl hopen
  | closes => exact absurd rfl hclose

theorem rest_suffix (h : Step r c behind r' rest) : rest <:+ behind := by
  cases h with
  | add _ _ _ hrest => exact hrest
  | repeated _ _ _ _ hrest => exact hrest
  | branch => exact List.suffix_rfl
  | opens _ _ hrest => exact hrest
  | sets _ hrest => exact (List.suffix_cons ')' rest).trans hrest
  | closes => exact List.suffix_rfl

end Step

end Reading

open Reading (Step)

/-- What is read to the end closes every open group. -/
theorem groups_le_of_readFrom? {fuel : Nat} {r : Reading} {part : Part}
    (h : readFrom? fuel r cs = some part) : r.groups.length ≤ cs.count ')' := by
  induction fuel generalizing r cs with
  | zero => cases h
  | succ fuel ih =>
    refine Nat.le_trans ?_ ((skip_suffix r.flags cs).sublist.count_le ')')
    rw [readFrom?] at h
    split at h
    · split at h
      · rename_i hgroups
        simp [List.isEmpty_iff.1 hgroups]
      · cases h
    · split at h
      · cases h
      · rename_i hskip _ r' rest hstep
        rw [hskip]
        have hle := (Reading.step_of_step? hstep).groups_le
        have hrest := ih h
        omega

/-! ## Counts in order -/

/-- The patterns of the parts have their counts in order. -/
def PartsOrdered (parts : List Part) : Prop := ∀ p ∈ parts, p.pattern.Ordered

/-- All that a reading holds has its counts in order. -/
structure Reading.Ordered (r : Reading) : Prop where
  parts : PartsOrdered r.parts
  branches : PartsOrdered r.branches
  groups : ∀ g ∈ r.groups, PartsOrdered g.parts ∧ PartsOrdered g.branches

theorem PartsOrdered.cons {p : Part} {parts : List Part} (hp : p.pattern.Ordered)
    (hparts : PartsOrdered parts) : PartsOrdered (p :: parts) := List.forall_mem_cons.2 ⟨hp, hparts⟩

theorem PartsOrdered.reverse_patterns {parts : List Part} (h : PartsOrdered parts) :
    ∀ p ∈ parts.reverse.map (·.pattern), p.Ordered := by
  intro p hp
  obtain ⟨part, hpart, rfl⟩ := List.mem_map.1 hp
  exact h part (List.mem_reverse.1 hpart)

/-- Patterns one after the other are in order if each of them is, and so are choices. -/
theorem ordered_seqs_and_alts {ps : List Pattern} (h : ∀ p ∈ ps, p.Ordered) :
    (seqs ps).Ordered ∧ (alts ps).Ordered := by
  induction ps with
  | nil => exact ⟨trivial, trivial⟩
  | cons p ps ih =>
    obtain ⟨hp, hps⟩ := List.forall_mem_cons.1 h
    cases ps with
    | nil => exact ⟨hp, hp⟩
    | cons q qs => exact ⟨⟨hp, (ih hps).1⟩, ⟨hp, (ih hps).2⟩⟩

theorem PartsOrdered.sequence {parts : List Part} (h : PartsOrdered parts) :
    (sequence parts).pattern.Ordered := by
  unfold Pattern.sequence
  split
  · trivial
  · exact h _ List.mem_cons_self
  · exact (ordered_seqs_and_alts h.reverse_patterns).1

theorem PartsOrdered.choice {parts : List Part} (h : PartsOrdered parts) :
    (choice parts).pattern.Ordered := by
  unfold Pattern.choice
  split
  · trivial
  · exact h _ List.mem_cons_self
  · exact (ordered_seqs_and_alts h.reverse_patterns).2

namespace Reading.Ordered

variable {r r' : Reading}

theorem body (h : r.Ordered) : r.body.pattern.Ordered :=
  (PartsOrdered.cons h.parts.sequence h.branches).choice

theorem step {c : Char} (h : r.Ordered) (hstep : Step r c cs r' rest) : r'.Ordered := by
  cases hstep with
  | add _ _ hp => exact ⟨h.parts.cons hp, h.branches, h.groups⟩
  | repeated _ _ hparts hcounts =>
    have hold := h.parts
    rw [hparts] at hold
    obtain ⟨hp, hmore⟩ := List.forall_mem_cons.1 hold
    exact ⟨PartsOrdered.cons ⟨hcounts, hp⟩ hmore, h.branches, h.groups⟩
  | branch => exact ⟨nofun, h.branches.cons h.parts.sequence, h.groups⟩
  | opens => exact ⟨nofun, nofun, List.forall_mem_cons.2 ⟨⟨h.parts, h.branches⟩, h.groups⟩⟩
  | sets => exact ⟨PartsOrdered.cons trivial h.parts, h.branches, h.groups⟩
  | closes hclose =>
    unfold closeGroup? at hclose
    split at hclose
    · cases hclose
    · rename_i g groups hgroups
      cases hclose
      have hold := h.groups
      rw [hgroups] at hold
      obtain ⟨⟨hparts, hbranches⟩, hmore⟩ := List.forall_mem_cons.1 hold
      exact ⟨hparts.cons h.body, hbranches, hmore⟩

end Reading.Ordered

theorem ordered_of_readFrom? {fuel : Nat} {r : Reading} {part : Part} (hr : r.Ordered)
    (h : readFrom? fuel r cs = some part) : part.pattern.Ordered := by
  induction fuel generalizing r cs with
  | zero => cases h
  | succ fuel ih =>
    rw [readFrom?] at h
    split at h
    · split at h
      · cases h
        exact hr.body
      · cases h
    · split at h
      · cases h
      · rename_i hstep
        exact ih (hr.step (Reading.step_of_step? hstep)) h

theorem read_eq_ok_iff {text : String} {p : Pattern} :
    read text = .ok p ↔ ∃ part, readFrom? (text.toList.length + 1) {} text.toList = some part ∧
      part.depth ≤ depthLimit ∧ part.pattern = p := by
  unfold read
  split
  · rename_i hread
    simp [hread]
  · rename_i part hread
    simp only [hread, Option.some.injEq, exists_eq_left']
    split
    · simp only [reduceCtorEq, false_iff, not_and]
      omega
    · simp only [Except.ok.injEq]
      exact ⟨fun h => ⟨by omega, h⟩, fun h => h.2⟩

theorem ordered_of_read {text : String} {p : Pattern} (h : read text = .ok p) : p.Ordered := by
  obtain ⟨part, hpart, _, rfl⟩ := read_eq_ok_iff.1 h
  have hempty : Reading.Ordered {} :=
    ⟨fun _ h => absurd h List.not_mem_nil, fun _ h => absurd h List.not_mem_nil,
      fun _ h => absurd h List.not_mem_nil⟩
  exact ordered_of_readFrom? hempty hpart

end Pattern

end PromptScript
