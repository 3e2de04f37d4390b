import PromptScript.Proofs.PatternReading

/-!
# Proofs.PatternCuts

The readers of patterns in front of the end of a group that a whole pattern stands in. A reader that
leaves the end of the group takes the same from the text without it: escapes
(`readEscape?_of_wrapped`), classes (`readClass_of_wrapped`) and counts (`readCounts?_of_wrapped`).
A class is read in the same way with any fuel that its length allows (`readClass_of_enough`).
-/

namespace PromptScript

namespace Pattern

/-- What stands behind a pattern that is to describe the whole of a text. -/
def wrapEnd : List Char := [')', '$']

variable {s s' : List Char}

/-! ## Readers in front of the end -/

theorem eq_of_append_wrapEnd (h : s ++ wrapEnd = s' ++ wrapEnd) : s = s' :=
  List.append_cancel_right h

/-- What two readings in front of the end have in common they have without it. -/
theorem pair_of_wrapped {α : Type} {a b : α}
    (h : some (b, s ++ wrapEnd) = some (a, s' ++ wrapEnd)) : b = a ∧ s = s' := by
  obtain ⟨rfl, hrest⟩ := Prod.mk.inj (Option.some.inj h)
  exact ⟨rfl, List.append_cancel_right hrest⟩

theorem map_of_wrapped {α β : Type} {x : Option α} {f : α → β} {b : β}
    (h : x.map (fun a => (f a, s ++ wrapEnd)) = some (b, s' ++ wrapEnd)) :
    x.map (fun a => (f a, s)) = some (b, s') := by
  obtain ⟨a, rfl, hpair⟩ := Option.map_eq_some_iff.1 h
  obtain ⟨rfl, rfl⟩ := pair_of_wrapped (congrArg some hpair)
  rfl

theorem cons_of_append_wrapEnd {c : Char} {rest : List Char} (h : s ++ wrapEnd = c :: rest)
    (hc : c ≠ ')') : ∃ more, s = c :: more ∧ rest = more ++ wrapEnd := by
  cases s with
  | nil => exact absurd (List.cons.inj h).1.symm hc
  | cons d s =>
    obtain ⟨rfl, rfl⟩ := List.cons.inj h
    exact ⟨s, rfl, rfl⟩

theorem cons_cons_of_append_wrapEnd {c d : Char} {rest : List Char}
    (h : s ++ wrapEnd = c :: d :: rest) (hc : c ≠ ')') (hd : d ≠ ')') :
    ∃ more, s = c :: d :: more ∧ rest = more ++ wrapEnd := by
  obtain ⟨s, rfl, hrest⟩ := cons_of_append_wrapEnd h hc
  obtain ⟨more, rfl, rfl⟩ := cons_of_append_wrapEnd hrest.symm hd
  exact ⟨more, rfl, rfl⟩

theorem untilBrace?_eq_some_iff {cs text rest : List Char} :
    untilBrace? false false cs = some (text, rest) ↔
      cs = text ++ '\x7d' :: rest ∧ '\x7d' ∉ text := by
  induction cs generalizing text with
  | nil => simp [untilBrace?]
  | cons c cs ih =>
    simp only [untilBrace?, Bool.false_eq_true, if_false, Bool.false_and]
    by_cases hc : c = '\x7d'
    · subst hc
      rw [if_pos rfl]
      constructor
      · rintro ⟨⟩
        exact ⟨rfl, List.not_mem_nil⟩
      · rintro ⟨heq, htext⟩
        cases text with
        | nil => rw [(List.cons.inj heq).2]
        | cons d text => exact absurd ((List.cons.inj heq).1 ▸ List.mem_cons_self) htext
    · rw [if_neg hc, Option.map_eq_some_iff]
      constructor
      · rintro ⟨⟨text', rest'⟩, hmore, ⟨⟩⟩
        obtain ⟨rfl, htext⟩ := ih.1 hmore
        exact ⟨rfl, by simp [Ne.symm hc, htext]⟩
      · rintro ⟨heq, htext⟩
        cases text with
        | nil => exact absurd (List.cons.inj heq).1 hc
        | cons d text =>
          obtain ⟨rfl, rfl⟩ := List.cons.inj heq
          exact ⟨(text, rest), ih.2 ⟨rfl, fun h => htext (List.mem_cons_of_mem _ h)⟩, rfl⟩

theorem untilBrace?_of_wrapped {text : List Char}
    (h : untilBrace? false false (s ++ wrapEnd) = some (text, s' ++ wrapEnd)) :
    untilBrace? false false s = some (text, s') := by
  obtain ⟨heq, htext⟩ := untilBrace?_eq_some_iff.1 h
  refine untilBrace?_eq_some_iff.2 ⟨eq_of_append_wrapEnd ?_, htext⟩
  rw [heq, List.append_assoc, List.cons_append]

theorem hexDigits?_eq_some_iff {n : Nat} {cs digits rest : List Char} :
    hexDigits? {} n cs = some (digits, rest) ↔
      cs = digits ++ rest ∧ digits.length = n ∧ ∀ c ∈ digits, (hexDigit? c).isSome = true := by
  induction n generalizing cs digits with
  | zero =>
    simp only [hexDigits?, Option.some.injEq, Prod.mk.injEq, List.length_eq_zero_iff]
    constructor
    · rintro ⟨rfl, rfl⟩
      exact ⟨rfl, rfl, fun _ h => absurd h List.not_mem_nil⟩
    · rintro ⟨rfl, rfl, _⟩
      exact ⟨rfl, rfl⟩
  | succ n ih =>
    cases cs with
    | nil =>
      simp only [hexDigits?, reduceCtorEq, false_iff]
      rintro ⟨heq, hlength, _⟩
      simp [(List.append_eq_nil_iff.1 heq.symm).1] at hlength
    | cons c cs =>
      have hskip : skip {} cs = cs := rfl
      rw [hexDigits?, hskip]
      constructor
      · intro h
        split at h
        · rename_i hc
          obtain ⟨⟨digits', rest'⟩, hmore, heq⟩ := Option.map_eq_some_iff.1 h
          cases heq
          obtain ⟨rfl, hlength, hdigits⟩ := ih.1 hmore
          exact ⟨rfl, by rw [List.length_cons, hlength], List.forall_mem_cons.2 ⟨hc, hdigits⟩⟩
        · cases h
      · rintro ⟨heq, hlength, hdigits⟩
        cases digits with
        | nil => cases hlength
        | cons d digits =>
          obtain ⟨rfl, rfl⟩ := List.cons.inj heq
          obtain ⟨hc, hdigits⟩ := List.forall_mem_cons.1 hdigits
          have hmore := ih.2 ⟨rfl, Nat.succ.inj hlength, hdigits⟩
          exact (if_pos hc).trans (congrArg (Option.map _) hmore)

theorem hexDigits?_of_wrapped {n : Nat} {digits : List Char}
    (h : hexDigits? {} n (s ++ wrapEnd) = some (digits, s' ++ wrapEnd)) :
    hexDigits? {} n s = some (digits, s') := by
  obtain ⟨heq, hdigits⟩ := hexDigits?_eq_some_iff.1 h
  refine hexDigits?_eq_some_iff.2 ⟨eq_of_append_wrapEnd ?_, hdigits⟩
  rw [heq, List.append_assoc]

theorem skip_default (cs : List Char) : skip {} cs = cs := rfl

theorem readCodePoint?_of_wrapped {width : Nat} {a : Atom}
    (h : readCodePoint? {} width (s ++ wrapEnd) = some (a, s' ++ wrapEnd)) :
    readCodePoint? {} width s = some (a, s') := by
  unfold readCodePoint? at h ⊢
  rw [skip_default] at h ⊢
  split at h
  · rename_i more heq
    cases s with
    | nil => cases heq
    | cons c s =>
      obtain ⟨rfl, rfl⟩ := List.cons.inj heq
      simp only
      split at h
      · cases h
      · rename_i digits after huntil
        split at h
        · rename_i hdigits
          obtain ⟨c, hc, heq⟩ := Option.map_eq_some_iff.1 h
          cases heq
          have hcut := untilBrace?_of_wrapped huntil
          simp only [hcut, if_pos hdigits, hc]
          rfl
        · cases h
  · rename_i hbrace
    split
    · exact absurd rfl (hbrace _)
    · rename_i cs' _
      split at h
      · cases h
      · rename_i digits after hdigits
        obtain ⟨c, hc, heq⟩ := Option.map_eq_some_iff.1 h
        cases heq
        rw [hexDigits?_of_wrapped hdigits]
        simp only [hc]
        rfl

theorem readProperty?_of_wrapped {negated : Bool} {a : Atom}
    (h : readProperty? {} negated (s ++ wrapEnd) = some (a, s' ++ wrapEnd)) :
    readProperty? {} negated s = some (a, s') := by
  unfold readProperty? at h ⊢
  rw [skip_default] at h ⊢
  split at h
  · cases h
  · rename_i more heq
    dsimp only at h
    split at h
    · rename_i set after hfound
      cases h
      split at hfound
      · cases hfound
      · rename_i text after huntil
        obtain ⟨set, hset, hpair⟩ := Option.map_eq_some_iff.1 hfound
        cases hpair
        obtain ⟨rfl, htext⟩ := untilBrace?_eq_some_iff.1 huntil
        obtain rfl : s = '{' :: (text ++ '}' :: s') := eq_of_append_wrapEnd (by simp [heq])
        simp only [untilBrace?_eq_some_iff.2 ⟨rfl, htext⟩, hset, Option.map_some, if_pos]
    · cases h
  · cases h
  · rename_i c more hbrace hslash heq
    dsimp only at h
    split at h
    · rename_i set after hfound
      cases h
      obtain ⟨set, hset, hpair⟩ := Option.map_eq_some_iff.1 hfound
      cases hpair
      obtain rfl : s = c :: s' := eq_of_append_wrapEnd heq
      simp [hset, skip_default]
    · cases h

theorem readBoundary?_of_wrapped {a : Atom} (hbrace : s' ≠ ['{'])
    (h : readBoundary? {} (s ++ wrapEnd) = some (a, s' ++ wrapEnd)) :
    readBoundary? {} s = some (a, s') := by
  unfold readBoundary? at h ⊢
  split at h
  · rename_i more heq
    rw [skip_default] at h
    split at h
    · cases h
    · rename_i c more'
      split at h
      · rename_i hletter
        split at h
        · cases h
        · rename_i name after huntil
          obtain ⟨l, hl, hpair⟩ := Option.map_eq_some_iff.1 h
          cases hpair
          obtain ⟨hmore, hname⟩ := untilBrace?_eq_some_iff.1 huntil
          obtain rfl : s = '{' :: (name ++ '}' :: s') :=
            eq_of_append_wrapEnd (by simp [heq, hmore])
          cases name with
          | nil =>
            obtain ⟨rfl, _⟩ := List.cons.inj hmore
            cases hletter
          | cons d name =>
            obtain ⟨rfl, _⟩ := List.cons.inj hmore
            have hcut := untilBrace?_eq_some_iff.2 ⟨(rfl : c :: name ++ '}' :: s' = _), hname⟩
            simp only [List.cons_append] at hcut
            simp only [skip_default, List.cons_append, if_pos hletter, hcut, hl, Option.map_some]
      · rename_i hletter
        obtain ⟨rfl, rfl⟩ := pair_of_wrapped h
        cases s with
        | nil => cases heq
        | cons d s =>
          obtain ⟨rfl, hmore⟩ := List.cons.inj heq
          cases s with
          | nil => exact absurd rfl hbrace
          | cons d s =>
            obtain ⟨rfl, _⟩ := List.cons.inj hmore
            simp only [skip_default, if_neg hletter]
  · rename_i hopen
    obtain ⟨rfl, rfl⟩ := pair_of_wrapped h
    split
    · exact (hopen _ rfl).elim
    · rfl

theorem look_of_readBoundary? {flags : Flags} {cs rest : List Char} {a : Atom}
    (h : readBoundary? flags cs = some (a, rest)) : ∃ l, a = .look l := by
  unfold readBoundary? at h
  split at h
  · split at h
    · cases h
    · split at h
      · split at h
        · cases h
        · obtain ⟨l, _, hpair⟩ := Option.map_eq_some_iff.1 h
          cases hpair
          exact ⟨l, rfl⟩
      · cases h
        exact ⟨_, rfl⟩
  · cases h
    exact ⟨_, rfl⟩

/-- An ending of what is behind `wrapEnd` does not reach in front of it. -/
theorem not_wrapEnd_suffix {c : Char} {rest : List Char} (h : s' ++ wrapEnd <:+ rest)
    (heq : wrapEnd = c :: rest) : False := by
  have hle := h.length_le
  have hlength := congrArg List.length heq
  simp only [List.length_append, List.length_cons] at hle hlength
  omega

theorem readEscape?_of_wrapped {a : Atom} (hbrace : ∀ l, a = .look l → s' ≠ ['{'])
    (h : readEscape? {} (s ++ wrapEnd) = some (a, s' ++ wrapEnd)) :
    readEscape? {} s = some (a, s') := by
  cases s with
  | nil => exact (not_wrapEnd_suffix (readEscape?_suffix h) rfl).elim
  | cons c s =>
    have hrest : ∀ {b : Atom}, some (b, s ++ wrapEnd) = some (a, s' ++ wrapEnd) →
        some (b, s) = some (a, s') := by
      intro b heq
      obtain ⟨rfl, rfl⟩ := pair_of_wrapped heq
      rfl
    rw [List.cons_append] at h
    unfold readEscape? at h ⊢
    dsimp only at h
    split at h
    case h_1 | h_2 | h_3 => exact readCodePoint?_of_wrapped h
    case h_4 | h_5 => exact readProperty?_of_wrapped h
    case h_6 | h_7 | h_8 | h_9 | h_10 | h_11 => exact map_of_wrapped h
    case h_20 =>
      obtain ⟨l, hl⟩ := look_of_readBoundary? h
      exact readBoundary?_of_wrapped (hbrace l hl) h
    case h_24 =>
      split at h
      · rename_i hescapable
        dsimp only
        split
        case h_24 => exact (if_pos hescapable).trans (hrest h)
        all_goals contradiction
      · cases h
    all_goals exact hrest h

theorem readMember?_of_wrapped {a : Atom} (hlook : ∀ l, a ≠ .look l)
    (h : readMember? {} (s ++ wrapEnd) = some (a, s' ++ wrapEnd)) :
    readMember? {} s = some (a, s') := by
  cases s with
  | nil => exact (not_wrapEnd_suffix (readMember?_suffix h) rfl).elim
  | cons c s =>
    rw [List.cons_append] at h
    unfold readMember? at h ⊢
    split at h
    · contradiction
    · rename_i heq
      obtain ⟨rfl, rfl⟩ := List.cons.inj heq
      exact readEscape?_of_wrapped (fun l hl => absurd hl (hlook l)) h
    · rename_i hslash heq
      obtain ⟨rfl, rfl⟩ := List.cons.inj heq
      obtain ⟨rfl, rfl⟩ := pair_of_wrapped h
      split
      · contradiction
      · rename_i heq
        exact absurd (List.cons.inj heq).1 hslash
      · rename_i heq
        obtain ⟨rfl, rfl⟩ := List.cons.inj heq
        rfl

theorem not_look_of_memberChar? {flags : Flags} {a : Atom} {c : Char}
    (h : memberChar? flags a = some c) (l : Look) : a ≠ .look l := by
  rintro rfl
  cases h

theorem not_look_of_memberSet? {flags : Flags} {a : Atom} {set : CharSet}
    (h : memberSet? flags a = some set) (l : Look) : a ≠ .look l := by
  rintro rfl
  cases h

/-- What stands behind a member that no range begins with: no hyphen, or one in front of a closing
bracket or of another hyphen. -/
inductive NoRange : List Char → Prop where
  | other {c : Char} {more : List Char} : c ≠ '-' → NoRange (c :: more)
  | hyphen {c : Char} {more : List Char} : c = ']' ∨ c = '-' → NoRange ('-' :: c :: more)

/-- A member of a class that is no class itself: one atom, or two with a hyphen between them. -/
inductive ReadsRange (cs : List Char) : CharSet → List Char → Prop where
  | alone {first : Atom} {set : CharSet} {rest : List Char} :
      readMember? {} cs = some (first, rest) → memberSet? {} first = some set → NoRange rest →
        ReadsRange cs set rest
  | span {first last : Atom} {a b c : Char} {more rest : List Char} :
      readMember? {} cs = some (first, '-' :: c :: more) → c ≠ ']' → c ≠ '-' →
        readMember? {} (c :: more) = some (last, rest) → memberChar? {} first = some a →
          memberChar? {} last = some b → a ≤ b → ReadsRange cs (.span a.toNat b.toNat) rest

theorem readsRange_of_readRange? {cs rest : List Char} {set : CharSet}
    (h : readRange? {} cs = some (set, rest)) : ReadsRange cs set rest := by
  unfold readRange? at h
  split at h
  · cases h
  · rename_i first behind hfirst
    have halone : NoRange behind →
        (memberSet? {} first).map (fun set => (set, behind)) = some (set, rest) →
          ReadsRange cs set rest := by
      intro hno hmap
      obtain ⟨set, hset, hpair⟩ := Option.map_eq_some_iff.1 hmap
      cases hpair
      exact .alone hfirst hset hno
    simp only [skip_default] at h
    split at h
    · cases h
    · rename_i more
      split at h
      · cases h
      · exact halone (.hyphen (.inl rfl)) h
      · exact halone (.hyphen (.inr rfl)) h
      · rename_i hclose hminus
        split at h
        · cases h
        · rename_i last after hlast
          split at h
          · rename_i a b ha hb
            split at h
            · rename_i hle
              cases h
              cases more with
              | nil => cases hlast
              | cons c more =>
                refine .span hfirst ?_ ?_ hlast ha hb hle
                · exact fun hc => hclose more (by rw [hc])
                · exact fun hc => hminus more (by rw [hc])
            · cases h
          · cases h
    · rename_i hnil hminus
      cases behind with
      | nil => exact absurd rfl hnil
      | cons c more => exact halone (.other fun hc => hminus more (by rw [hc])) h

theorem readRange?_of_readsRange {cs rest : List Char} {set : CharSet}
    (h : ReadsRange cs set rest) : readRange? {} cs = some (set, rest) := by
  unfold readRange?
  cases h with
  | alone hfirst hset hno =>
    simp only [hfirst, skip_default, hset, Option.map_some]
    cases hno with
    | other hc => simp [hc]
    | hyphen hc => rcases hc with rfl | rfl <;> rfl
  | span hfirst hclose hminus hlast ha hb hle =>
    simp only [hfirst, skip_default]
    split
    · contradiction
    · rename_i heq
      exact absurd (List.cons.inj heq).1 hclose
    · rename_i heq
      exact absurd (List.cons.inj heq).1 hminus
    · simp only [hlast, ha, hb, if_pos hle]

/-- The end of the text ends no range, so that something has to be left. -/
theorem noRange_of_wrapped (hne : s ≠ []) (h : NoRange (s ++ wrapEnd)) : NoRange s := by
  generalize hrest : s ++ wrapEnd = rest at h
  cases h with
  | other hc =>
    obtain ⟨d, s, rfl⟩ := List.exists_cons_of_ne_nil hne
    obtain ⟨rfl, _⟩ := List.cons.inj hrest
    exact .other hc
  | hyphen hc =>
    rcases hc with rfl | rfl
    · obtain ⟨more, rfl, _⟩ := cons_cons_of_append_wrapEnd hrest (by decide) (by decide)
      exact .hyphen (.inl rfl)
    · obtain ⟨more, rfl, _⟩ := cons_cons_of_append_wrapEnd hrest (by decide) (by decide)
      exact .hyphen (.inr rfl)

theorem readRange?_of_wrapped {set : CharSet} (hne : s' ≠ [])
    (h : readRange? {} (s ++ wrapEnd) = some (set, s' ++ wrapEnd)) :
    readRange? {} s = some (set, s') := by
  refine readRange?_of_readsRange ?_
  have hrange := readsRange_of_readRange? h
  generalize hrest : s' ++ wrapEnd = rest at hrange
  cases hrange with
  | alone hfirst hset hno =>
    subst hrest
    exact .alone (readMember?_of_wrapped (not_look_of_memberSet? hset) hfirst) hset
      (noRange_of_wrapped hne hno)
  | @span first last a b c more _ hfirst hclose hminus hlast ha hb hle =>
    obtain ⟨front, hfront⟩ := readMember?_suffix hlast
    obtain rfl : more = (front ++ s') ++ wrapEnd := by
      rw [← hrest, ← List.append_assoc] at hfront
      exact hfront.symm
    subst hrest
    have hcut : readMember? {} s = some (first, '-' :: c :: (front ++ s')) :=
      readMember?_of_wrapped (not_look_of_memberChar? ha) hfirst
    have hcut' : readMember? {} (c :: (front ++ s')) = some (last, s') :=
      readMember?_of_wrapped (not_look_of_memberChar? hb) hlast
    exact .span hcut hclose hminus hcut' ha hb hle

/-! ## Classes -/

theorem leadingHyphens_append_wrapEnd (s : List Char) :
    leadingHyphens false false (s ++ wrapEnd) =
      ((leadingHyphens false false s).1, (leadingHyphens false false s).2 ++ wrapEnd) := by
  induction s with
  | nil => rfl
  | cons c s ih =>
    rw [List.cons_append, leadingHyphens, leadingHyphens]
    simp only [Bool.false_eq_true, if_false, Bool.false_and]
    split
    · rw [ih]
    · rfl

theorem firstMembers_append_wrapEnd (s : List Char) :
    firstMembers {} (s ++ wrapEnd) = ((firstMembers {} s).1, (firstMembers {} s).2 ++ wrapEnd) := by
  unfold firstMembers
  rw [show ({} : Flags).verbose = false from rfl, leadingHyphens_append_wrapEnd]
  rcases leadingHyphens false false s with ⟨n, rest⟩
  dsimp only
  split
  · rename_i heq
    obtain ⟨rfl, hrest⟩ := Prod.mk.inj heq
    cases rest with
    | nil => exact absurd (List.cons.inj hrest).1 (by decide)
    | cons c rest =>
      obtain ⟨rfl, rfl⟩ := List.cons.inj hrest
      rfl
  · rename_i hclose heq
    obtain ⟨rfl, rfl⟩ := Prod.mk.inj heq
    split
    · rename_i heq
      obtain ⟨rfl, rfl⟩ := Prod.mk.inj heq
      exact (hclose _ rfl rfl).elim
    · rename_i heq
      obtain ⟨rfl, rfl⟩ := Prod.mk.inj heq
      rfl

/-- The name of a class of ASCII ends with a colon of its own. -/
theorem dropWhile_append_wrapEnd (name : List Char) :
    (name ++ wrapEnd).dropWhile (· ≠ ':') =
      if name.dropWhile (· ≠ ':') = [] then [] else name.dropWhile (· ≠ ':') ++ wrapEnd := by
  rw [List.dropWhile_append]
  simp [wrapEnd]

/-- Whether a class is negated, and what stands behind the sign. -/
def classSign : List Char → Bool × List Char
  | '^' :: rest => (true, rest)
  | rest => (false, rest)

theorem classSign_suffix (cs : List Char) : (classSign cs).2 <:+ cs := by
  unfold classSign
  split
  · exact List.suffix_cons _ _
  · exact List.suffix_rfl

theorem classSign_append_wrapEnd (s : List Char) :
    classSign (s ++ wrapEnd) = ((classSign s).1, (classSign s).2 ++ wrapEnd) := by
  cases s with
  | nil => rfl
  | cons c s =>
    by_cases hc : c = '^'
    · subst hc
      rfl
    · simp [classSign, hc]

/-- A class of ASCII by its name and sign. -/
def namedClass? (negated : Bool) (name : List Char) : Option (CharSet × List Char) :=
  match name.dropWhile (· ≠ ':') with
  | ':' :: ']' :: after =>
    (CharSet.ofAsciiName? (name.takeWhile (· ≠ ':'))).map fun s =>
      (signed negated (folded {} s), after)
  | _ => none

theorem asciiClass?_colon (s : List Char) :
    asciiClass? {} (':' :: s) = namedClass? (classSign s).1 (classSign s).2 := rfl

theorem asciiClass?_of_ne {c : Char} (hc : c ≠ ':') (s : List Char) :
    asciiClass? {} (c :: s) = none := by simp [asciiClass?, hc]

theorem namedClass?_append_wrapEnd (negated : Bool) (name : List Char) :
    namedClass? negated (name ++ wrapEnd) =
      (namedClass? negated name).map fun found => (found.1, found.2 ++ wrapEnd) := by
  have hall := List.takeWhile_append_dropWhile (p := fun c => decide (c ≠ ':')) (l := name)
  rw [namedClass?, namedClass?, dropWhile_append_wrapEnd]
  by_cases hcolon : name.dropWhile (· ≠ ':') = []
  · rw [if_pos hcolon, hcolon]
    rfl
  · have htake : (name ++ wrapEnd).takeWhile (· ≠ ':') = name.takeWhile (· ≠ ':') := by
      rw [List.takeWhile_append, if_neg]
      intro hlength
      have hsum := congrArg List.length hall
      rw [List.length_append] at hsum
      exact hcolon (List.length_eq_zero_iff.1 (by omega))
    rw [if_neg hcolon, htake]
    rcases name.dropWhile (· ≠ ':') with _ | ⟨c, _ | ⟨d, rest⟩⟩
    · rfl
    · by_cases hc : c = ':'
      · subst hc
        rfl
      · simp [hc]
    · by_cases hc : c = ':'
      · by_cases hd : d = ']'
        · simp [hc, hd, Function.comp_def]
        · simp [hc, hd]
      · simp [hc]

theorem asciiClass?_append_wrapEnd (s : List Char) :
    asciiClass? {} (s ++ wrapEnd) =
      (asciiClass? {} s).map fun found => (found.1, found.2 ++ wrapEnd) := by
  cases s with
  | nil => rfl
  | cons c s =>
    rw [List.cons_append]
    by_cases hc : c = ':'
    · subst hc
      rw [asciiClass?_colon, asciiClass?_colon, classSign_append_wrapEnd,
        namedClass?_append_wrapEnd]
    · rw [asciiClass?_of_ne hc, asciiClass?_of_ne hc]
      rfl

theorem readMembers?_nil (fuel : Nat) (members : List Member)
    (pending : Option (SetOperation × Member)) :
    readMembers? {} fuel members pending [] = none := by
  cases fuel with
  | zero => rw [readMembers?]
  | succ fuel =>
    rw [readMembers?]
    rfl

theorem readBracket?_succ (fuel : Nat) (cs : List Char) :
    readBracket? {} (fuel + 1) cs =
      match readMembers? {} fuel (firstMembers {} (classSign cs).2).1 none
          (firstMembers {} (classSign cs).2).2 with
      | none => none
      | some (body, after) =>
        (ruled? {} (signed (classSign cs).1 (folded {} body.set))).map fun s =>
          (⟨s, body.depth + 1⟩, after) := by
  rw [readBracket?]
  rfl

/-- With so much fuel a class in front of the end is read as it is alone. -/
def CutsBracket (fuel : Nat) : Prop :=
  ∀ s s' m, readBracket? {} fuel (s ++ wrapEnd) = some (m, s' ++ wrapEnd) →
    readBracket? {} fuel s = some (m, s')

/-- With so much fuel the members of a class in front of the end are read as they are alone. -/
def CutsMembers (fuel : Nat) : Prop :=
  ∀ members pending s s' m,
    readMembers? {} fuel members pending (s ++ wrapEnd) = some (m, s' ++ wrapEnd) →
      readMembers? {} fuel members pending s = some (m, s')

theorem CutsMembers.bracket {fuel : Nat} (h : CutsMembers fuel) : CutsBracket (fuel + 1) := by
  intro s s' m hread
  rw [readBracket?_succ, classSign_append_wrapEnd, firstMembers_append_wrapEnd] at hread
  rw [readBracket?_succ]
  split at hread
  · cases hread
  · rename_i body after hmembers
    obtain ⟨set, hset, hpair⟩ := Option.map_eq_some_iff.1 hread
    cases hpair
    simp only [h _ _ _ _ _ hmembers, hset, Option.map_some]

/-- What is left for the members that follow ends with the end too. -/
theorem CutsMembers.rest {fuel : Nat} (h : CutsMembers fuel) {members : List Member}
    {pending : Option (SetOperation × Member)} {rest : List Char} {m : Member}
    (hread : readMembers? {} fuel members pending rest = some (m, s' ++ wrapEnd)) :
    ∃ front, rest = front ++ wrapEnd ∧
      readMembers? {} fuel members pending front = some (m, s') := by
  obtain ⟨front, hfront⟩ := (readClass_suffix {} fuel).2 _ _ _ _ _ hread
  rw [← List.append_assoc] at hfront
  exact ⟨front ++ s', hfront.symm, h _ _ _ _ _ (hfront ▸ hread)⟩

theorem CutsMembers.nested {fuel : Nat} (hmembers : CutsMembers fuel) (hbracket : CutsBracket fuel)
    {members : List Member} {pending : Option (SetOperation × Member)} {m : Member}
    (h : readNested? {} fuel members pending (s ++ wrapEnd) = some (m, s' ++ wrapEnd)) :
    readNested? {} fuel members pending s = some (m, s') := by
  rw [readNested?, asciiClass?_append_wrapEnd] at h
  rw [readNested?]
  cases hclass : asciiClass? {} s with
  | none =>
    simp only [hclass, Option.map_none] at h ⊢
    split at h
    · cases h
    · rename_i inner after hinner
      obtain ⟨front, rfl, hfront⟩ := hmembers.rest h
      simp only [hbracket _ _ _ hinner, hfront]
  | some found =>
    simp only [hclass, Option.map_some] at h ⊢
    split at h
    · cases h
    · exact hmembers _ _ _ _ _ h

theorem CutsMembers.succ {fuel : Nat} (hmembers : CutsMembers fuel) (hbracket : CutsBracket fuel) :
    CutsMembers (fuel + 1) := by
  intro members pending s s' m h
  unfold readMembers? at h ⊢
  simp only [skip_default] at h ⊢
  split at h
  · cases h
  · rename_i heq
    obtain ⟨more, rfl, rfl⟩ := cons_of_append_wrapEnd heq (by decide)
    obtain ⟨rfl, rfl⟩ := pair_of_wrapped h
    rfl
  · rename_i heq
    obtain ⟨more, rfl, rfl⟩ := cons_of_append_wrapEnd heq (by decide)
    exact hmembers.nested hbracket h
  · rename_i heq
    obtain ⟨more, rfl, rfl⟩ := cons_cons_of_append_wrapEnd heq (by decide) (by decide)
    exact hmembers _ _ _ _ _ h
  · rename_i heq
    obtain ⟨more, rfl, rfl⟩ := cons_cons_of_append_wrapEnd heq (by decide) (by decide)
    exact hmembers _ _ _ _ _ h
  · rename_i heq
    obtain ⟨more, rfl, rfl⟩ := cons_cons_of_append_wrapEnd heq (by decide) (by decide)
    exact hmembers _ _ _ _ _ h
  · rename_i hclose hopen hinter hdiff hsymm
    split at h
    · cases h
    · rename_i set after hrange
      obtain ⟨front, rfl, hfront⟩ := hmembers.rest h
      have hne : front ≠ [] := by
        rintro rfl
        rw [readMembers?_nil] at hfront
        cases hfront
      have hcut := readRange?_of_wrapped hne hrange
      split
      · cases hcut
      · exact (hclose _ rfl).elim
      · exact (hopen _ rfl).elim
      · exact (hinter _ rfl).elim
      · exact (hdiff _ rfl).elim
      · exact (hsymm _ rfl).elim
      · simp only [hcut, hfront]

theorem readClass_of_wrapped (fuel : Nat) : CutsBracket fuel ∧ CutsMembers fuel := by
  induction fuel with
  | zero =>
    constructor
    · intro s s' m h
      rw [readBracket?] at h
      cases h
    · intro members pending s s' m h
      rw [readMembers?] at h
      cases h
  | succ fuel ih => exact ⟨ih.2.bracket, ih.2.succ ih.1⟩

/-- A class that is read with so much fuel is read with any that its length allows. -/
def EnoughForBracket (fuel : Nat) : Prop :=
  ∀ cs found n, readBracket? {} fuel cs = some found → 2 * cs.length + 2 ≤ n →
    readBracket? {} n cs = some found

/-- Members that are read with so much fuel are read with any that their length allows. -/
def EnoughForMembers (fuel : Nat) : Prop :=
  ∀ members pending cs found n, readMembers? {} fuel members pending cs = some found →
    2 * cs.length + 1 ≤ n → readMembers? {} n members pending cs = some found

namespace EnoughForMembers

variable {fuel : Nat}

theorem bracket (hmembers : EnoughForMembers fuel) : EnoughForBracket (fuel + 1) := by
  intro cs found n h hn
  obtain ⟨n, rfl⟩ : ∃ k, n = k + 1 := ⟨n - 1, by omega⟩
  rw [readBracket?_succ] at h ⊢
  split at h
  · cases h
  · rename_i body after hbody
    have hle := (firstMembers_suffix {} (classSign cs).2).length_le
    have hle' := (classSign_suffix cs).length_le
    rw [hmembers _ _ _ _ n hbody (by omega)]
    exact h

theorem nested (hmembers : EnoughForMembers fuel) (hbracket : EnoughForBracket fuel) {n : Nat}
    {members : List Member} {pending : Option (SetOperation × Member)} {cs : List Char}
    {found : Member × List Char} (h : readNested? {} fuel members pending cs = some found)
    (hn : 2 * cs.length + 2 ≤ n) : readNested? {} n members pending cs = some found := by
  rw [readNested?] at h ⊢
  split at h
  · rename_i set after hclass
    have hle := (asciiClass?_suffix hclass).length_le
    split at h
    · cases h
    · exact hmembers _ _ _ _ _ h (by omega)
  · split at h
    · cases h
    · rename_i inner after hinner
      have hle := (readBracket?_suffix hinner).length_le
      simp only [hbracket _ _ n hinner hn]
      exact hmembers _ _ _ _ _ h (by omega)

theorem succ (hmembers : EnoughForMembers fuel) (hbracket : EnoughForBracket fuel) :
    EnoughForMembers (fuel + 1) := by
  intro members pending cs found n h hn
  obtain ⟨n, rfl⟩ : ∃ k, n = k + 1 := ⟨n - 1, by omega⟩
  unfold readMembers? at h ⊢
  simp only [skip_default] at h ⊢
  split at h
  · cases h
  · exact h
  · simp only [List.length_cons] at hn
    exact hmembers.nested hbracket h (by omega)
  · simp only [List.length_cons] at hn
    exact hmembers _ _ _ _ _ h (by omega)
  · simp only [List.length_cons] at hn
    exact hmembers _ _ _ _ _ h (by omega)
  · simp only [List.length_cons] at hn
    exact hmembers _ _ _ _ _ h (by omega)
  · split at h
    · cases h
    · rename_i set after hrange
      have hle := (readRange?_suffix hrange).length_le
      have hlt : 0 < cs.length := List.length_pos_iff.2 ‹_›
      rw [List.length_tail] at hle
      exact hmembers _ _ _ _ _ h (by omega)

end EnoughForMembers

/-- A class is read with as much fuel as its text is long, twice over. -/
theorem readClass_of_enough (fuel : Nat) : EnoughForBracket fuel ∧ EnoughForMembers fuel := by
  induction fuel with
  | zero =>
    constructor
    · intro cs found n h
      rw [readBracket?] at h
      cases h
    · intro members pending cs found n h
      rw [readMembers?] at h
      cases h
  | succ fuel ih => exact ⟨ih.2.bracket, ih.2.succ ih.1⟩

theorem readBracket?_of_wrapped {fuel n : Nat} {m : Member} (hn : 2 * s.length + 2 ≤ n)
    (h : readBracket? {} fuel (s ++ wrapEnd) = some (m, s' ++ wrapEnd)) :
    readBracket? {} n s = some (m, s') :=
  (readClass_of_enough fuel).1 _ _ _ ((readClass_of_wrapped fuel).1 s s' m h) hn

/-! ## Counts -/

theorem dropBlanks_append_wrapEnd (s : List Char) :
    (s ++ wrapEnd).dropWhile isBlank = s.dropWhile isBlank ++ wrapEnd := by
  rw [List.dropWhile_append]
  split
  · rename_i hnil
    rw [List.isEmpty_iff.1 hnil]
    rfl
  · rfl

theorem leadingDigits_append_wrapEnd (s : List Char) :
    leadingDigits false false (s ++ wrapEnd) =
      ((leadingDigits false false s).1, (leadingDigits false false s).2 ++ wrapEnd) := by
  induction s with
  | nil => rfl
  | cons c s ih =>
    rw [List.cons_append, leadingDigits, leadingDigits]
    simp only [Bool.false_eq_true, if_false, Bool.false_and]
    split
    · rw [ih]
    · rfl

theorem readCount?_append_wrapEnd (s : List Char) :
    readCount? {} (s ++ wrapEnd) =
      (readCount? {} s).map fun found => (found.1, found.2 ++ wrapEnd) := by
  unfold readCount?
  rw [show ({} : Flags).verbose = false from rfl, dropBlanks_append_wrapEnd,
    leadingDigits_append_wrapEnd]
  rcases leadingDigits false false (s.dropWhile isBlank) with ⟨_ | ⟨d, digits⟩, after⟩
  · rfl
  · dsimp only
    split
    · rfl
    · rw [dropBlanks_append_wrapEnd]
      rfl

theorem readCounts?_of_wrapped {least : Nat} {most : Option Nat}
    (h : readCounts? {} (s ++ wrapEnd) = some (least, most, s' ++ wrapEnd)) :
    readCounts? {} s = some (least, most, s') := by
  unfold readCounts? at h ⊢
  simp only [skip_default, readCount?_append_wrapEnd] at h ⊢
  cases hcount : readCount? {} s with
  | none =>
    rw [hcount] at h
    cases h
  | some found =>
    obtain ⟨n, rest⟩ := found
    simp only [hcount, Option.map_some] at h ⊢
    have hrest : ∀ {least' : Nat} {most' : Option Nat} {rest : List Char},
        some (least', most', rest ++ wrapEnd) = some (least, most, s' ++ wrapEnd) →
          some (least', most', rest) = some (least, most, s') := by
      intro least' most' rest heq
      simp only [Option.some.injEq, Prod.mk.injEq] at heq ⊢
      exact ⟨heq.1, heq.2.1, List.append_cancel_right heq.2.2⟩
    split at h
    · rename_i heq
      obtain ⟨more, rfl, rfl⟩ := cons_of_append_wrapEnd heq (by decide)
      exact hrest h
    · rename_i heq
      obtain ⟨more, rfl, rfl⟩ := cons_of_append_wrapEnd heq (by decide)
      simp only
      split at h
      · rename_i heq
        obtain ⟨more, rfl, rfl⟩ := cons_of_append_wrapEnd heq (by decide)
        exact hrest h
      · rename_i hclose
        split
        · exact (hclose _ rfl).elim
        · cases hcount' : readCount? {} more with
          | none =>
            rw [readCount?_append_wrapEnd, hcount'] at h
            cases h
          | some found =>
            obtain ⟨n', rest'⟩ := found
            simp only [readCount?_append_wrapEnd, hcount', Option.map_some] at h
            split at h
            · rename_i heq
              simp only [Option.some.injEq, Prod.mk.injEq] at heq
              obtain ⟨rfl, heq⟩ := heq
              obtain ⟨more', rfl, rfl⟩ := cons_of_append_wrapEnd heq (by decide)
              split at h
              · rename_i hle
                simp only [if_pos hle]
                exact hrest h
              · cases h
            · cases h
    · cases h

theorem afterReluctance_append_wrapEnd (s : List Char) :
    afterReluctance (s ++ wrapEnd) = afterReluctance s ++ wrapEnd := by
  cases s with
  | nil => rfl
  | cons c s =>
    by_cases hc : c = '?'
    · subst hc
      rfl
    · simp [afterReluctance, hc]

end Pattern

end PromptScript
