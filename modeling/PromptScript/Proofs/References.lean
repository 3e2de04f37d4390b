import PromptScript.Reference

/-!
# Proofs.References

Facts about the references of a text.

* `canonicalName_label`: a reference looks up its identifier, however it is written.
* `pieces_induction`: induction along the pieces of a text.
* `flatMap_written_pieces`: the pieces joined give back the text.
* `pieces_append`: a character that no reference holds after its sign parts the text, and the two
  parts can be cut into pieces on their own.
-/

namespace PromptScript

theorem afterOpening?_eq_some {opening cs rest : List Char}
    (h : afterOpening? opening cs = some rest) : cs = opening ++ rest := by
  induction opening generalizing cs with
  | nil => simp only [afterOpening?] at h; cases h; rfl
  | cons o opening ih =>
    cases cs with
    | nil => simp [afterOpening?] at h
    | cons c cs =>
      simp only [afterOpening?] at h
      split at h
      · rename_i hoc
        rw [hoc, ih h]; rfl
      · cases h

theorem afterOpening?_append (opening rest : List Char) :
    afterOpening? opening (opening ++ rest) = some rest := by
  induction opening with
  | nil => rfl
  | cons o opening ih => simp [afterOpening?, ih]

theorem afterOpening?_append_cons {opening : List Char} {c : Char} (hc : c ∉ opening)
    (a b : List Char) :
    afterOpening? opening (a ++ c :: b) = (afterOpening? opening a).map (· ++ c :: b) := by
  induction opening generalizing a with
  | nil => rfl
  | cons o opening ih =>
    simp only [List.mem_cons, not_or] at hc
    cases a with
    | nil => simp [afterOpening?, Ne.symm hc.1]
    | cons d a =>
      simp only [List.cons_append, afterOpening?]
      split
      · exact ih hc.2 a
      · rfl

/-! ## Braces and qualifiers -/

theorem withoutBraces_append (inner : List Char) :
    withoutBraces ('{' :: inner ++ ['}']) = inner := by
  simp [withoutBraces]

theorem withoutBraces_eq_self {cs : List Char} (h : ∀ inner, cs ≠ '{' :: inner ++ ['}']) :
    withoutBraces cs = cs := by
  unfold withoutBraces
  split
  · rename_i rest
    split
    · rename_i hlast
      obtain ⟨inner, rfl⟩ := List.getLast?_eq_some_iff.1 hlast
      exact absurd rfl (h inner)
    · rfl
  · rfl

theorem withoutQualifier_append (rest : List Char) :
    withoutQualifier (qualifier ++ rest) = rest := by
  rw [withoutQualifier, afterOpening?_append]
  rfl

theorem withoutQualifier_eq_self {cs : List Char} (h : ∀ rest, cs ≠ qualifier ++ rest) :
    withoutQualifier cs = cs := by
  rw [withoutQualifier]
  cases hopening : afterOpening? qualifier cs with
  | none => rfl
  | some rest => exact absurd (afterOpening?_eq_some hopening) (h rest)

theorem qualified_ne_braced (rest inner : List Char) :
    qualifier ++ rest ≠ '{' :: inner ++ ['}'] := by
  intro h
  exact absurd (List.cons.inj h).1 (by decide)

/-! ## Identifiers -/

/-- A text that is an identifier: a character that may start one, and characters that may go on. -/
def IsName (id : List Char) : Prop :=
  ∃ c rest, id = c :: rest ∧ startsName c = true ∧ ∀ x ∈ rest, continuesName x = true

theorem IsName.continues {id : List Char} (h : IsName id) : ∀ x ∈ id, continuesName x = true := by
  obtain ⟨c, rest, rfl, hc, hrest⟩ := h
  intro x hx
  rcases List.mem_cons.1 hx with rfl | hx
  · simp [continuesName, hc]
  · exact hrest x hx

theorem leadingName_isName {cs : List Char} (h : leadingName cs ≠ []) :
    IsName (leadingName cs) := by
  cases cs with
  | nil => exact absurd rfl h
  | cons c rest =>
    simp only [leadingName] at h ⊢
    split
    · rename_i hc
      exact ⟨c, rest.takeWhile continuesName, rfl, hc, List.all_eq_true.1 List.all_takeWhile⟩
    · rename_i hc
      rw [if_neg hc] at h
      exact absurd rfl h

theorem leadingName_append (cs : List Char) : ∃ rest, cs = leadingName cs ++ rest := by
  cases cs with
  | nil => exact ⟨[], rfl⟩
  | cons c rest =>
    simp only [leadingName]
    split
    · exact ⟨rest.dropWhile continuesName, by simp⟩
    · exact ⟨c :: rest, rfl⟩

theorem leadingName_append_cons {c : Char} (hc : continuesName c = false) (a b : List Char) :
    leadingName (a ++ c :: b) = leadingName a := by
  cases a with
  | nil =>
    have hs : startsName c = false := by
      simp only [continuesName, Bool.or_eq_false_iff] at hc
      exact hc.1
    simp [leadingName, hs]
  | cons d a =>
    have htake : (a ++ c :: b).takeWhile continuesName = a.takeWhile continuesName := by
      induction a with
      | nil => simp [hc]
      | cons x a ih => simp [List.takeWhile_cons, ih]
    simp only [List.cons_append, leadingName, htake]

namespace Reference

/-! ## The form of a reference -/

theorem ofInner?_eq_some {braced qualified : Bool} {cs : List Char} {r : Reference}
    (h : ofInner? braced qualified cs = some r) :
    r.braced = braced ∧ r.qualified = qualified ∧ IsName r.identifier ∧
      ∃ rest, cs = r.identifier ++ (if braced then '}' :: rest else rest) := by
  simp only [ofInner?] at h
  obtain ⟨rest, hrest⟩ := leadingName_append cs
  have hname : leadingName cs ≠ [] → IsName (leadingName cs) := leadingName_isName
  generalize leadingName cs = id at h hrest hname
  split at h
  · cases h
  · rename_i hne
    split at h
    · cases h
    · rename_i hclose
      cases h
      refine ⟨rfl, rfl, hname hne, ?_⟩
      cases braced with
      | false => exact ⟨rest, hrest⟩
      | true =>
        subst hrest
        rw [List.getElem?_append_right (Nat.le_refl _), Nat.sub_self] at hclose
        cases rest with
        | nil => simp at hclose
        | cons c rest =>
          have hc : c = '}' := by simpa using hclose
          exact ⟨rest, by rw [hc]; rfl⟩

theorem afterSign?_eq_some {braced : Bool} {cs : List Char} {r : Reference}
    (h : afterSign? braced cs = some r) :
    r.braced = braced ∧ IsName r.identifier ∧
      ∃ rest, cs = r.inner ++ (if braced then '}' :: rest else rest) := by
  simp only [afterSign?] at h
  split at h
  · rename_i r' hq
    cases h
    obtain ⟨inner, hopen, hinner⟩ := Option.bind_eq_some_iff.1 hq
    obtain ⟨hb, hqual, hname, rest, hrest⟩ := ofInner?_eq_some hinner
    refine ⟨hb, hname, rest, ?_⟩
    rw [afterOpening?_eq_some hopen, Reference.inner, if_pos hqual, List.append_assoc, ← hrest]
  · obtain ⟨hb, hqual, hname, rest, hrest⟩ := ofInner?_eq_some h
    refine ⟨hb, hname, rest, ?_⟩
    rw [Reference.inner, if_neg (by simp [hqual]), ← hrest]

/-- What is found at the start of a text stands there as written, and has an identifier. -/
theorem leading?_eq_some {cs : List Char} {r : Reference} (h : leading? cs = some r) :
    IsName r.identifier ∧ ∃ rest, cs = r.written ++ rest := by
  unfold leading? at h
  split at h
  · obtain ⟨hb, hname, rest, hrest⟩ := afterSign?_eq_some h
    exact ⟨hname, rest, by rw [hrest]; simp [written, hb]⟩
  · obtain ⟨hb, hname, rest, hrest⟩ := afterSign?_eq_some h
    exact ⟨hname, rest, by rw [hrest]; simp [written, hb]⟩
  · cases h

theorem written_ne_nil (r : Reference) : r.written ≠ [] := by
  simp only [written]
  split <;> exact List.cons_ne_nil _ _

theorem length_written_pos (r : Reference) : 0 < r.written.length :=
  List.length_pos_iff.2 (written_ne_nil r)

/-- A character that can stand in no reference after the sign that opens it. -/
def Parts (c : Char) : Prop := continuesName c = false ∧ c ≠ '}' ∧ c ∉ qualifier

theorem ofInner?_append_cons {c : Char} (hc : Parts c) (braced qualified : Bool)
    (a b : List Char) :
    ofInner? braced qualified (a ++ c :: b) = ofInner? braced qualified a := by
  have hget : ∀ id : List Char, (∃ rest, a = id ++ rest) →
      ((a ++ c :: b)[id.length]? ≠ some '}' ↔ a[id.length]? ≠ some '}') := by
    rintro id ⟨rest, rfl⟩
    cases rest with
    | nil => simp [hc.2.1]
    | cons d rest => simp
  have hclose := hget (leadingName a) (leadingName_append a)
  simp only [ofInner?, leadingName_append_cons hc.1]
  split
  · rfl
  · simp [hclose]

theorem afterSign?_append_cons {c : Char} (hc : Parts c) (braced : Bool) (a b : List Char) :
    afterSign? braced (a ++ c :: b) = afterSign? braced a := by
  have hq : (afterOpening? qualifier (a ++ c :: b)).bind (ofInner? braced true) =
      (afterOpening? qualifier a).bind (ofInner? braced true) := by
    rw [afterOpening?_append_cons hc.2.2]
    cases afterOpening? qualifier a with
    | none => rfl
    | some rest => exact ofInner?_append_cons hc braced true rest b
  simp only [afterSign?, hq, ofInner?_append_cons hc]

theorem leading?_append_cons {c : Char} (hc : Parts c) {a : List Char} (ha : a ≠ [])
    (b : List Char) : leading? (a ++ c :: b) = leading? a := by
  cases a with
  | nil => exact absurd rfl ha
  | cons d a =>
    rw [List.cons_append]
    by_cases h1 : d = '{'
    · subst h1; exact afterSign?_append_cons hc true a b
    · by_cases h2 : d = '$'
      · subst h2; exact afterSign?_append_cons hc false a b
      · simp [leading?, h1, h2]

/-! ## The name of a reference -/

theorem not_mem_of_isName {id : List Char} (h : IsName id) {c : Char}
    (hc : continuesName c = false) : c ∉ id := by
  intro hmem
  rw [h.continues c hmem] at hc
  cases hc

theorem withoutQualifier_inner {r : Reference} (h : IsName r.identifier) :
    withoutQualifier r.inner = r.identifier := by
  rw [inner]
  split
  · exact withoutQualifier_append r.identifier
  · refine withoutQualifier_eq_self fun rest hrest => ?_
    -- an identifier has no dot, so it cannot start with the qualifier
    have hdot : '.' ∈ r.identifier := by
      rw [hrest]
      exact List.mem_append_left rest (by decide)
    exact not_mem_of_isName h (by decide) hdot

theorem withoutBraces_inner {r : Reference} (h : IsName r.identifier) :
    withoutBraces r.inner = r.inner := by
  refine withoutBraces_eq_self fun middle hmiddle => ?_
  rw [inner] at hmiddle
  split at hmiddle
  · exact qualified_ne_braced r.identifier middle hmiddle
  · exact not_mem_of_isName h (c := '{') (by decide) (by simp [hmiddle])

/-- A reference looks up its identifier, whichever way it is written. -/
theorem canonicalName_label {r : Reference} (h : IsName r.identifier) :
    canonicalName r.label = r.name := by
  have hbraces : withoutBraces r.label.toList = r.inner := by
    simp only [label, String.toList_ofList]
    split
    · rename_i hb
      rw [written, if_pos hb, withoutBraces_append]
    · exact withoutBraces_inner h
  rw [canonicalName, hbraces, withoutQualifier_inner h, name]

/-- The name of a reference is canonical. -/
theorem canonicalName_name {r : Reference} (h : IsName r.identifier) :
    canonicalName r.name = r.name :=
  canonicalName_label (r := ⟨false, false, r.identifier⟩) h

end Reference

/-! ## Pieces -/

theorem piecesAfter_eq (skip : Nat) (cs : List Char) :
    piecesAfter skip cs = pieces (cs.drop skip) := by
  induction cs generalizing skip with
  | nil => simp [pieces, piecesAfter]
  | cons c rest ih =>
    cases skip with
    | zero => rfl
    | succ skip => simp [piecesAfter, ih]

@[simp] theorem pieces_nil : pieces [] = [] := rfl

theorem pieces_of_plain {c : Char} {rest : List Char}
    (h : Reference.leading? (c :: rest) = none) :
    pieces (c :: rest) = .plain c :: pieces rest := by
  simp only [pieces, piecesAfter, h]

theorem pieces_of_reference {r : Reference} {rest : List Char}
    (h : Reference.leading? (r.written ++ rest) = some r) :
    pieces (r.written ++ rest) = .reference r :: pieces rest := by
  cases hw : r.written with
  | nil => exact absurd hw r.written_ne_nil
  | cons c w =>
    rw [hw, List.cons_append] at h
    rw [List.cons_append, pieces, piecesAfter, h]
    simp [piecesAfter_eq, hw]

/-- Induction along the pieces of a text. -/
theorem pieces_induction {motive : List Char → Prop} (nil : motive [])
    (plain : ∀ c rest, Reference.leading? (c :: rest) = none → motive rest → motive (c :: rest))
    (reference : ∀ (r : Reference) (rest : List Char), IsName r.identifier →
      Reference.leading? (r.written ++ rest) = some r → motive rest → motive (r.written ++ rest))
    (cs : List Char) : motive cs := by
  induction hn : cs.length using Nat.strongRecOn generalizing cs with
  | _ n ih =>
    cases cs with
    | nil => exact nil
    | cons c rest =>
      cases h : Reference.leading? (c :: rest) with
      | none => exact plain c rest h (ih rest.length (by simp at hn; omega) rest rfl)
      | some r =>
        obtain ⟨hname, after, heq⟩ := Reference.leading?_eq_some h
        have hpos := r.length_written_pos
        have hlen : after.length < n := by
          rw [← hn, heq, List.length_append]; omega
        rw [heq] at h ⊢
        exact reference r after hname h (ih after.length hlen after rfl)

/-- The pieces joined together are the text. -/
theorem flatMap_written_pieces (cs : List Char) : (pieces cs).flatMap Piece.written = cs := by
  induction cs using pieces_induction with
  | nil => rfl
  | plain c rest h ih => rw [pieces_of_plain h, List.flatMap_cons, ih]; rfl
  | reference r rest _ h ih => rw [pieces_of_reference h, List.flatMap_cons, ih]; rfl

/-- Every reference among the pieces of a text has an identifier. -/
theorem isName_of_mem_pieces {cs : List Char} {r : Reference} (h : .reference r ∈ pieces cs) :
    IsName r.identifier := by
  induction cs using pieces_induction with
  | nil => cases h
  | plain c rest hp ih =>
    rw [pieces_of_plain hp, List.mem_cons] at h
    rcases h with h | h
    · cases h
    · exact ih h
  | reference r' rest hname hr ih =>
    rw [pieces_of_reference hr, List.mem_cons] at h
    rcases h with h | h
    · cases h; exact hname
    · exact ih h

/-- No reference reaches over a character that parts the text. -/
theorem pieces_append {c : Char} (hc : Reference.Parts c) (a b : List Char) :
    pieces (a ++ c :: b) = pieces a ++ pieces (c :: b) := by
  induction a using pieces_induction with
  | nil => rfl
  | plain d rest h ih =>
    have h' : Reference.leading? (d :: (rest ++ c :: b)) = none := by
      rw [← List.cons_append, Reference.leading?_append_cons hc (List.cons_ne_nil d rest), h]
    rw [List.cons_append, pieces_of_plain h', pieces_of_plain h, ih]; rfl
  | reference r rest _ h ih =>
    -- a reference that is read before `c` is read the same with `c` behind it
    have hne : r.written ++ rest ≠ [] := by simp [r.written_ne_nil]
    have h' : Reference.leading? (r.written ++ (rest ++ c :: b)) = some r := by
      rw [← List.append_assoc, Reference.leading?_append_cons hc hne, h]
    rw [List.append_assoc, pieces_of_reference h', pieces_of_reference h, ih]; rfl

/-! ## Occurrences -/

theorem mem_occurrences_iff {line : Nat} {ps : List Piece} {r : Reference} :
    (∃ o ∈ occurrences line ps, o.reference = r) ↔ .reference r ∈ ps := by
  induction ps generalizing line with
  | nil => simp [occurrences]
  | cons p rest ih =>
    cases p with
    | plain c => simp [occurrences, ih]
    | reference r' => simp [occurrences, ih, @eq_comm _ r' r]

/-- The references found in a text are those among its pieces. -/
theorem mem_references_iff {text : String} {r : Reference} :
    (∃ o ∈ references text, o.reference = r) ↔ .reference r ∈ pieces text.toList :=
  mem_occurrences_iff

end PromptScript
