import Mathlib.Data.List.Basic
import PromptScript.Proofs.UndeclaredNames

/-!
# Proofs.ReferenceCuts

A text cut at its references. Where a reference is read off the start of a text, its identifier is
as long as it can be and the qualifier is taken before anything else (`Reference.Reads`), so that no
two references are read at one place (`Reads.unique`), and the scanner reads exactly these
(`leading?_eq_some_iff`). From left to right a text falls into references and the plain text between
them. Finding references lists those, with the newlines in front of each, and filling a text in
replaces those and nothing else (`interpolate_fills_references`).
-/

namespace PromptScript

/-! ## Identifiers -/

/-- A text in front of a character that no identifier holds. -/
def Ends (rest : List Char) : Prop := ∀ c ∈ rest.head?, continuesName c = false

theorem takeWhile_append_of_ends {id rest : List Char} (h : IsName id) (hrest : Ends rest) :
    (id ++ rest).takeWhile continuesName = id := by
  rw [List.takeWhile_append_of_pos h.continues]
  cases rest with
  | nil => simp
  | cons c rest => simp [hrest c rfl]

/-- Identifiers that are as long as they can be are one. -/
theorem name_unique {id id' rest rest' : List Char} (h : IsName id) (h' : IsName id')
    (hrest : Ends rest) (hrest' : Ends rest') (heq : id ++ rest = id' ++ rest') : id = id' := by
  rw [← takeWhile_append_of_ends h hrest, heq, takeWhile_append_of_ends h' hrest']

theorem leadingName_of_ends {id rest : List Char} (h : IsName id) (hrest : Ends rest) :
    leadingName (id ++ rest) = id := by
  obtain ⟨c, tail, rfl, hc, htail⟩ := h
  have htake := takeWhile_append_of_ends ⟨c, tail, rfl, hc, htail⟩ hrest
  rw [List.cons_append, List.takeWhile_cons, if_pos (by simp [continuesName, hc])] at htake
  rw [List.cons_append, leadingName, if_pos hc, htake]

theorem leadingName_ne_nil {id : List Char} (h : IsName id) (rest : List Char) :
    leadingName (id ++ rest) ≠ [] := by
  obtain ⟨c, tail, rfl, hc, _⟩ := h
  rw [List.cons_append, leadingName, if_pos hc]
  exact List.cons_ne_nil _ _

/-- An identifier at the start of a text is as long as it can be. -/
theorem leadingName_ends {cs : List Char} (h : leadingName cs ≠ []) :
    ∃ rest, cs = leadingName cs ++ rest ∧ Ends rest := by
  cases cs with
  | nil => exact absurd rfl h
  | cons c cs =>
    rw [leadingName] at h
    split at h
    · rename_i hc
      rw [leadingName, if_pos hc]
      refine ⟨cs.dropWhile continuesName, by simp, fun d hd => ?_⟩
      have hhead := List.head?_dropWhile_not continuesName cs
      rw [Option.mem_def.1 hd] at hhead
      exact hhead
    · exact absurd rfl h

namespace Reference

/-! ## Reading a reference -/

/-- The reference is what is read where it stands with the rest of a text after it. -/
structure Reads (r : Reference) (rest : List Char) : Prop where
  isName : IsName r.identifier
  longest : r.braced = false → Ends rest
  qualifierFirst : r.qualified = false → ∀ id after, IsName id →
    r.written ++ rest ≠ (⟨r.braced, true, id⟩ : Reference).written ++ after

/-- The text after the identifier of a reference. -/
def closed (r : Reference) (rest : List Char) : List Char := if r.braced then '}' :: rest else rest

theorem written_append (r : Reference) (rest : List Char) :
    r.written ++ rest = (if r.braced then '{' else '$') :: (r.inner ++ r.closed rest) := by
  rw [written, closed]
  split <;> simp

theorem Reads.ends {r : Reference} {rest : List Char} (h : r.Reads rest) :
    Ends (r.closed rest) := by
  rw [closed]
  split
  · rintro _ ⟨⟩
    decide
  · rename_i hbraced
    exact h.longest (Bool.eq_false_iff.2 hbraced)

/-- A reference in which the qualifier is passed over is not read. -/
theorem Reads.not_qualified {r r' : Reference} {rest rest' : List Char} (h : r.Reads rest)
    (hr : r.qualified = false) (h' : IsName r'.identifier) (hbraced : r'.braced = r.braced)
    (heq : r.written ++ rest = r'.written ++ rest') : r'.qualified = false := by
  cases hqualified : r'.qualified with
  | false => rfl
  | true =>
    refine absurd ?_ (h.qualifierFirst hr r'.identifier rest' h')
    rw [heq, ← hbraced, ← hqualified]

/-- At one place one reference is read. -/
theorem Reads.unique {r r' : Reference} {rest rest' : List Char} (h : r.Reads rest)
    (h' : r'.Reads rest') (heq : r.written ++ rest = r'.written ++ rest') : r = r' := by
  have hcons := heq
  rw [written_append, written_append] at hcons
  obtain ⟨hsign, hinner⟩ := List.cons.inj hcons
  have hbraced : r.braced = r'.braced := by
    cases hr : r.braced <;> cases hr' : r'.braced <;> simp [hr, hr'] at hsign ⊢
  have hqualified : r.qualified = r'.qualified := by
    cases hr : r.qualified with
    | false => exact (h.not_qualified hr h'.isName hbraced.symm heq).symm
    | true =>
      cases hr' : r'.qualified with
      | true => rfl
      | false =>
        have hnone := h'.not_qualified hr' h.isName hbraced heq.symm
        rw [hr] at hnone
        cases hnone
  have hrests : r.identifier ++ r.closed rest = r'.identifier ++ r'.closed rest' := by
    rw [inner, inner, ← hqualified] at hinner
    split at hinner
    · rwa [List.append_assoc, List.append_assoc, List.append_cancel_left_eq] at hinner
    · exact hinner
  have hidentifier := name_unique h.isName h'.isName h.ends h'.ends hrests
  cases r
  cases r'
  cases hbraced
  cases hqualified
  cases hidentifier
  rfl

/-! ## The scanner -/

theorem isSome_ofInner? {r : Reference} (h : IsName r.identifier) (qualified : Bool)
    (rest : List Char) :
    (ofInner? r.braced qualified (r.identifier ++ r.closed rest)).isSome = true := by
  rw [ofInner?, closed]
  cases hbraced : r.braced with
  | false =>
    have hne := leadingName_ne_nil h rest
    cases hname : leadingName (r.identifier ++ rest) with
    | nil => exact absurd hname hne
    | cons c id => simp [hname]
  | true =>
    have hends : Ends ('}' :: rest) := by
      rintro _ ⟨⟩
      decide
    obtain ⟨c, id, hid⟩ : ∃ c id, r.identifier = c :: id := by
      obtain ⟨c, id, hid, _⟩ := h
      exact ⟨c, id, hid⟩
    have hname := leadingName_of_ends h hends
    rw [if_pos rfl, hname, hid]
    simp

theorem leading?_written (r : Reference) (rest : List Char) :
    leading? (r.written ++ rest) = afterSign? r.braced (r.inner ++ r.closed rest) := by
  rw [written_append]
  cases r.braced <;> rfl

/-- Where a reference stands, something is read. -/
theorem isSome_leading? {r : Reference} (h : IsName r.identifier) (rest : List Char) :
    (leading? (r.written ++ rest)).isSome = true := by
  rw [leading?_written, afterSign?]
  split
  · rfl
  · rename_i hnone
    cases hqualified : r.qualified with
    | false =>
      rw [inner, hqualified]
      exact isSome_ofInner? h false rest
    | true =>
      rw [inner, hqualified, if_pos rfl, List.append_assoc, afterOpening?_append,
        Option.bind_some] at hnone
      have hsome := isSome_ofInner? h true rest
      rw [hnone] at hsome
      cases hsome

/-- Nothing is read exactly where no reference stands. -/
theorem leading?_eq_none_iff {cs : List Char} :
    leading? cs = none ↔
      ∀ (r : Reference) (rest : List Char), IsName r.identifier → cs ≠ r.written ++ rest := by
  constructor
  · rintro hnone r rest hname rfl
    have hsome := isSome_leading? hname rest
    rw [hnone] at hsome
    cases hsome
  · intro h
    rw [Option.eq_none_iff_forall_ne_some]
    intro r hr
    obtain ⟨hname, rest, hrest⟩ := leading?_eq_some hr
    exact h r rest hname hrest

theorem ends_of_ofInner? {braced qualified : Bool} {r : Reference} {rest : List Char}
    (h : ofInner? braced qualified (r.identifier ++ rest) = some r) : Ends rest := by
  have hidentifier : leadingName (r.identifier ++ rest) = r.identifier := by
    rw [ofInner?] at h
    split at h
    · cases h
    · split at h
      · cases h
      · exact congrArg identifier (Option.some.inj h)
  have hne : leadingName (r.identifier ++ rest) ≠ [] := by
    obtain ⟨_, _, hname, _⟩ := ofInner?_eq_some h
    exact leadingName_ne_nil hname rest
  obtain ⟨after, hafter, hends⟩ := leadingName_ends hne
  rw [hidentifier] at hafter
  rwa [List.append_cancel_left hafter]

/-- After its sign a reference has the qualifier, or none can be read there that has it. -/
theorem afterSign?_cases {braced : Bool} {cs : List Char} {r : Reference}
    (h : afterSign? braced cs = some r) :
    (r.qualified = true ∧ ∃ after, cs = qualifier ++ after ∧ ofInner? braced true after = some r) ∨
      (r.qualified = false ∧ ofInner? braced false cs = some r ∧
        ∀ after, cs = qualifier ++ after → ofInner? braced true after = none) := by
  rw [afterSign?] at h
  split at h
  · rename_i r' hbind
    cases h
    obtain ⟨after, hafter, hinner⟩ := Option.bind_eq_some_iff.1 hbind
    exact .inl ⟨(ofInner?_eq_some hinner).2.1, after, afterOpening?_eq_some hafter, hinner⟩
  · rename_i hnone
    refine .inr ⟨(ofInner?_eq_some h).2.1, h, ?_⟩
    rintro after rfl
    rwa [afterOpening?_append, Option.bind_some] at hnone

/-- What the scanner finds is what is read there. -/
theorem reads_of_leading? {r : Reference} {rest : List Char}
    (h : leading? (r.written ++ rest) = some r) : r.Reads rest := by
  have hname := (leading?_eq_some h).1
  have hlongest (hends : Ends (r.closed rest)) (hbraced : r.braced = false) : Ends rest := by
    rwa [closed, hbraced, if_neg Bool.false_ne_true] at hends
  rw [leading?_written] at h
  rcases afterSign?_cases h with ⟨hqualified, after, hafter, hinner⟩ | ⟨hqualified, hinner, hnone⟩
  · rw [inner, if_pos hqualified, List.append_assoc] at hafter
    rw [← List.append_cancel_left hafter] at hinner
    refine ⟨hname, hlongest (ends_of_ofInner? hinner), fun hplain => ?_⟩
    rw [hqualified] at hplain
    cases hplain
  · have hplain : r.inner = r.identifier := by
      rw [inner, hqualified]
      rfl
    rw [hplain] at hinner hnone
    refine ⟨hname, hlongest (ends_of_ofInner? hinner), fun _ id after hid heq => ?_⟩
    -- a reference with the qualifier would have come first
    rw [written_append, written_append, hplain] at heq
    have hcut := (List.cons.inj heq).2
    rw [inner, if_pos rfl, List.append_assoc] at hcut
    have hsome := isSome_ofInner? (r := ⟨r.braced, true, id⟩) hid true after
    rw [hnone _ hcut] at hsome
    cases hsome

/-- The scanner finds exactly the reference that is read at the start of a text. -/
theorem leading?_eq_some_iff {cs : List Char} {r : Reference} :
    leading? cs = some r ↔ ∃ rest, cs = r.written ++ rest ∧ r.Reads rest := by
  constructor
  · intro h
    obtain ⟨_, rest, rfl⟩ := leading?_eq_some h
    exact ⟨rest, rfl, reads_of_leading? h⟩
  · rintro ⟨rest, rfl, hreads⟩
    obtain ⟨r', hr'⟩ := Option.isSome_iff_exists.1 (isSome_leading? hreads.isName rest)
    obtain ⟨_, rest', heq⟩ := leading?_eq_some hr'
    have hreads' : r'.Reads rest' := reads_of_leading? (heq ▸ hr')
    rw [hr', hreads.unique hreads' heq]

end Reference

/-! ## Cuts -/

/-- A text cut at its references, from left to right: the plain text in front of the first, and each
with the plain text after it. -/
inductive CutAtReferences : List Char → List Char → List (Reference × List Char) → Prop where
  | nil : CutAtReferences [] [] []
  | plain {c : Char} {rest first : List Char} {cuts : List (Reference × List Char)} :
      (∀ (r : Reference) (after : List Char), IsName r.identifier →
        c :: rest ≠ r.written ++ after) →
      CutAtReferences rest first cuts → CutAtReferences (c :: rest) (c :: first) cuts
  | reference {r : Reference} {rest first : List Char} {cuts : List (Reference × List Char)} :
      r.Reads rest → CutAtReferences rest first cuts →
      CutAtReferences (r.written ++ rest) [] ((r, first) :: cuts)

section Cuts

variable {cs first : List Char} {cuts : List (Reference × List Char)}

theorem CutAtReferences.eq (h : CutAtReferences cs first cuts) :
    cs = first ++ cuts.flatMap fun x => x.1.written ++ x.2 := by
  induction h with
  | nil => rfl
  | plain _ _ ih => rw [List.cons_append, ← ih]
  | reference _ _ ih => rw [List.nil_append, List.flatMap_cons, List.append_assoc, ← ih]

theorem CutAtReferences.isName (h : CutAtReferences cs first cuts) {x : Reference × List Char}
    (hx : x ∈ cuts) : IsName x.1.identifier := by
  induction h with
  | nil => cases hx
  | plain _ _ ih => exact ih hx
  | reference hreads _ ih =>
    rcases List.mem_cons.1 hx with rfl | hx
    · exact hreads.isName
    · exact ih hx

end Cuts

/-- The text in front of the first reference of pieces that come after `line` newlines, and each
reference, as it is found, with the text after it. -/
def cutPieces (line : Nat) : List Piece → List Char × List (Occurrence × List Char)
  | [] => ([], [])
  | .plain c :: rest =>
    let (first, cuts) := cutPieces (if c = '\n' then line + 1 else line) rest
    (c :: first, cuts)
  | .reference r :: rest =>
    let (first, cuts) := cutPieces line rest
    ([], (⟨r, line⟩, first) :: cuts)

theorem cutAtReferences_cutPieces (line : Nat) (cs : List Char) :
    CutAtReferences cs (cutPieces line (pieces cs)).1
      ((cutPieces line (pieces cs)).2.map fun x => (x.1.reference, x.2)) := by
  induction cs using pieces_induction generalizing line with
  | nil => exact .nil
  | plain c rest h ih =>
    rw [pieces_of_plain h]
    exact .plain (Reference.leading?_eq_none_iff.1 h) (ih _)
  | reference r rest _ h ih =>
    rw [pieces_of_reference h]
    exact .reference (Reference.reads_of_leading? h) (ih line)

/-- A text is cut in one way. -/
theorem CutAtReferences.eq_cutPieces {cs first : List Char} {cuts : List (Reference × List Char)}
    (h : CutAtReferences cs first cuts) (line : Nat) :
    first = (cutPieces line (pieces cs)).1 ∧
      cuts = (cutPieces line (pieces cs)).2.map fun x => (x.1.reference, x.2) := by
  induction h generalizing line with
  | nil => exact ⟨rfl, rfl⟩
  | @plain c rest first cuts hnone _ ih =>
    rw [pieces_of_plain (Reference.leading?_eq_none_iff.2 hnone)]
    obtain ⟨hfirst, hcuts⟩ := ih (if c = '\n' then line + 1 else line)
    exact ⟨congrArg (c :: ·) hfirst, hcuts⟩
  | @reference r rest first cuts hreads _ ih =>
    rw [pieces_of_reference (Reference.leading?_eq_some_iff.2 ⟨rest, rfl, hreads⟩)]
    obtain ⟨hfirst, hcuts⟩ := ih line
    refine ⟨rfl, ?_⟩
    rw [hfirst, hcuts]
    rfl

theorem occurrences_eq_map_cutPieces (line : Nat) (ps : List Piece) :
    occurrences line ps = (cutPieces line ps).2.map (·.1) := by
  induction ps generalizing line with
  | nil => rfl
  | cons p rest ih =>
    cases p with
    | plain c => exact ih _
    | reference r => exact congrArg _ (ih line)

/-- Pieces replaced one by one are the cut with its references replaced. -/
theorem flatMap_resolved_eq (find : String → Option String) (line : Nat) (ps : List Piece) :
    ps.flatMap (Piece.resolved find) = (cutPieces line ps).1 ++ (cutPieces line ps).2.flatMap
      fun x => (Piece.reference x.1.reference).resolved find ++ x.2 := by
  induction ps generalizing line with
  | nil => rfl
  | cons p rest ih =>
    cases p with
    | plain c => exact congrArg _ (ih _)
    | reference r =>
      rw [List.flatMap_cons, ih line]
      simp [cutPieces]

/-- The newlines in front of a reference are those of the cut in front of it. -/
theorem lineOffset_of_cutPieces {line : Nat} {ps : List Piece}
    {before after : List (Occurrence × List Char)} {x : Occurrence × List Char}
    (hnames : ∀ r, .reference r ∈ ps → IsName r.identifier)
    (h : (cutPieces line ps).2 = before ++ x :: after) :
    x.1.lineOffset = line + newlines ((cutPieces line ps).1 ++
      before.flatMap fun y => y.1.reference.written ++ y.2) := by
  induction ps generalizing line before with
  | nil => simp [cutPieces] at h
  | cons p rest ih =>
    have hrest := fun r hr => hnames r (List.mem_cons_of_mem p hr)
    cases p with
    | plain c =>
      rw [ih hrest h, cutPieces]
      simp only [List.cons_append, newlines_cons]
      split <;> omega
    | reference r =>
      have hnone := newlines_eq_zero_iff.2
        (Reference.newline_not_mem_written (hnames r List.mem_cons_self))
      rw [cutPieces] at h
      cases before with
      | nil =>
        obtain ⟨rfl, _⟩ := List.cons.inj h
        simp [cutPieces]
      | cons y before =>
        obtain ⟨rfl, hcuts⟩ := List.cons.inj h
        rw [ih hrest hcuts, cutPieces]
        simp [hnone]

/-- The name that a reference looks up is told by its label, and by what stands between its braces
or after its dollar sign. -/
theorem Reference.canonicalName_inner {r : Reference} (h : IsName r.identifier) :
    canonicalName (String.ofList r.inner) = canonicalName r.label := by
  rw [canonicalName_label h]
  exact canonicalName_label (r := ⟨false, r.qualified, r.identifier⟩) h

theorem resolved_reference {r : Reference} (h : IsName r.identifier)
    (find : String → Option String) :
    (Piece.reference r).resolved find =
      (find (canonicalName r.label)).elim r.written String.toList := by
  rw [Piece.resolved, Reference.canonicalName_label h]
  cases find r.name <;> rfl

theorem isName_of_mem_cutPieces {cs : List Char} {x : Occurrence × List Char}
    (hx : x ∈ (cutPieces 0 (pieces cs)).2) : IsName x.1.reference.identifier :=
  (cutAtReferences_cutPieces 0 cs).isName
    (List.mem_map_of_mem (f := fun x => (x.1.reference, x.2)) hx)

theorem written_cutPieces (cs : List Char) :
    cs = (cutPieces 0 (pieces cs)).1 ++
      (cutPieces 0 (pieces cs)).2.flatMap fun x => x.1.reference.written ++ x.2 := by
  have heq := (cutAtReferences_cutPieces 0 cs).eq
  rwa [List.flatMap_map] at heq

/-- Filling a text in replaces the references of its cut, each looked up under its own name. -/
theorem toList_interpolate (find : String → Option String) (text : String) :
    (interpolate find text).toList = (cutPieces 0 (pieces text.toList)).1 ++
      (cutPieces 0 (pieces text.toList)).2.flatMap fun x =>
        (find (canonicalName x.1.reference.label)).elim x.1.reference.written String.toList ++
          x.2 := by
  rw [interpolate, String.toList_ofList, flatMap_resolved_eq find 0]
  refine congrArg _ (List.flatMap_congr fun x hx => ?_)
  rw [resolved_reference (isName_of_mem_cutPieces hx)]

/-- The references of a text cut it from left to right, in the only way there is, and each is found
with the newlines in front of it. Filling the text in puts what is found under the name of each in
its place, and leaves the others and all that is between them as they are. -/
theorem interpolate_fills_references (text : String) :
    ∃ (first : List Char) (cuts : List (Occurrence × List Char)),
      references text = cuts.map (·.1) ∧
      CutAtReferences text.toList first (cuts.map fun x => (x.1.reference, x.2)) ∧
      (∀ first' cuts', CutAtReferences text.toList first' cuts' →
        first' = first ∧ cuts' = cuts.map fun x => (x.1.reference, x.2)) ∧
      text.toList = first ++ cuts.flatMap (fun x => x.1.reference.written ++ x.2) ∧
      (∀ before x after, cuts = before ++ x :: after → x.1.lineOffset =
        newlines (first ++ before.flatMap fun y => y.1.reference.written ++ y.2)) ∧
      (∀ x ∈ cuts, canonicalName (String.ofList x.1.reference.inner) =
        canonicalName x.1.reference.label) ∧
      ∀ find : String → Option String,
        (interpolate find text).toList = first ++ cuts.flatMap (fun x =>
          (find (canonicalName x.1.reference.label)).elim x.1.reference.written String.toList ++
            x.2) ∧
        ((∀ x ∈ cuts, find (canonicalName x.1.reference.label) = none) →
          interpolate find text = text) := by
  refine ⟨(cutPieces 0 (pieces text.toList)).1, (cutPieces 0 (pieces text.toList)).2,
    occurrences_eq_map_cutPieces 0 _, cutAtReferences_cutPieces 0 _,
    fun _ _ h => h.eq_cutPieces 0, written_cutPieces _, ?_, ?_,
    fun find => ⟨toList_interpolate find text, fun hnone => ?_⟩⟩
  · intro before x after hcuts
    rw [lineOffset_of_cutPieces (fun r hr => isName_of_mem_pieces hr) hcuts, Nat.zero_add]
  · exact fun x hx => Reference.canonicalName_inner (isName_of_mem_cutPieces hx)
  · rw [← String.toList_inj, toList_interpolate]
    conv => rhs; rw [written_cutPieces text.toList]
    refine congrArg _ (List.flatMap_congr fun x hx => ?_)
    rw [hnone x hx]
    rfl

theorem interpolate_fills_references_unknown :
    interpolate (fun _ => none) "\x7b$x\x7d and $context.y" = "\x7b$x\x7d and $context.y" := by
  obtain ⟨_, _, _, _, _, _, _, _, hfill⟩ :=
    interpolate_fills_references "\x7b$x\x7d and $context.y"
  exact (hfill fun _ => none).2 fun _ _ => rfl

example : (references "$\x7bx\x7d\x7b$x\x7d$context.\x7bcontext\x7d$context.context").map
    (fun o => String.ofList o.reference.written) =
      ["\x7bx\x7d", "$x", "$context", "\x7bcontext\x7d", "$context.context"] := by
  decide +kernel

end PromptScript
