import PromptScript.Proofs.Delimiters
import PromptScript.Proofs.Scope

/-!
# Proofs.UndeclaredNames

The fault of a body that refers to a name which is declared nowhere. The references of a text are
counted from its first line on, and no newline is inside a reference, so the line of a reference
counts all newlines in front of it (`occurrences_append`). The body's own first line counts those of
the header. Together the fault is on the line where the reference stands in the document
(`compile_undeclared`).
-/

namespace PromptScript

/-! ## References and newlines -/

theorem Reference.newline_not_mem_written {r : Reference} (h : IsName r.identifier) :
    '\n' ∉ r.written := by
  have hname : '\n' ∉ r.identifier := Reference.not_mem_of_isName h (by decide)
  have hqualifier : '\n' ∉ qualifier := by decide
  rw [Reference.written, Reference.inner]
  split <;> split <;> simp [hname, hqualifier]

/-- What comes after other pieces has the newlines of these in front of it. -/
theorem occurrences_append {line : Nat} {ps : List Piece} (qs : List Piece)
    (h : ∀ r, .reference r ∈ ps → IsName r.identifier) :
    occurrences line (ps ++ qs) =
      occurrences line ps ++ occurrences (line + newlines (ps.flatMap Piece.written)) qs := by
  induction ps generalizing line with
  | nil => rfl
  | cons p rest ih =>
    have hrest := fun r hr => h r (List.mem_cons_of_mem p hr)
    cases p with
    | plain c =>
      have hline : (if c = '\n' then line + 1 else line) + newlines (rest.flatMap Piece.written) =
          line + newlines ((Piece.plain c :: rest).flatMap Piece.written) := by
        rw [List.flatMap_cons, Piece.written, newlines_append, newlines_cons, newlines_nil]
        split <;> omega
      rw [List.cons_append, occurrences, ih hrest, hline]
      rfl
    | reference r =>
      have hnone := newlines_eq_zero_iff.2
        (Reference.newline_not_mem_written (h r List.mem_cons_self))
      rw [List.cons_append, occurrences, ih hrest, List.flatMap_cons, Piece.written,
        newlines_append, hnone, Nat.zero_add]
      rfl

namespace Document

/-! ## The first name that is declared nowhere -/

/-- A reference to a name that the document does not know, where it counts as a reference. -/
def Unresolved (known : List String) (r : Reference) : Prop := Refers known r ∧ r.name ∉ known

instance (known : List String) (r : Reference) : Decidable (Unresolved known r) :=
  inferInstanceAs (Decidable ((_ → _) ∧ _))

/-- The first unresolved reference of a body, and the characters of the body in front of it. -/
def FirstUnresolved (known : List String) (body ahead : List Char) (r : Reference) : Prop :=
  ∃ ps qs, pieces body = ps ++ .reference r :: qs ∧ ps.flatMap Piece.written = ahead ∧
    Unresolved known r ∧ ∀ r', .reference r' ∈ ps → ¬ Unresolved known r'

theorem FirstUnresolved.body_eq {known : List String} {body ahead : List Char} {r : Reference}
    (h : FirstUnresolved known body ahead r) : ∃ after, body = ahead ++ r.written ++ after := by
  obtain ⟨ps, qs, hpieces, rfl, _⟩ := h
  refine ⟨qs.flatMap Piece.written, ?_⟩
  rw [← flatMap_written_pieces body, hpieces]
  simp [Piece.written]

theorem FirstUnresolved.isName {known : List String} {body ahead : List Char} {r : Reference}
    (h : FirstUnresolved known body ahead r) : IsName r.identifier := by
  obtain ⟨ps, qs, hpieces, _⟩ := h
  have hmem : .reference r ∈ pieces body := by simp [hpieces]
  exact isName_of_mem_pieces hmem

/-- Cutting the occurrences of pieces in two cuts the pieces. -/
theorem pieces_of_occurrences {line : Nat} {ps : List Piece} {found later : List Occurrence}
    {o : Occurrence} (h : occurrences line ps = found ++ o :: later) :
    ∃ before after, ps = before ++ .reference o.reference :: after ∧
      occurrences line before = found := by
  induction ps generalizing line found with
  | nil => simp [occurrences] at h
  | cons p rest ih =>
    cases p with
    | plain c =>
      obtain ⟨before, after, rfl, hbefore⟩ := ih h
      exact ⟨.plain c :: before, after, rfl, hbefore⟩
    | reference r =>
      rw [occurrences] at h
      cases found with
      | nil =>
        obtain ⟨rfl, _⟩ := List.cons.inj h
        exact ⟨[], rest, rfl, rfl⟩
      | cons first found =>
        obtain ⟨rfl, hrest⟩ := List.cons.inj h
        obtain ⟨before, after, rfl, hbefore⟩ := ih hrest
        exact ⟨.reference r :: before, after, rfl, by rw [occurrences, hbefore]⟩

section Body

variable {t : SymbolTable} {known : List String} {body : List Char}

theorem undeclared_iff_unresolved (ht : t.Covers known) {r : Reference}
    (hr : IsName r.identifier) :
    (isChecked known r && !t.contains r.label) = true ↔ Unresolved known r := by
  rw [Bool.and_eq_true, isChecked_eq_true_iff, Bool.not_eq_true', ← Bool.not_eq_true,
    ht.contains_label hr]
  rfl

/-- What the check of a body finds is the first unresolved reference, with the newlines of the body
in front of it. -/
theorem firstUnresolved_of_firstUndeclared? (ht : t.Covers known) {o : Occurrence}
    (h : firstUndeclared? t known (references (String.ofList body)) = some o) :
    ∃ ahead, FirstUnresolved known body ahead o.reference ∧ o.lineOffset = newlines ahead := by
  have hnames : ∀ r, .reference r ∈ pieces body → IsName r.identifier :=
    fun r hr => isName_of_mem_pieces hr
  rw [firstUndeclared?, references, String.toList_ofList] at h
  obtain ⟨hfound, found, later, hoccurrences, hbefore⟩ := List.find?_eq_some_iff_append.1 h
  obtain ⟨ps, qs, hpieces, hps⟩ := pieces_of_occurrences hoccurrences
  rw [hpieces] at hnames hoccurrences
  refine ⟨ps.flatMap Piece.written, ⟨ps, qs, hpieces, rfl, ?_, fun r hr hunresolved => ?_⟩, ?_⟩
  · exact (undeclared_iff_unresolved ht (hnames _ (by simp))).1 hfound
  · have hoccurs : ∃ o' ∈ occurrences 0 ps, o'.reference = r := mem_occurrences_iff.2 hr
    obtain ⟨o', ho', rfl⟩ := hoccurs
    rw [hps] at ho'
    have hresolved := hbefore o' ho'
    rw [(undeclared_iff_unresolved ht (hnames _ (by simp [hr]))).2 hunresolved] at hresolved
    cases hresolved
  · rw [occurrences_append _ fun r hr => hnames r (by simp [hr]), hps] at hoccurrences
    have hline := (List.cons.inj (List.append_cancel_left hoccurrences)).1
    rw [← hline, Nat.zero_add]

theorem not_inScope_of_unresolved (h : ∃ r, .reference r ∈ pieces body ∧ Unresolved known r) :
    ¬ InScope known known (String.ofList body) := by
  obtain ⟨r, hr, hrefers, hname⟩ := h
  intro hscope
  rw [← String.toList_ofList (l := body)] at hr
  obtain ⟨o, ho, rfl⟩ := mem_references_iff.2 hr
  exact hname (hscope o ho hrefers)

theorem checkText_of_unresolved (ht : t.Covers known) (lineOf : Occurrence → Nat)
    (h : ∃ r, .reference r ∈ pieces body ∧ Unresolved known r) :
    ∃ o ahead, FirstUnresolved known body ahead o.reference ∧ o.lineOffset = newlines ahead ∧
      checkText t known lineOf (String.ofList body) =
        .error ⟨lineOf o, .symbol (.undeclared o.reference.name)⟩ := by
  have hfault := mt (checkText_eq_ok_iff ht known lineOf (String.ofList body)).1
    (not_inScope_of_unresolved h)
  rw [checkText] at hfault ⊢
  split at hfault
  · exact absurd rfl hfault
  · rename_i o hfound
    obtain ⟨ahead, hfirst, hline⟩ := firstUnresolved_of_firstUndeclared? ht hfound
    exact ⟨o, ahead, hfirst, hline, rfl⟩

end Body

/-! ## Documents -/

/-- A text whose header compiles: the text is cut, the header is read, and its variables are
declared one after the other. -/
structure HeaderCompiles (text : String) (s : Sections) (h : Header) : Prop where
  cut : Sections.ofText? text.toList = some s
  read : headerOf s = .ok h
  declared : ∃ t, declare (knownNames h) .builtIns h.declarations = .ok t

/-- A body with an unresolved reference is refused for the first of them, on the line of the
document where it stands. -/
theorem compile_undeclared {text : String} {s : Sections} {h : Header}
    (hheader : HeaderCompiles text s h)
    (hbody : ∃ r, .reference r ∈ pieces s.body ∧ Unresolved (knownNames h) r) :
    ∃ front ahead r after, text.toList = front ++ s.body ∧
      s.body = ahead ++ r.written ++ after ∧
      FirstUnresolved (knownNames h) s.body ahead r ∧
      compile text =
        .error ⟨1 + newlines (front ++ ahead), .symbol (.undeclared (canonicalName r.label))⟩ := by
  obtain ⟨hcut, hread, t, hdeclared⟩ := hheader
  have ht := covers_of_declare hdeclared
  obtain ⟨o, ahead, hfirst, hline, hfault⟩ :=
    checkText_of_unresolved ht (fun o => s.bodyLine + o.lineOffset) hbody
  obtain ⟨after, hafter⟩ := hfirst.body_eq
  have hne : s.body ≠ [] := by
    rw [hafter]
    simp [Reference.written_ne_nil]
  obtain ⟨front, hfront, hbodyLine⟩ := Sections.bodyLine_eq hcut hne
  have hposition : s.bodyLine + o.lineOffset = 1 + newlines (front ++ ahead) := by
    rw [hbodyLine, hline, newlines_append, Nat.add_assoc]
  refine ⟨front, ahead, o.reference, after, hfront, hafter, hfirst, ?_⟩
  rw [Reference.canonicalName_label hfirst.isName, ← hposition, compile, hcut]
  dsimp only
  rw [hread]
  simp only [ofHeader]
  rw [hdeclared]
  dsimp only
  rw [hfault]

/-- A header with a variable, and a body that uses it, a word in braces that names nothing, and a
name that is declared nowhere. -/
def letterText : String :=
  "---\r\nvariables:\r\n  name: Ann\r\n--- \r\n" ++
    "Dear $name,\r\n\x7bit\x7d and \x7bcontext.missing\x7d\r\n"

def letterSections : Sections :=
  ⟨some "variables:\r\n  name: Ann\r\n".toList,
    "Dear $name,\r\n\x7bit\x7d and \x7bcontext.missing\x7d\r\n".toList, 5⟩

theorem compile_undeclared_letter :
    ∃ h, HeaderCompiles letterText letterSections h ∧
      (∃ r, .reference r ∈ pieces letterSections.body ∧ Unresolved (knownNames h) r) ∧
      ∃ front ahead r after, letterText.toList = front ++ letterSections.body ∧
        letterSections.body = ahead ++ r.written ++ after ∧
        FirstUnresolved (knownNames h) letterSections.body ahead r ∧
        compile letterText = .error
          ⟨1 + newlines (front ++ ahead), .symbol (.undeclared (canonicalName r.label))⟩ := by
  have hcut : Sections.ofText? letterText.toList = some letterSections := by decide
  have hmap : (headerOf letterSections).toOption.map (fun h => (knownNames h,
      (declare (knownNames h) .builtIns h.declarations).toOption.isSome)) =
        some (SymbolTable.builtInNames ++ ["name"], true) := by decide +kernel
  cases hread : headerOf letterSections with
  | error e => rw [hread] at hmap; cases hmap
  | ok h =>
    rw [hread] at hmap
    obtain ⟨hknown, hdeclared⟩ := Prod.mk.inj (Option.some.inj hmap)
    have hheader : HeaderCompiles letterText letterSections h := by
      refine ⟨hcut, hread, ?_⟩
      cases hdeclare : declare (knownNames h) .builtIns h.declarations with
      | error e => rw [hdeclare] at hdeclared; cases hdeclared
      | ok t => exact ⟨t, rfl⟩
    have hbody : ∃ r, .reference r ∈ pieces letterSections.body ∧ Unresolved (knownNames h) r := by
      refine ⟨⟨true, true, "missing".toList⟩, by decide, ?_⟩
      rw [hknown]
      decide
    exact ⟨h, hheader, hbody, compile_undeclared hheader hbody⟩

end Document

end PromptScript
