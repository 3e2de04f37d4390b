import PromptScript.Document.Basic
import PromptScript.Proofs.Delimiters
import PromptScript.Proofs.HeaderLines
import PromptScript.Proofs.References

/-!
# Proofs.FaultLines

Where the faults of a document are reported. Most of them have the line of the document that is at
fault: of a delimiter, of the key that a value belongs to, of a reference in the body. A fault
inside an expression has a line that is counted within the expression, from the line of its key on.
What is counted there are the newlines of the text that YAML makes of the value, and these need not
be lines of the document: a text in quotes may write many of them on one line. So this line can lie
past the end (`fault_past_end`), and it is the only kind of fault for which it can
(`compile_fault_line`).
-/

namespace PromptScript

/-! ## Sections -/

namespace Sections

/-- The sections of a text stand on its lines: the header after the delimiter on the first line and
before a second one, the body after that. -/
theorem lines_of_ofText? {text : List Char} {s : Sections} (h : ofText? text = some s) :
    (∀ header, s.header = some header → firstHeaderLine + lineCount header ≤ lineCount text) ∧
      1 ≤ s.bodyLine ∧ s.bodyLine + lineCount s.body ≤ lineCount text + 1 := by
  have hwhole : (⟨none, text, 1⟩ : Sections) = s →
      (∀ header, s.header = some header → firstHeaderLine + lineCount header ≤ lineCount text) ∧
        1 ≤ s.bodyLine ∧ s.bodyLine + lineCount s.body ≤ lineCount text + 1 := by
    rintro rfl
    exact ⟨nofun, Nat.le_refl 1, by dsimp only; omega⟩
  unfold ofText? at h
  split at h
  · exact hwhole (Option.some.inj h)
  · rename_i first rest hlines
    split at h
    · obtain ⟨⟨inside, after⟩, huntil, rfl⟩ := Option.map_eq_some_iff.1 h
      obtain ⟨delimiter, rfl, _⟩ := untilDelimiter?_eq_some_iff.1 huntil
      have hline : ∀ line ∈ first :: (inside ++ delimiter :: after), lineCount line ≤ 1 :=
        fun line hmem => lineCount_of_mem (hlines ▸ hmem)
      have hinside : lineCount inside.flatten ≤ inside.length :=
        lineCount_flatten_le fun line hmem => hline line (by simp [hmem])
      have hafter : lineCount after.flatten ≤ after.length :=
        lineCount_flatten_le fun line hmem => hline line (by simp [hmem])
      have hcount : lineCount text = inside.length + after.length + 2 := by
        rw [lineCount, hlines]
        simp
        omega
      refine ⟨?_, by simp [firstHeaderLine], by dsimp only [firstHeaderLine]; omega⟩
      intro header hheader
      cases hheader
      rw [firstHeaderLine]
      omega
    · exact hwhole (Option.some.inj h)

end Sections

/-! ## References -/

namespace Document

variable {t t' : SymbolTable} {known : List String}

/-- Before a reference there are fewer newlines than the text has lines. -/
theorem lineOffset_lt {line : Nat} {ps : List Piece} {o : Occurrence}
    (h : o ∈ occurrences line ps) : o.lineOffset < line + lineCount (ps.flatMap Piece.written) := by
  induction ps generalizing line with
  | nil => cases h
  | cons p rest ih =>
    cases p with
    | plain c =>
      have hrest := ih h
      rw [List.flatMap_cons, Piece.written, List.singleton_append, lineCount_cons]
      split at hrest <;> rename_i hc
      · rw [if_pos hc]
        omega
      · rw [if_neg hc]
        omega
    | reference r =>
      rw [List.flatMap_cons, Piece.written]
      rcases List.mem_cons.1 h with rfl | hmem
      · have := lineCount_pos (List.append_ne_nil_of_left_ne_nil (Reference.written_ne_nil r)
          (rest.flatMap Piece.written))
        dsimp only
        omega
      · -- the lines of the reference itself come on top
        have hrest := ih hmem
        have := lineCount_le_append r.written (rest.flatMap Piece.written)
        omega

theorem line_of_checkText {lineOf : Occurrence → Nat} {text : String} {e : AtLine DocumentFault}
    (h : checkText t known lineOf text = .error e) :
    ∃ o ∈ references text, e.line = lineOf o := by
  unfold checkText at h
  split at h
  · cases h
  · rename_i o hfound
    cases h
    exact ⟨o, List.mem_of_find?_eq_some hfound, rfl⟩

theorem line_of_checkTexts {line : Nat} {texts : List String} {e : AtLine DocumentFault}
    (h : checkTexts t known line texts = .error e) : e.line = line := by
  induction texts with
  | nil => cases h
  | cons text rest ih =>
    rw [checkTexts] at h
    split at h
    · rename_i hfault
      cases h
      obtain ⟨_, _, hline⟩ := line_of_checkText hfault
      exact hline
    · exact ih h

/-- A fault of the declarations is on the line of one of them. -/
theorem line_of_declare {ds : List Declaration} {e : AtLine DocumentFault}
    (h : declare known t ds = .error e) : ∃ d ∈ ds, e.line = d.line := by
  induction ds generalizing t with
  | nil => cases h
  | cons d rest ih =>
    rw [declare] at h
    split at h
    · rename_i hfault
      cases h
      exact ⟨d, List.mem_cons_self, line_of_checkTexts hfault⟩
    · split at h
      · cases h
        exact ⟨d, List.mem_cons_self, rfl⟩
      · obtain ⟨d', hd', hline⟩ := ih h
        exact ⟨d', List.mem_cons_of_mem d hd', hline⟩

/-! ## Documents -/

/-- A line of a document, counted from 1. -/
def OnLine (text : String) (line : Nat) : Prop := 1 ≤ line ∧ line ≤ lineCount text.toList

/-- The header that a document begins with. -/
def headerText? (text : String) : Option (List Char) :=
  (Sections.ofText? text.toList).bind Sections.header

/-- A fault inside an expression of the header. The expression is read from a line of the header on,
and the newlines of its text, as YAML gives it, count as lines. -/
def InExpression (text : String) (e : AtLine DocumentFault) : Prop :=
  ∃ header ∈ headerText? text, ∃ s ∈ Header.valueTexts header, ∃ line f,
    Between Sections.firstHeaderLine (lineCount header) line ∧
      e.fault = .header (.expression f) ∧
        Expression.ofText (trimmed s) line = .error ⟨e.line, f⟩ ∧
          e.line ≤ line + newlines (trimmed s).toList

section Cut

variable {text : String} {s : Sections}

theorem onLine_of_header (hcut : Sections.ofText? text.toList = some s) {header : List Char}
    (hheader : s.header = some header) {line : Nat}
    (hline : Between Sections.firstHeaderLine (lineCount header) line) : OnLine text line := by
  have hend := (Sections.lines_of_ofText? hcut).1 header hheader
  exact ⟨Nat.le_trans (by decide) hline.1, Nat.le_trans hline.2 hend⟩

theorem onLine_of_declared (hcut : Sections.ofText? text.toList = some s) {h : Header}
    (hok : headerOf s = .ok h) {d : Declaration} (hd : d ∈ h.declarations) :
    OnLine text d.line := by
  unfold headerOf at hok
  split at hok
  · cases hok
    cases hd
  · rename_i header hheader
    have hline := Header.declaredInside_of_ofText hok d hd
    rw [Header.length_linesOf] at hline
    exact onLine_of_header hcut hheader hline

theorem line_of_headerOf (hcut : Sections.ofText? text.toList = some s) {e : AtLine HeaderFault}
    (hyaml : ∀ header ∈ headerText? text, Header.YamlFaultsInside header)
    (h : headerOf s = .error e) : OnLine text e.line ∨
      1 ≤ e.line ∧ InExpression text (e.map .header) := by
  unfold headerOf at h
  split at h
  · cases h
  · rename_i header hheader
    have htext : headerText? text = some header := by
      rw [headerText?, hcut]
      exact hheader
    obtain ⟨line, hline, hmet⟩ := Header.metInside_of_ofText (hyaml header htext) h
    rw [Header.length_linesOf] at hline
    have hkey := onLine_of_header hcut hheader hline
    cases hmet with
    | key f => exact .inl hkey
    | expression hs hread =>
      -- the lines are counted on from the key, and nothing keeps them inside the document
      have hbetween := Expression.between_of_fault hread
      exact .inr ⟨Nat.le_trans hkey.1 hbetween.1,
        header, htext, _, hs, line, _, hline, rfl, hread, hbetween.2⟩

/-- References are on the lines of the declarations and of the body. -/
theorem onLine_of_ofHeader (hcut : Sections.ofText? text.toList = some s) {h : Header}
    (hok : headerOf s = .ok h) {e : AtLine DocumentFault} (hfault : ofHeader h s = .error e) :
    OnLine text e.line := by
  simp only [ofHeader] at hfault
  split at hfault
  · rename_i hdeclare
    cases hfault
    obtain ⟨d, hd, hline⟩ := line_of_declare hdeclare
    rw [hline]
    exact onLine_of_declared hcut hok hd
  · split at hfault
    · rename_i hbody
      cases hfault
      obtain ⟨o, ho, hline⟩ := line_of_checkText hbody
      obtain ⟨_, hfirst, hlast⟩ := Sections.lines_of_ofText? hcut
      have hoffset := lineOffset_lt ho
      rw [flatMap_written_pieces, String.toList_ofList] at hoffset
      exact ⟨by omega, by omega⟩
    · cases hfault

end Cut

/-- Every fault is on line 1 or further down. It is past the last line of the document only if it is
inside an expression of the header whose newlines, as YAML gives its text, go on past the end. -/
theorem compile_fault_line {text : String} {e : AtLine DocumentFault}
    (hyaml : ∀ header ∈ headerText? text, Header.YamlFaultsInside header)
    (h : compile text = .error e) :
    1 ≤ e.line ∧ (lineCount text.toList < e.line → InExpression text e) := by
  have hin : OnLine text e.line →
      1 ≤ e.line ∧ (lineCount text.toList < e.line → InExpression text e) :=
    fun hline => ⟨hline.1, fun hpast => absurd hline.2 (Nat.not_le.2 hpast)⟩
  unfold compile at h
  split at h
  · rename_i hcut
    cases h
    have hne : text.toList ≠ [] := by
      intro hnil
      rw [hnil] at hcut
      cases hcut
    exact hin ⟨Nat.le_refl 1, lineCount_pos hne⟩
  · rename_i s hcut
    split at h
    · rename_i hheader
      cases h
      rcases line_of_headerOf hcut hyaml hheader with hline | ⟨hfirst, hexpression⟩
      · exact hin hline
      · exact ⟨hfirst, fun _ => hexpression⟩
    · rename_i header hheader
      exact hin (onLine_of_ofHeader hcut hheader h)

/-- The fault of a text that does not compile. -/
def faultOf? (text : String) : Option (AtLine DocumentFault) :=
  match compile text with
  | .ok _ => none
  | .error e => some e

theorem faultOf?_eq_some_iff {text : String} {e : AtLine DocumentFault} :
    faultOf? text = some e ↔ compile text = .error e := by
  rw [faultOf?]
  cases compile text <;> simp

/-- A list that is still open where the header ends. -/
def openText : String := "---\na: [\n---\n"

/-- YAML finds the fault at the end of the header, which is on the line of the second delimiter. -/
theorem compile_fault_line_openText :
    (∀ header ∈ headerText? openText, Header.YamlFaultsInside header) ∧
      compile openText = .error ⟨3, .header .invalid⟩ ∧
      1 ≤ 3 ∧ (lineCount openText.toList < 3 → InExpression openText ⟨3, .header .invalid⟩) := by
  have hyaml : ∀ header ∈ headerText? openText, Header.YamlFaultsInside header := by
    decide +kernel
  have hfault : compile openText = .error ⟨3, .header .invalid⟩ :=
    faultOf?_eq_some_iff.1 (by decide +kernel)
  exact ⟨hyaml, hfault, compile_fault_line hyaml hfault⟩

/-- An expression on one line, with four newlines that are written as escapes. -/
def escapedText : String := "---\nv: \"/x/\\n\\n\\n\\n\x7b nope \x7d\"\n---\n"

/-- A fault on line 6 of a document of three lines. -/
theorem fault_past_end :
    (∀ header ∈ headerText? escapedText, Header.YamlFaultsInside header) ∧
      compile escapedText = .error ⟨6, .header (.expression (.unknownVerb "nope"))⟩ ∧
      lineCount escapedText.toList = 3 :=
  ⟨by decide +kernel, faultOf?_eq_some_iff.1 (by decide +kernel), by decide⟩

end Document

end PromptScript
