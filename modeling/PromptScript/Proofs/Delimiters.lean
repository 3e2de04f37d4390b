import PromptScript.Document.Sections
import PromptScript.Proofs.TextLines

/-!
# Proofs.Delimiters

Where a document is cut. A first line of three dashes opens the header, the next such line closes
it, and the header, the body and these two lines joined together are the text
(`cut_at_delimiters`). The line on which the body begins counts the newlines in front of it
(`bodyLine_eq`).
-/

namespace PromptScript

namespace Sections

/-! ## Delimiter lines -/

/-- Three dashes, and nothing but blanks after them. -/
def Delimits (line : List Char) : Prop :=
  ∃ blanks, line = ['-', '-', '-'] ++ blanks ∧ ∀ c ∈ blanks, isBlank c = true

theorem isDelimiter_eq_true_iff {line : List Char} : isDelimiter line = true ↔ Delimits line := by
  rw [isDelimiter, beq_iff_eq]
  constructor
  · intro h
    obtain ⟨blanks, hline, hblanks⟩ := trimEnd_append_blanks line
    exact ⟨blanks, by rw [← h, ← hline], hblanks⟩
  · rintro ⟨blanks, rfl, hblanks⟩
    rw [trimEnd_append_of_blanks _ hblanks]
    decide

theorem isDelimiter_eq_false_iff {line : List Char} :
    isDelimiter line = false ↔ ¬ Delimits line := by
  rw [← isDelimiter_eq_true_iff, Bool.not_eq_true]

instance (line : List Char) : Decidable (Delimits line) :=
  decidable_of_iff _ isDelimiter_eq_true_iff

theorem untilDelimiter?_eq_some_iff {lines before after : List (List Char)} :
    untilDelimiter? lines = some (before, after) ↔
      ∃ closing, lines = before ++ closing :: after ∧ Delimits closing ∧
        ∀ line ∈ before, ¬ Delimits line := by
  induction lines generalizing before with
  | nil => simp [untilDelimiter?]
  | cons line rest ih =>
    rw [untilDelimiter?]
    cases hline : isDelimiter line with
    | true =>
      have hdelimits := isDelimiter_eq_true_iff.1 hline
      rw [if_pos rfl]
      constructor
      · intro h
        cases h
        exact ⟨line, rfl, hdelimits, nofun⟩
      · rintro ⟨closing, hlines, hclosing, hbefore⟩
        cases before with
        | nil => cases hlines; rfl
        | cons first before =>
          cases hlines
          exact absurd hdelimits (hbefore line List.mem_cons_self)
    | false =>
      have hdelimits := isDelimiter_eq_false_iff.1 hline
      rw [if_neg (by simp), Option.map_eq_some_iff]
      constructor
      · rintro ⟨⟨inner, _⟩, hinner, heq⟩
        cases heq
        obtain ⟨closing, rfl, hclosing, hbefore⟩ := ih.1 hinner
        exact ⟨closing, rfl, hclosing, List.forall_mem_cons.2 ⟨hdelimits, hbefore⟩⟩
      · rintro ⟨closing, hlines, hclosing, hbefore⟩
        cases before with
        | nil => cases hlines; exact absurd hclosing hdelimits
        | cons first before =>
          cases hlines
          obtain ⟨_, hbefore⟩ := List.forall_mem_cons.1 hbefore
          exact ⟨(before, after), ih.2 ⟨closing, rfl, hclosing, hbefore⟩, rfl⟩

theorem untilDelimiter?_eq_none_iff {lines : List (List Char)} :
    untilDelimiter? lines = none ↔ ∀ line ∈ lines, ¬ Delimits line := by
  induction lines with
  | nil => simp [untilDelimiter?]
  | cons line rest ih =>
    rw [untilDelimiter?, List.forall_mem_cons, ← ih, ← isDelimiter_eq_false_iff]
    cases isDelimiter line <;> simp

/-! ## Cutting -/

/-- The first line of a text; an empty text has an empty one. -/
def firstLine (text : List Char) : List Char := (linesWithEnds text).headD []

/-- The lines after the first. -/
def laterLines (text : List Char) : List (List Char) := (linesWithEnds text).tail

theorem ofText?_eq (text : List Char) :
    ofText? text =
      if isDelimiter (firstLine text) then
        (untilDelimiter? (laterLines text)).map fun (header, body) =>
          ⟨some header.flatten, body.flatten, firstHeaderLine + header.length + 1⟩
      else some ⟨none, text, 1⟩ := by
  rw [ofText?, firstLine, laterLines]
  cases linesWithEnds text with
  | nil => rfl
  | cons first rest => rfl

/-- A document with a header: its first line, the header, the line that closes it, and the body. -/
structure CutAt (text opening header closing body : List Char) (bodyLine : Nat) : Prop where
  whole : text = opening ++ header ++ closing ++ body
  lines : linesWithEnds text = opening :: (linesWithEnds header ++ closing :: linesWithEnds body)
  opens : Delimits opening
  closes : Delimits closing
  inside : ∀ line ∈ linesWithEnds header, ¬ Delimits line
  bodyLine : body ≠ [] → bodyLine = 1 + newlines (opening ++ header ++ closing)

/-- Lines around a delimiter are the lines of a document that is cut there. -/
theorem cutAt_of_lines {text opening closing : List Char} {inside after : List (List Char)}
    (hlines : linesWithEnds text = opening :: (inside ++ closing :: after))
    (hopens : Delimits opening) (hcloses : Delimits closing)
    (hinside : ∀ line ∈ inside, ¬ Delimits line) :
    CutAt text opening inside.flatten closing after.flatten
      (firstHeaderLine + inside.length + 1) := by
  have hall : Lines (([opening] ++ inside ++ [closing]) ++ after) := by
    simpa [← hlines] using lines_linesWithEnds text
  have hheader : linesWithEnds inside.flatten = inside :=
    linesWithEnds_flatten hall.left.left.right
  have hbody : linesWithEnds after.flatten = after := linesWithEnds_flatten hall.right
  refine ⟨?_, ?_, hopens, hcloses, ?_, fun hne => ?_⟩
  · rw [← flatten_linesWithEnds text, hlines]
    simp
  · rw [hheader, hbody, hlines]
  · rwa [hheader]
  · -- a line stands after these, so that each of them has its newline
    have hafter : after ≠ [] := by
      rintro rfl
      exact hne rfl
    have hcount := hall.newlines_flatten hafter
    simp only [List.flatten_append, List.flatten_singleton] at hcount
    rw [hcount, firstHeaderLine]
    simp
    omega

theorem ofText?_eq_none_iff {text : List Char} :
    ofText? text = none ↔
      Delimits (firstLine text) ∧ ∀ line ∈ laterLines text, ¬ Delimits line := by
  rw [ofText?_eq, ← isDelimiter_eq_true_iff, ← untilDelimiter?_eq_none_iff]
  cases isDelimiter (firstLine text) <;> simp

theorem ofText?_eq_whole_iff {text : List Char} :
    ofText? text = some ⟨none, text, 1⟩ ↔ ¬ Delimits (firstLine text) := by
  rw [ofText?_eq, ← isDelimiter_eq_false_iff]
  cases isDelimiter (firstLine text) <;> simp

/-- A document is all body, or it is cut at the two delimiters of its header. -/
theorem sections_cases {text : List Char} {s : Sections} (h : ofText? text = some s) :
    s = ⟨none, text, 1⟩ ∨ ∃ opening header closing, s.header = some header ∧
      CutAt text opening header closing s.body s.bodyLine := by
  rw [ofText?_eq] at h
  split at h
  · rename_i hopens
    obtain ⟨⟨inside, after⟩, huntil, rfl⟩ := Option.map_eq_some_iff.1 h
    obtain ⟨closing, hlater, hcloses, hinside⟩ := untilDelimiter?_eq_some_iff.1 huntil
    have hopening := isDelimiter_eq_true_iff.1 hopens
    have hlines : linesWithEnds text = firstLine text :: (inside ++ closing :: after) := by
      rw [← hlater, firstLine, laterLines]
      cases hnil : linesWithEnds text with
      | nil =>
        rw [laterLines, hnil] at hlater
        simp at hlater
      | cons first rest => rfl
    exact .inr ⟨_, _, closing, rfl, cutAt_of_lines hlines hopening hcloses hinside⟩
  · exact .inl (Option.some.inj h).symm

/-- The body comes last, and the line on which it begins counts the newlines in front of it. -/
theorem bodyLine_eq {text : List Char} {s : Sections} (h : ofText? text = some s)
    (hne : s.body ≠ []) : ∃ front, text = front ++ s.body ∧ s.bodyLine = 1 + newlines front := by
  rcases sections_cases h with rfl | ⟨opening, header, closing, _, hcut⟩
  · exact ⟨[], rfl, rfl⟩
  · exact ⟨opening ++ header ++ closing, hcut.whole, hcut.bodyLine hne⟩

/-- A text is all body unless its first line is a delimiter. If it is, the next delimiter ends the
header; without one there is nothing to return. -/
theorem cut_at_delimiters (text : List Char) :
    (ofText? text = some ⟨none, text, 1⟩ ↔ ¬ Delimits (firstLine text)) ∧
    (ofText? text = none ↔
      Delimits (firstLine text) ∧ ∀ line ∈ laterLines text, ¬ Delimits line) ∧
    (Delimits (firstLine text) → (∃ line ∈ laterLines text, Delimits line) →
      ∃ s opening header closing, ofText? text = some s ∧
        s.header = some header ∧ s.headerLine = 2 ∧
        CutAt text opening header closing s.body s.bodyLine) := by
  refine ⟨ofText?_eq_whole_iff, ofText?_eq_none_iff, fun hopens ⟨line, hline, hcloses⟩ => ?_⟩
  cases hcut : ofText? text with
  | none => exact absurd hcloses ((ofText?_eq_none_iff.1 hcut).2 line hline)
  | some s =>
    rcases sections_cases hcut with rfl | ⟨opening, header, closing, hheader, hparts⟩
    · exact absurd hopens (ofText?_eq_whole_iff.1 hcut)
    · refine ⟨s, opening, header, closing, rfl, hheader, ?_, hparts⟩
      rw [headerLine, hheader]
      rfl

/-- A document with blanks after its delimiters, and a third line of dashes in its body. -/
def dashedText : List Char := "---\r\nname: x\n---  \nbody\n---\n".toList

theorem cut_at_delimiters_dashed :
    Delimits (firstLine dashedText) ∧ (∃ line ∈ laterLines dashedText, Delimits line) ∧
      ∃ s opening header closing, ofText? dashedText = some s ∧
        s.header = some header ∧ s.headerLine = 2 ∧
        CutAt dashedText opening header closing s.body s.bodyLine := by
  have hopens : Delimits (firstLine dashedText) := by decide
  have hcloses : ∃ line ∈ laterLines dashedText, Delimits line := by decide
  exact ⟨hopens, hcloses, (cut_at_delimiters dashedText).2.2 hopens hcloses⟩

end Sections

end PromptScript
