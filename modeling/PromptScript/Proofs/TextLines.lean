import PromptScript.Text.Lines

/-!
# Proofs.TextLines

Newlines and lines. A text falls into lines in one way only (`linesWithEnds_flatten`), so that a
part of its lines are the lines of that part of the text.
-/

namespace PromptScript

/-! ## Newlines -/

@[simp] theorem newlines_nil : newlines [] = 0 := rfl

@[simp] theorem newlines_cons (c : Char) (cs : List Char) :
    newlines (c :: cs) = newlines cs + if c = '\n' then 1 else 0 := by
  rw [newlines, List.count_cons]
  simp [newlines]

@[simp] theorem newlines_append (a b : List Char) :
    newlines (a ++ b) = newlines a + newlines b := List.count_append

theorem newlines_eq_zero_iff {cs : List Char} : newlines cs = 0 ↔ '\n' ∉ cs := List.count_eq_zero

/-! ## Lines -/

/-- Lines in a row, as they stand in a text: each ends with its newline, and only the last may be
without one, if it is not empty. -/
inductive Lines : List (List Char) → Prop where
  | nil : Lines []
  | last {line : List Char} : line ≠ [] → '\n' ∉ line → Lines [line]
  | cons {line : List Char} {rest : List (List Char)} :
      '\n' ∉ line → Lines rest → Lines ((line ++ ['\n']) :: rest)

theorem lines_linesWithEnds (cs : List Char) : Lines (linesWithEnds cs) := by
  induction cs with
  | nil => exact .nil
  | cons c rest ih =>
    rw [linesWithEnds]
    split
    · rename_i hc
      subst hc
      exact .cons List.not_mem_nil ih
    · rename_i hc
      cases hlines : linesWithEnds rest with
      | nil => exact .last (by simp) (by simpa using Ne.symm hc)
      | cons line lines =>
        rw [hlines] at ih
        cases ih with
        | last _ hline => exact .last (by simp) (by simp [Ne.symm hc, hline])
        | @cons before _ hline hrest =>
          have hfirst : '\n' ∉ c :: before := by simp [Ne.symm hc, hline]
          exact .cons hfirst hrest

theorem linesWithEnds_append_cons {line : List Char} (h : '\n' ∉ line) (rest : List Char) :
    linesWithEnds (line ++ '\n' :: rest) = (line ++ ['\n']) :: linesWithEnds rest := by
  induction line with
  | nil => rw [List.nil_append, linesWithEnds, if_pos rfl, List.nil_append]
  | cons c line ih =>
    rw [List.mem_cons, not_or] at h
    rw [List.cons_append, linesWithEnds, if_neg (Ne.symm h.1), ih h.2]
    rfl

theorem linesWithEnds_of_not_mem {line : List Char} (hne : line ≠ []) (h : '\n' ∉ line) :
    linesWithEnds line = [line] := by
  induction line with
  | nil => exact absurd rfl hne
  | cons c line ih =>
    rw [List.mem_cons, not_or] at h
    rw [linesWithEnds, if_neg (Ne.symm h.1)]
    cases line with
    | nil => rfl
    | cons d line => rw [ih (by simp) h.2]

/-- A text falls into lines in one way only. -/
theorem linesWithEnds_flatten {lines : List (List Char)} (h : Lines lines) :
    linesWithEnds lines.flatten = lines := by
  induction h with
  | nil => rfl
  | last hne hline => rw [List.flatten_singleton, linesWithEnds_of_not_mem hne hline]
  | cons hline _ ih =>
    rw [List.flatten_cons, List.append_assoc, List.singleton_append,
      linesWithEnds_append_cons hline, ih]

namespace Lines

variable {a b : List (List Char)} {line : List Char}

/-- The first of several lines: it has its newline, or it is the only one. -/
theorem head_cases (h : Lines (line :: a)) :
    (∃ inside, line = inside ++ ['\n'] ∧ '\n' ∉ inside ∧ Lines a) ∨
      a = [] ∧ line ≠ [] ∧ '\n' ∉ line := by
  cases h with
  | last hne hline => exact .inr ⟨rfl, hne, hline⟩
  | cons hline hrest => exact .inl ⟨_, rfl, hline, hrest⟩

theorem left (h : Lines (a ++ b)) : Lines a := by
  induction a with
  | nil => exact .nil
  | cons line a ih =>
    rcases h.head_cases with ⟨inside, rfl, hline, hrest⟩ | ⟨hnil, hne, hline⟩
    · exact .cons hline (ih hrest)
    · obtain ⟨rfl, -⟩ := List.append_eq_nil_iff.1 hnil
      exact .last hne hline

theorem right (h : Lines (a ++ b)) : Lines b := by
  induction a with
  | nil => exact h
  | cons line a ih =>
    rcases h.head_cases with ⟨_, _, _, hrest⟩ | ⟨hnil, _⟩
    · exact ih hrest
    · obtain ⟨-, rfl⟩ := List.append_eq_nil_iff.1 hnil
      exact .nil

/-- Before another line each line has its newline. -/
theorem newlines_flatten (h : Lines (a ++ b)) (hb : b ≠ []) : newlines a.flatten = a.length := by
  induction a with
  | nil => rfl
  | cons line a ih =>
    rcases h.head_cases with ⟨inside, rfl, hline, hrest⟩ | ⟨hnil, _⟩
    · simp [ih hrest, newlines_eq_zero_iff.2 hline]
    · exact absurd (List.append_eq_nil_iff.1 hnil).2 hb

end Lines

end PromptScript
