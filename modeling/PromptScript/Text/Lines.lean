/-!
# Text.Lines

Lines of a text. Only the newline character ends a line here.
-/

namespace PromptScript

/-- The lines of a text, each with the newline that ends it. -/
def linesWithEnds : List Char → List (List Char)
  | [] => []
  | c :: rest =>
    if c = '\n' then [c] :: linesWithEnds rest
    else
      match linesWithEnds rest with
      | [] => [[c]]
      | line :: lines => (c :: line) :: lines

/-- A line without the newline that ends it, and without a carriage return before that. -/
def withoutLineEnd (line : List Char) : List Char :=
  match line.reverse with
  | '\n' :: '\r' :: rest => rest.reverse
  | '\n' :: rest => rest.reverse
  | _ => line

def newlines (cs : List Char) : Nat := cs.count '\n'

/-- The lines of a text joined together are the text. -/
theorem flatten_linesWithEnds (cs : List Char) : (linesWithEnds cs).flatten = cs := by
  induction cs with
  | nil => rfl
  | cons c rest ih =>
    rw [linesWithEnds]
    split
    · simp [ih]
    · split
      · rename_i h
        rw [h] at ih
        simp at ih
        simp [← ih]
      · rename_i h
        rw [h] at ih
        simp at ih
        simp [ih]

end PromptScript
