/-!
# Text.Blank

White space: the characters that separate words, and the trimming of text at its ends. The set
holds the blanks and line breaks of ASCII and the space separators of the character standard.
-/

namespace PromptScript

def isBlank (c : Char) : Bool :=
  let n := c.toNat
  (9 ≤ n && n ≤ 13) || n == 32 || n == 0x85 || n == 0xA0 || n == 0x1680 ||
    (0x2000 ≤ n && n ≤ 0x200A) || n == 0x2028 || n == 0x2029 || n == 0x202F || n == 0x205F ||
    n == 0x3000

/-- The characters from the first that is not blank on. -/
def trimStart (cs : List Char) : List Char := cs.dropWhile isBlank

/-- The characters up to the last that is not blank. -/
def trimEnd : List Char → List Char
  | [] => []
  | c :: rest =>
    match trimEnd rest with
    | [] => if isBlank c then [] else [c]
    | kept => c :: kept

/-- The characters without the blanks at both ends. -/
def trim (cs : List Char) : List Char := trimEnd (trimStart cs)

/-- Trimming the end removes blanks and nothing else. -/
theorem trimEnd_append_blanks (cs : List Char) :
    ∃ blanks, cs = trimEnd cs ++ blanks ∧ ∀ c ∈ blanks, isBlank c = true := by
  induction cs with
  | nil => exact ⟨[], rfl, fun _ h => nomatch h⟩
  | cons c rest ih =>
    obtain ⟨blanks, hrest, hblanks⟩ := ih
    rw [trimEnd]
    split
    · rename_i hnil
      rw [hnil, List.nil_append] at hrest
      subst hrest
      by_cases hc : isBlank c = true
      · exact ⟨c :: rest, by simp [hc], by simpa [hc] using hblanks⟩
      · exact ⟨rest, by simp [hc], hblanks⟩
    · exact ⟨blanks, by rw [List.cons_append, ← hrest], hblanks⟩

theorem trimEnd_of_blanks {blanks : List Char} (h : ∀ c ∈ blanks, isBlank c = true) :
    trimEnd blanks = [] := by
  induction blanks with
  | nil => rfl
  | cons c rest ih =>
    obtain ⟨hc, hrest⟩ := List.forall_mem_cons.1 h
    rw [trimEnd, ih hrest]
    exact if_pos hc

theorem trimEnd_append_of_blanks (cs : List Char) {blanks : List Char}
    (h : ∀ c ∈ blanks, isBlank c = true) : trimEnd (cs ++ blanks) = trimEnd cs := by
  induction cs with
  | nil => exact trimEnd_of_blanks h
  | cons c cs ih => rw [List.cons_append, trimEnd, ih, trimEnd]

/-! ## What trimming leaves -/

def Blanks (cs : List Char) : Prop := ∀ c ∈ cs, isBlank c = true

instance (cs : List Char) : Decidable (Blanks cs) :=
  List.decidableBAll (fun c => isBlank c = true) cs

/-- Neither the first character is blank nor the last. -/
structure Trimmed (cs : List Char) : Prop where
  first : ∀ c ∈ cs.head?, isBlank c = false
  last : ∀ c ∈ cs.getLast?, isBlank c = false

/-- A text with blanks around it. -/
def Padded (cs inner : List Char) : Prop :=
  ∃ left right, cs = left ++ inner ++ right ∧ Blanks left ∧ Blanks right

theorem trimEnd_eq_self {cs : List Char} (h : ∀ c ∈ cs.getLast?, isBlank c = false) :
    trimEnd cs = cs := by
  obtain ⟨blanks, heq, hblanks⟩ := trimEnd_append_blanks cs
  rcases List.eq_nil_or_concat blanks with rfl | ⟨blanks, c, rfl⟩
  · rw [List.append_nil] at heq
    exact heq.symm
  · have hlast : c ∈ cs.getLast? := by
      rw [heq, List.concat_eq_append, ← List.append_assoc]
      exact List.getLast?_concat
    have hblank := hblanks c (by simp)
    rw [h c hlast] at hblank
    cases hblank

theorem last_trimEnd (cs : List Char) : ∀ c ∈ (trimEnd cs).getLast?, isBlank c = false := by
  induction cs with
  | nil => nofun
  | cons first rest ih =>
    rw [trimEnd]
    split
    · by_cases hfirst : isBlank first = true <;> simp [hfirst]
    · rename_i hkept
      rw [List.getLast?_cons_of_ne_nil hkept]
      exact ih

theorem trim_of_padded {cs inner : List Char} (h : Padded cs inner) (hinner : Trimmed inner) :
    trim cs = inner := by
  obtain ⟨left, right, rfl, hleft, hright⟩ := h
  rw [trim, trimStart, List.append_assoc, List.dropWhile_append_of_pos hleft]
  cases inner with
  | nil => exact trimEnd_of_blanks fun c hc => hright c (List.dropWhile_sublist _ |>.mem hc)
  | cons c inner =>
    have hc : ¬ isBlank c = true := Bool.eq_false_iff.1 (hinner.first c rfl)
    rw [List.cons_append, List.dropWhile_cons_of_neg hc, ← List.cons_append,
      trimEnd_append_of_blanks _ hright, trimEnd_eq_self hinner.last]

theorem padded_trim (cs : List Char) : Padded cs (trim cs) := by
  obtain ⟨right, heq, hright⟩ := trimEnd_append_blanks (trimStart cs)
  refine ⟨cs.takeWhile isBlank, right, ?_, List.all_eq_true.1 List.all_takeWhile, hright⟩
  rw [List.append_assoc, trim, ← heq, trimStart, List.takeWhile_append_dropWhile]

theorem trimmed_trim (cs : List Char) : Trimmed (trim cs) := by
  refine ⟨fun c hc => ?_, last_trimEnd _⟩
  obtain ⟨right, heq, _⟩ := trimEnd_append_blanks (trimStart cs)
  have hfirst : c ∈ (trimStart cs).head? := by
    rw [heq, List.head?_append, show (trimEnd (trimStart cs)).head? = some c from hc]
    rfl
  have hnot := List.head?_dropWhile_not isBlank cs
  rw [show (cs.dropWhile isBlank).head? = some c from hfirst] at hnot
  exact hnot

/-- Trimming takes all the blanks at both ends, and nothing else. -/
theorem trim_eq_iff {cs inner : List Char} : trim cs = inner ↔ Padded cs inner ∧ Trimmed inner :=
  ⟨fun h => h ▸ ⟨padded_trim cs, trimmed_trim cs⟩, fun h => trim_of_padded h.1 h.2⟩

theorem trim_eq_self_iff {cs : List Char} : trim cs = cs ↔ Trimmed cs :=
  trim_eq_iff.trans (and_iff_right ⟨[], [], by simp, nofun, nofun⟩)

instance (cs : List Char) : Decidable (Trimmed cs) := decidable_of_iff _ trim_eq_self_iff

theorem trim_eq_nil_iff {cs : List Char} : trim cs = [] ↔ Blanks cs := by
  constructor
  · intro h
    obtain ⟨left, right, rfl, hleft, hright⟩ := (trim_eq_iff.1 h).1
    intro c hc
    rcases List.mem_append.1 hc with hc | hc
    · exact hleft c (by simpa using hc)
    · exact hright c hc
  · intro h
    exact trim_of_padded ⟨cs, [], by simp, h, nofun⟩ ⟨nofun, nofun⟩

end PromptScript
