/-!
# Text.Fields

Text as fields between separators: splitting at every occurrence of a separator and joining again.
-/

namespace PromptScript

/-- The fields between the separators; one more than there are separators. -/
def fields {α : Type u} [DecidableEq α] (sep : α) : List α → List (List α)
  | [] => [[]]
  | c :: rest =>
    if c = sep then [] :: fields sep rest
    else
      match fields sep rest with
      | [] => [[c]]
      | f :: fs => (c :: f) :: fs

def joinFields {α : Type u} (sep : List α) : List (List α) → List α
  | [] => []
  | [f] => f
  | f :: fs => f ++ sep ++ joinFields sep fs

def joinTexts (sep : String) (texts : List String) : String :=
  String.ofList (joinFields sep.toList (texts.map String.toList))

theorem joinFields_cons_cons {α : Type u} (sep f g : List α) (rest : List (List α)) :
    joinFields sep (f :: g :: rest) = f ++ sep ++ joinFields sep (g :: rest) := rfl

theorem fields_ne_nil {α : Type u} [DecidableEq α] (sep : α) (cs : List α) :
    fields sep cs ≠ [] := by
  cases cs with
  | nil => simp [fields]
  | cons c rest =>
    rw [fields]
    split
    · simp
    · split <;> simp

theorem mem_joinFields {α : Type u} {sep : List α} {pieces : List (List α)} {x : α}
    (h : x ∈ joinFields sep pieces) : x ∈ sep ∨ ∃ piece ∈ pieces, x ∈ piece := by
  induction pieces with
  | nil => cases h
  | cons piece rest ih =>
    cases rest with
    | nil => exact .inr ⟨piece, List.mem_cons_self, h⟩
    | cons next rest =>
      rcases List.mem_append.1 h with h | h
      · rcases List.mem_append.1 h with h | h
        · exact .inr ⟨piece, List.mem_cons_self, h⟩
        · exact .inl h
      · exact (ih h).imp_right fun ⟨p, hp, hx⟩ => ⟨p, List.mem_cons_of_mem _ hp, hx⟩

/-- Joining undoes splitting. -/
theorem joinFields_fields {α : Type u} [DecidableEq α] (sep : α) (cs : List α) :
    joinFields [sep] (fields sep cs) = cs := by
  induction cs with
  | nil => rfl
  | cons c rest ih =>
    rw [fields]
    split
    · rename_i h
      subst h
      cases hf : fields c rest with
      | nil => exact absurd hf (fields_ne_nil c rest)
      | cons f fs =>
        rw [hf] at ih
        simp [joinFields, ih]
    · split
      · rename_i hf
        exact absurd hf (fields_ne_nil sep rest)
      · rename_i f fs hf
        rw [hf] at ih
        cases fs with
        | nil => simpa [joinFields] using ih
        | cons g gs => simpa [joinFields] using ih

theorem fields_append_cons {α : Type u} [DecidableEq α] (sep : α) (as bs : List α) :
    fields sep (as ++ sep :: bs) = fields sep as ++ fields sep bs := by
  induction as with
  | nil => simp [fields]
  | cons a as ih =>
    rw [List.cons_append, fields, fields]
    split
    · rw [ih, List.cons_append]
    · rw [ih]
      cases hfields : fields sep as with
      | nil => exact absurd hfields (fields_ne_nil sep as)
      | cons f fs => rfl

theorem fields_of_notMem {α : Type u} [DecidableEq α] {sep : α} {cs : List α} (h : sep ∉ cs) :
    fields sep cs = [cs] := by
  induction cs with
  | nil => rfl
  | cons c cs ih =>
    have hne : c ≠ sep := fun heq => h (heq ▸ List.mem_cons_self)
    rw [fields, if_neg hne, ih fun hmem => h (List.mem_cons_of_mem _ hmem)]

/-- Splitting undoes joining, where no field holds a separator. -/
theorem fields_joinFields {α : Type u} [DecidableEq α] {sep : α} {pieces : List (List α)}
    (hne : pieces ≠ []) (h : ∀ piece ∈ pieces, sep ∉ piece) :
    fields sep (joinFields [sep] pieces) = pieces := by
  induction pieces with
  | nil => exact absurd rfl hne
  | cons piece rest ih =>
    obtain ⟨hpiece, hrest⟩ := List.forall_mem_cons.1 h
    cases rest with
    | nil => exact fields_of_notMem hpiece
    | cons next rest =>
      have hjoined : joinFields [sep] (piece :: next :: rest) =
          piece ++ sep :: joinFields [sep] (next :: rest) := by
        simp [joinFields]
      rw [hjoined, fields_append_cons, fields_of_notMem hpiece, ih (List.cons_ne_nil _ _) hrest]
      rfl

theorem notMem_of_mem_fields {α : Type u} [DecidableEq α] {sep : α} {cs piece : List α}
    (h : piece ∈ fields sep cs) : sep ∉ piece := by
  induction cs generalizing piece with
  | nil => simp [List.mem_singleton.1 h]
  | cons c rest ih =>
    rw [fields] at h
    split at h
    · rcases List.mem_cons.1 h with rfl | h
      · exact List.not_mem_nil
      · exact ih h
    · rename_i hc
      split at h
      · rename_i hfields
        exact absurd hfields (fields_ne_nil sep rest)
      · rename_i first others hfields
        rcases List.mem_cons.1 h with rfl | h
        · intro hmem
          rcases List.mem_cons.1 hmem with heq | hmem
          · exact hc heq.symm
          · exact ih (hfields ▸ List.mem_cons_self) hmem
        · exact ih (hfields ▸ List.mem_cons_of_mem _ h)

end PromptScript
