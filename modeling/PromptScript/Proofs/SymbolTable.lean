import PromptScript.Proofs.References
import PromptScript.Symbols

/-!
# Proofs.SymbolTable

What a symbol table holds, by look-ups: one equation for the map below it, one for each way of
filling it.
-/

namespace PromptScript

namespace NameMap

theorem get?_insert {α : Type u} (m : NameMap α) (name other : String) (value : α) :
    (m.insert name value).get? other = if other = name then some value else m.get? other := by
  split
  · rename_i h
    rw [h, get?_insert_self]
  · rename_i h
    exact get?_insert_ne m value h

theorem contains_eq_true_iff {α : Type u} {m : NameMap α} {name : String} :
    m.contains name = true ↔ ∃ value, m.get? name = some value := by
  rw [contains, Option.isSome_iff_exists]

theorem get?_eq_none_iff {α : Type u} {m : NameMap α} {name : String} :
    m.get? name = none ↔ ¬ m.contains name = true := by
  simp [contains]

/-- A map that gives several names one value. -/
theorem get?_ofList_map {α : Type u} (names : List String) (value : α) (name : String) :
    (ofList (names.map fun n => (n, value))).get? name =
      if name ∈ names then some value else none := by
  have key : ∀ (m : NameMap α),
      ((names.map fun n => (n, value)).foldl (fun m e => m.insert e.1 e.2) m).get? name =
        if name ∈ names then some value else m.get? name := by
    induction names with
    | nil => intro m; rfl
    | cons n rest ih =>
      intro m
      rw [List.map_cons, List.foldl_cons, ih, get?_insert]
      by_cases hrest : name ∈ rest
      · rw [if_pos hrest, if_pos (List.mem_cons_of_mem n hrest)]
      · by_cases hn : name = n
        · simp [hn]
        · simp [hrest, hn]
  exact key empty

end NameMap

namespace SymbolTable

theorem add_eq_ok_iff {t t' : SymbolTable} {name : String} {s : Symbol} :
    t.add name s = (.ok (), t') ↔ t.symbols.get? (canonicalName name) = none ∧
      t' = ⟨t.symbols.insert (canonicalName name) s⟩ := by
  rw [add]
  cases t.symbols.get? (canonicalName name) <;> simp [eq_comm]

theorem get_eq_ok_iff {t : SymbolTable} {name : String} {s : Symbol} :
    t.get name = .ok s ↔ t.symbols.get? (canonicalName name) = some s := by
  rw [get]
  cases t.symbols.get? (canonicalName name) <;> simp

theorem update_eq_ok_iff {t t' : SymbolTable} {name : String} {u : SymbolUpdate} :
    t.update name u = (.ok (), t') ↔ ∃ s, t.symbols.get? (canonicalName name) = some s ∧
      t' = ⟨t.symbols.insert (canonicalName name) (u.apply s)⟩ := by
  rw [update]
  cases t.symbols.get? (canonicalName name) <;> simp [eq_comm]

theorem remove_eq_ok_iff {t t' : SymbolTable} {name : String} :
    t.remove name = (.ok (), t') ↔ (∃ s, t.symbols.get? (canonicalName name) = some s) ∧
      t' = ⟨t.symbols.erase (canonicalName name)⟩ := by
  rw [remove]
  cases t.symbols.get? (canonicalName name) <;> simp [eq_comm]

/-! ## Changes -/

section Changes

variable {t : SymbolTable} {name key : String} {s : Symbol} {e : SymbolError}

theorem get?_add {first : Symbol} :
    (t.add name first).2.symbols.get? key = some s ↔
      (canonicalName name = key ∧ first = s ∧ t.symbols.get? key = none) ∨
        t.symbols.get? key = some s := by
  rw [add]
  cases htaken : t.symbols.get? (canonicalName name) with
  | some held =>
    constructor
    · exact .inr
    · rintro (⟨rfl, _, hnone⟩ | h)
      · rw [htaken] at hnone
        cases hnone
      · exact h
  | none =>
    simp only [NameMap.get?_insert]
    by_cases hkey : key = canonicalName name
    · subst hkey
      simp [htaken]
    · simp [hkey, Ne.symm hkey]

theorem get?_update {u : SymbolUpdate} :
    (t.update name u).2.symbols.get? key = some s ↔
      ∃ s₀, t.symbols.get? key = some s₀ ∧
        s = if canonicalName name = key then u.apply s₀ else s₀ := by
  rw [update]
  cases hheld : t.symbols.get? (canonicalName name) with
  | none =>
    by_cases hkey : canonicalName name = key
    · subst hkey
      simp [hheld]
    · simp [hkey, eq_comm]
  | some held =>
    simp only [NameMap.get?_insert]
    by_cases hkey : canonicalName name = key
    · subst hkey
      simp [hheld, eq_comm]
    · simp [hkey, Ne.symm hkey, eq_comm]

theorem get?_remove :
    (t.remove name).2.symbols.get? key = some s ↔
      canonicalName name ≠ key ∧ t.symbols.get? key = some s := by
  have hleft : (t.remove name).2 = ⟨t.symbols.erase (canonicalName name)⟩ := by
    rw [remove]
    cases t.symbols.get? (canonicalName name) <;> rfl
  rw [hleft, NameMap.get?_erase]
  by_cases hkey : key = canonicalName name <;> simp [hkey, eq_comm]

theorem add_of_error (h : (t.add name s).1 = .error e) : (t.add name s).2 = t := by
  rw [add] at h ⊢
  split at h
  · rfl
  · cases h

theorem update_of_error {u : SymbolUpdate} (h : (t.update name u).1 = .error e) :
    (t.update name u).2 = t := by
  rw [update] at h ⊢
  split at h
  · cases h
  · rfl

/-- Nothing is erased where nothing was found. -/
theorem remove_of_error (h : (t.remove name).1 = .error e) : (t.remove name).2 = t := by
  rw [remove] at h ⊢
  split at h
  · cases h
  · rename_i hnone
    have hsame : t.symbols.erase (canonicalName name) = t.symbols := by
      refine NameMap.ext_get? fun other => ?_
      rw [NameMap.get?_erase]
      split
      · rename_i heq
        rw [heq, hnone]
      · rfl
    rw [hsame]

end Changes

theorem get?_builtIns (name : String) :
    builtIns.symbols.get? name = if name ∈ builtInNames then some builtInSymbol else none :=
  NameMap.get?_ofList_map builtInNames builtInSymbol name

/-- The table holds exactly the names in scope. -/
def Covers (t : SymbolTable) (scope : List String) : Prop :=
  ∀ name, t.symbols.contains name = true ↔ name ∈ scope

theorem covers_builtIns : Covers builtIns builtInNames := by
  intro name
  rw [NameMap.contains, get?_builtIns]
  split <;> simp_all

theorem Covers.insert {t : SymbolTable} {scope : List String} (h : t.Covers scope) (name : String)
    (s : Symbol) : Covers ⟨t.symbols.insert name s⟩ (scope ++ [name]) := by
  intro other
  have hother := h other
  rw [NameMap.contains] at hother
  rw [NameMap.contains, NameMap.get?_insert]
  by_cases hn : other = name
  · simp [hn]
  · simp [hn, hother]

/-- A reference is found in the table if its name is in scope. -/
theorem Covers.contains_label {t : SymbolTable} {scope : List String} (h : t.Covers scope)
    {r : Reference} (hr : IsName r.identifier) :
    t.contains r.label = true ↔ r.name ∈ scope := by
  rw [SymbolTable.contains, Reference.canonicalName_label hr]
  exact h r.name

end SymbolTable

end PromptScript
