/-!
# NameMap

Finite maps from names to values, listed in ascending order of their names. Two maps with the same
look-ups are equal (`NameMap.ext_get?`), so the order in which entries were written leaves no trace.
-/

namespace PromptScript

/-- An association list whose names ascend. -/
abbrev Ascending {α : Type u} (entries : List (String × α)) : Prop :=
  entries.Pairwise fun a b => a.1 < b.1

structure NameMap (α : Type u) where
  entries : List (String × α)
  ascending : Ascending entries

namespace NameMap

def find? {α : Type u} (name : String) : List (String × α) → Option α
  | [] => none
  | (k, v) :: rest => if k = name then some v else find? name rest

def put {α : Type u} (name : String) (value : α) : List (String × α) → List (String × α)
  | [] => [(name, value)]
  | (k, v) :: rest =>
    if name < k then (name, value) :: (k, v) :: rest
    else if name = k then (name, value) :: rest
    else (k, v) :: put name value rest

def drop {α : Type u} (name : String) (entries : List (String × α)) : List (String × α) :=
  entries.filter fun e => e.1 ≠ name

theorem fst_mem_put {α : Type u} {name k : String} {value : α} {entries : List (String × α)}
    {v : α} (h : (k, v) ∈ put name value entries) : k = name ∨ (k, v) ∈ entries := by
  induction entries with
  | nil =>
    simp only [put, List.mem_singleton, Prod.mk.injEq] at h
    exact .inl h.1
  | cons e rest ih =>
    obtain ⟨k', v'⟩ := e
    rw [put] at h
    split at h
    · rcases List.mem_cons.1 h with h | h
      · exact .inl (congrArg Prod.fst h)
      · exact .inr h
    · split at h
      · rcases List.mem_cons.1 h with h | h
        · exact .inl (congrArg Prod.fst h)
        · exact .inr (List.mem_cons_of_mem _ h)
      · rcases List.mem_cons.1 h with h | h
        · exact .inr (h ▸ List.mem_cons_self)
        · rcases ih h with h | h
          · exact .inl h
          · exact .inr (List.mem_cons_of_mem _ h)

theorem ascending_put {α : Type u} (name : String) (value : α) {entries : List (String × α)}
    (h : Ascending entries) : Ascending (put name value entries) := by
  induction entries with
  | nil => exact List.pairwise_singleton ..
  | cons e rest ih =>
    obtain ⟨k, v⟩ := e
    have hk := List.pairwise_cons.1 h
    rw [put]
    split
    · rename_i hlt
      refine List.pairwise_cons.2 ⟨fun e he => ?_, h⟩
      rcases List.mem_cons.1 he with rfl | he
      · exact hlt
      · exact String.lt_trans hlt (hk.1 e he)
    · rename_i hnlt
      split
      · rename_i heq
        subst heq
        exact List.pairwise_cons.2 ⟨hk.1, hk.2⟩
      · rename_i hne
        refine List.pairwise_cons.2 ⟨fun e he => ?_, ih hk.2⟩
        rcases fst_mem_put (v := e.2) he with h' | h'
        · rw [h']
          rcases String.le_total name k with hle | hle
          · exact absurd (String.le_antisymm hle (String.not_lt.1 hnlt)) hne
          · exact String.not_le.1 fun hle' => hne (String.le_antisymm hle' hle)
        · exact hk.1 e h'

/-- The map without entries. -/
def empty {α : Type u} : NameMap α := ⟨[], .nil⟩

instance {α : Type u} : EmptyCollection (NameMap α) := ⟨empty⟩

instance {α : Type u} : Inhabited (NameMap α) := ⟨empty⟩

def get? {α : Type u} (m : NameMap α) (name : String) : Option α := find? name m.entries

def contains {α : Type u} (m : NameMap α) (name : String) : Bool := (m.get? name).isSome

/-- Gives the name a value, in place of one that it had. -/
def insert {α : Type u} (m : NameMap α) (name : String) (value : α) : NameMap α :=
  ⟨put name value m.entries, ascending_put name value m.ascending⟩

def erase {α : Type u} (m : NameMap α) (name : String) : NameMap α :=
  ⟨drop name m.entries, m.ascending.filter _⟩

def size {α : Type u} (m : NameMap α) : Nat := m.entries.length

/-- The names, ascending. -/
def names {α : Type u} (m : NameMap α) : List String := m.entries.map (·.1)

/-- The values in the order of their names. -/
def values {α : Type u} (m : NameMap α) : List α := m.entries.map (·.2)

/-- The map of the given pairs; of two pairs with one name the later counts. -/
def ofList {α : Type u} (pairs : List (String × α)) : NameMap α :=
  pairs.foldl (fun m e => m.insert e.1 e.2) empty

/-- Every value passed through `f`. -/
def map {α : Type u} {β : Type v} (f : α → β) (m : NameMap α) : NameMap β :=
  ⟨m.entries.map fun e => (e.1, f e.2), List.pairwise_map.2 m.ascending⟩

theorem find?_put_self {α : Type u} (name : String) (value : α) (entries : List (String × α)) :
    find? name (put name value entries) = some value := by
  induction entries with
  | nil => simp [put, find?]
  | cons e rest ih =>
    obtain ⟨k, v⟩ := e
    rw [put]
    split
    · simp [find?]
    · split
      · simp [find?]
      · rename_i hne
        rw [find?, if_neg fun h => hne h.symm, ih]

theorem find?_put_ne {α : Type u} {name other : String} (value : α) (entries : List (String × α))
    (h : other ≠ name) : find? other (put name value entries) = find? other entries := by
  induction entries with
  | nil => simp [put, find?, h.symm]
  | cons e rest ih =>
    obtain ⟨k, v⟩ := e
    rw [put]
    split
    · rw [find?, if_neg h.symm]
    · split
      · rename_i heq
        subst heq
        rw [find?, if_neg h.symm, find?, if_neg h.symm]
      · rw [find?, find?, ih]

@[simp] theorem get?_insert_self {α : Type u} (m : NameMap α) (name : String) (value : α) :
    (m.insert name value).get? name = some value := find?_put_self ..

theorem get?_insert_ne {α : Type u} (m : NameMap α) {name other : String} (value : α)
    (h : other ≠ name) : (m.insert name value).get? other = m.get? other := find?_put_ne _ _ h

theorem find?_drop {α : Type u} (name other : String) (entries : List (String × α)) :
    find? other (drop name entries) = if other = name then none else find? other entries := by
  induction entries with
  | nil => simp [drop, find?]
  | cons e rest ih =>
    obtain ⟨k, v⟩ := e
    unfold drop at ih ⊢
    rw [List.filter_cons]
    by_cases hk : k = name
    · subst hk
      simp only [ne_eq, not_true_eq_false, decide_false, Bool.false_eq_true, ↓reduceIte]
      rw [ih]
      by_cases ho : other = k
      · simp [ho]
      · rw [if_neg ho, if_neg ho, find?, if_neg fun h => ho h.symm]
    · simp only [ne_eq, hk, not_false_eq_true, decide_true, ↓reduceIte]
      rw [find?, find?, ih]
      by_cases hko : k = other
      · rw [if_pos hko, if_pos hko, if_neg fun h => hk (hko.trans h)]
      · rw [if_neg hko, if_neg hko]

theorem get?_erase {α : Type u} (m : NameMap α) (name other : String) :
    (m.erase name).get? other = if other = name then none else m.get? other := find?_drop ..

theorem find?_eq_some_iff {α : Type u} {entries : List (String × α)} (h : Ascending entries)
    (name : String) (value : α) : find? name entries = some value ↔ (name, value) ∈ entries := by
  induction entries with
  | nil => simp [find?]
  | cons e rest ih =>
    obtain ⟨k, v⟩ := e
    have hk := List.pairwise_cons.1 h
    rw [find?]
    by_cases hkn : k = name
    · subst hkn
      rw [if_pos rfl, List.mem_cons, Option.some.injEq, Prod.mk.injEq]
      constructor
      · exact fun h => .inl ⟨rfl, h.symm⟩
      · rintro (⟨-, rfl⟩ | hmem)
        · rfl
        · exact absurd (hk.1 _ hmem) (String.lt_irrefl k)
    · rw [if_neg hkn, ih hk.2, List.mem_cons, Prod.mk.injEq]
      constructor
      · exact .inr
      · rintro (⟨h, -⟩ | hmem)
        · exact absurd h.symm hkn
        · exact hmem

theorem eq_of_find?_eq {α : Type u} :
    ∀ {a b : List (String × α)}, Ascending a → Ascending b →
      (∀ name, find? name a = find? name b) → a = b
  | [], [], _, _, _ => rfl
  | [], (k, v) :: rest, _, _, h => by
    have := h k
    simp [find?] at this
  | (k, v) :: rest, [], _, _, h => by
    have := h k
    simp [find?] at this
  | (k, v) :: a, (k', v') :: b, ha, hb, h => by
    have hka := List.pairwise_cons.1 ha
    have hkb := List.pairwise_cons.1 hb
    have hmem : (k, v) ∈ (k', v') :: b := by
      rw [← find?_eq_some_iff hb, ← h k, find?, if_pos rfl]
    have hmem' : (k', v') ∈ (k, v) :: a := by
      rw [← find?_eq_some_iff ha, h k', find?, if_pos rfl]
    have hkk : k = k' := by
      rcases List.mem_cons.1 hmem with heq | hlt
      · exact congrArg Prod.fst heq
      · rcases List.mem_cons.1 hmem' with heq | hlt'
        · exact (congrArg Prod.fst heq).symm
        · exact absurd (String.lt_trans (hkb.1 _ hlt) (hka.1 _ hlt')) (String.lt_irrefl _)
    subst hkk
    have hvv : v = v' := by
      have := h k
      simpa [find?] using this
    subst hvv
    congr 1
    refine eq_of_find?_eq hka.2 hkb.2 fun name => ?_
    have hn := h name
    rw [find?, find?] at hn
    by_cases hkn : k = name
    · subst hkn
      have none_of (l : List (String × α)) (hl : ∀ e ∈ l, k < e.1) : find? k l = none := by
        induction l with
        | nil => rfl
        | cons e rest ih =>
          obtain ⟨k', v'⟩ := e
          rw [find?, if_neg, ih fun e he => hl e (List.mem_cons_of_mem _ he)]
          rintro rfl
          exact String.lt_irrefl _ (hl _ List.mem_cons_self)
      rw [none_of a hka.1, none_of b hkb.1]
    · rwa [if_neg hkn, if_neg hkn] at hn

/-- A map is determined by its look-ups. -/
theorem ext_get? {α : Type u} {m n : NameMap α} (h : ∀ name, m.get? name = n.get? name) :
    m = n := by
  obtain ⟨a, ha⟩ := m
  obtain ⟨b, hb⟩ := n
  have : a = b := eq_of_find?_eq ha hb h
  subst this
  rfl

end NameMap

end PromptScript
