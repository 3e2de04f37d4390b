import PromptScript.Proofs.SymbolTable

/-!
# Proofs.SymbolKeys

The keys of a symbol table as names. Reading a name takes off one pair of braces and one qualifier,
once each, so the key that is left may itself be wrapped: `{x}` is the key of `{{x}}`, and read as a
name it is `x`. A key is read as itself exactly if it is not wrapped, and such keys come from the
names of a documented form: `x`, `{x}`, `context.x` and `{context.x}`, around a name that is not
wrapped (`isForm_iff`). An operation on such a key acts on the very entry that has it
(`key_reads_as_itself_iff`).
-/

namespace PromptScript

/-! ## Names -/

/-- In a pair of braces, or with the qualifier in front. -/
def Wrapped (name : String) : Prop :=
  (∃ inner, name.toList = '{' :: inner ++ ['}']) ∨ ∃ rest, name.toList = qualifier ++ rest

def inBraces (name : String) : String := "\x7b" ++ name ++ "\x7d"

def withQualifier (name : String) : String := "context." ++ name

/-- The forms in which a name may be written. -/
def nameForms (name : String) : List String :=
  [name, inBraces name, withQualifier name, inBraces (withQualifier name)]

/-- A form of a name that is not itself wrapped. -/
def IsForm (name : String) : Prop := ∃ x, ¬ Wrapped x ∧ name ∈ nameForms x

theorem toList_inBraces (name : String) : (inBraces name).toList = '{' :: name.toList ++ ['}'] := by
  simp [inBraces]

theorem toList_withQualifier (name : String) :
    (withQualifier name).toList = qualifier ++ name.toList := by
  rw [withQualifier, String.toList_append]
  rfl

/-- How a name is written, and what is left of it: braces come off first, then the qualifier. -/
inductive Unwraps : List Char → List Char → Prop where
  | bare {cs : List Char} :
      (∀ inner, cs ≠ '{' :: inner ++ ['}']) → (∀ rest, cs ≠ qualifier ++ rest) → Unwraps cs cs
  | braced {inner : List Char} : (∀ rest, inner ≠ qualifier ++ rest) →
      Unwraps ('{' :: inner ++ ['}']) inner
  | qualified (rest : List Char) : Unwraps (qualifier ++ rest) rest
  | both (rest : List Char) : Unwraps ('{' :: (qualifier ++ rest) ++ ['}']) rest

theorem unwraps_canonicalName (name : String) :
    Unwraps name.toList (canonicalName name).toList := by
  rw [canonicalName, String.toList_ofList]
  by_cases hbraces : ∃ inner, name.toList = '{' :: inner ++ ['}']
  · obtain ⟨inner, hinner⟩ := hbraces
    rw [hinner, withoutBraces_append]
    by_cases hqualifier : ∃ rest, inner = qualifier ++ rest
    · obtain ⟨rest, rfl⟩ := hqualifier
      rw [withoutQualifier_append]
      exact .both rest
    · have hnone : ∀ rest, inner ≠ qualifier ++ rest := fun rest h => hqualifier ⟨rest, h⟩
      rw [withoutQualifier_eq_self hnone]
      exact .braced hnone
  · have hbare : ∀ inner, name.toList ≠ '{' :: inner ++ ['}'] := fun inner h => hbraces ⟨inner, h⟩
    rw [withoutBraces_eq_self hbare]
    by_cases hqualifier : ∃ rest, name.toList = qualifier ++ rest
    · obtain ⟨rest, hrest⟩ := hqualifier
      rw [hrest, withoutQualifier_append]
      exact .qualified rest
    · have hnone : ∀ rest, name.toList ≠ qualifier ++ rest := fun rest h => hqualifier ⟨rest, h⟩
      rw [withoutQualifier_eq_self hnone]
      exact .bare hbare hnone

/-- What is left of a name is shorter, unless nothing was around it. -/
theorem Unwraps.eq_or_length_lt {cs left : List Char} (h : Unwraps cs left) :
    (left = cs ∧ (∀ inner, cs ≠ '{' :: inner ++ ['}']) ∧ ∀ rest, cs ≠ qualifier ++ rest) ∨
      left.length < cs.length := by
  have hqualifier : 0 < qualifier.length := by decide
  cases h with
  | bare hbraces hnone => exact .inl ⟨rfl, hbraces, hnone⟩
  | braced =>
    right
    rw [List.length_append, List.length_cons]
    omega
  | qualified =>
    right
    rw [List.length_append]
    omega
  | both =>
    right
    rw [List.length_append, List.length_cons, List.length_append]
    omega

/-- Exactly the names that are not wrapped are read as themselves. -/
theorem canonicalName_eq_self_iff {name : String} : canonicalName name = name ↔ ¬ Wrapped name := by
  have hunwraps := unwraps_canonicalName name
  constructor
  · intro h
    rw [h] at hunwraps
    rcases hunwraps.eq_or_length_lt with ⟨_, hbraces, hnone⟩ | hlt
    · rintro (⟨inner, hinner⟩ | ⟨rest, hrest⟩)
      · exact hbraces inner hinner
      · exact hnone rest hrest
    · exact absurd hlt (Nat.lt_irrefl _)
  · intro h
    rw [canonicalName, withoutBraces_eq_self fun inner hinner => h (.inl ⟨inner, hinner⟩),
      withoutQualifier_eq_self fun rest hrest => h (.inr ⟨rest, hrest⟩), String.ofList_toList]

/-- A name is a form of what it is read as. -/
theorem mem_nameForms_canonicalName (name : String) : name ∈ nameForms (canonicalName name) := by
  have hunwraps := unwraps_canonicalName name
  simp only [nameForms, List.mem_cons, List.not_mem_nil, or_false, ← String.toList_inj,
    toList_inBraces, toList_withQualifier]
  generalize name.toList = cs, (canonicalName name).toList = left at hunwraps
  cases hunwraps with
  | bare => exact .inl rfl
  | braced => exact .inr (.inl rfl)
  | qualified rest => exact .inr (.inr (.inl rfl))
  | both rest => exact .inr (.inr (.inr rfl))

/-- Every form of a name that is not wrapped is read as this name. -/
theorem canonicalName_of_mem_nameForms {x name : String} (hx : ¬ Wrapped x)
    (h : name ∈ nameForms x) : canonicalName name = x := by
  have hnone : ∀ rest, x.toList ≠ qualifier ++ rest := fun rest hrest => hx (.inr ⟨rest, hrest⟩)
  simp only [nameForms, List.mem_cons, List.not_mem_nil, or_false] at h
  rcases h with rfl | rfl | rfl | rfl
  · exact canonicalName_eq_self_iff.2 hx
  · rw [canonicalName, toList_inBraces, withoutBraces_append, withoutQualifier_eq_self hnone,
      String.ofList_toList]
  · rw [canonicalName, toList_withQualifier, withoutBraces_eq_self (qualified_ne_braced x.toList),
      withoutQualifier_append, String.ofList_toList]
  · rw [canonicalName, toList_inBraces, withoutBraces_append, toList_withQualifier,
      withoutQualifier_append, String.ofList_toList]

/-- The names of a documented form are those that are read as a name that is not wrapped. -/
theorem isForm_iff {name : String} : IsForm name ↔ ¬ Wrapped (canonicalName name) := by
  constructor
  · rintro ⟨x, hx, hform⟩
    rwa [canonicalName_of_mem_nameForms hx hform]
  · intro h
    exact ⟨canonicalName name, h, mem_nameForms_canonicalName name⟩

/-! ## Requests -/

/-- What a symbol table may be asked. -/
inductive TableRequest where
  | add (name : String) (s : Symbol)
  | addBuiltIn (name : String) (type : VariableType) (line : Nat)
  | get (name : String)
  | update (name : String) (u : SymbolUpdate)
  | remove (name : String)
  | contains (name : String)

/-- The name that a request is to declare. -/
def TableRequest.added? : TableRequest → Option String
  | .add name _ => some name
  | .addBuiltIn name _ _ => some name
  | _ => none

namespace SymbolTable

/-- The table after a request. -/
def after (t : SymbolTable) : TableRequest → SymbolTable
  | .add name s => (t.add name s).2
  | .addBuiltIn name type line => (t.addBuiltIn name type line).2
  | .get _ => t
  | .update name u => (t.update name u).2
  | .remove name => (t.remove name).2
  | .contains _ => t

/-- The table after requests one after the other. -/
def run (t : SymbolTable) (requests : List TableRequest) : SymbolTable := requests.foldl after t

/-! ## Keys -/

section Keys

variable {t : SymbolTable} {key : String} {s : Symbol}

/-- The table has a symbol under the key. -/
def HasKey (t : SymbolTable) (key : String) : Prop := ∃ s, t.symbols.get? key = some s

theorem hasKey_of_add {name : String} (h : (t.add name s).2.HasKey key) :
    t.HasKey key ∨ canonicalName name = key := by
  obtain ⟨s', hs'⟩ := h
  rcases get?_add.1 hs' with ⟨hkey, _⟩ | hheld
  · exact .inr hkey
  · exact .inl ⟨s', hheld⟩

/-- One request brings no key but the name that it declares. -/
theorem hasKey_of_after {r : TableRequest} (h : (t.after r).HasKey key) :
    t.HasKey key ∨ ∃ name ∈ r.added?, canonicalName name = key := by
  cases r with
  | add name s => exact (hasKey_of_add h).imp_right fun hkey => ⟨name, rfl, hkey⟩
  | addBuiltIn name type line => exact (hasKey_of_add h).imp_right fun hkey => ⟨name, rfl, hkey⟩
  | get name => exact .inl h
  | update name u =>
    obtain ⟨s, hs⟩ := h
    obtain ⟨s₀, hs₀, _⟩ := get?_update.1 hs
    exact .inl ⟨s₀, hs₀⟩
  | remove name =>
    obtain ⟨s, hs⟩ := h
    exact .inl ⟨s, (get?_remove.1 hs).2⟩
  | contains name => exact .inl h

/-- Every key of a run is brought by one of its requests, or was there before. -/
theorem hasKey_of_run {requests : List TableRequest} (h : (t.run requests).HasKey key) :
    t.HasKey key ∨ ∃ name ∈ requests.filterMap TableRequest.added?, canonicalName name = key := by
  induction requests generalizing t with
  | nil => exact .inl h
  | cons r rest ih =>
    rcases ih h with hrest | ⟨name, hname, hkey⟩
    · rcases hasKey_of_after hrest with hbefore | ⟨name, hname, hkey⟩
      · exact .inl hbefore
      · exact .inr ⟨name, List.mem_filterMap.2 ⟨r, List.mem_cons_self, hname⟩, hkey⟩
    · obtain ⟨r', hr', hadded⟩ := List.mem_filterMap.1 hname
      exact .inr ⟨name, List.mem_filterMap.2 ⟨r', List.mem_cons_of_mem r hr', hadded⟩, hkey⟩

/-- The operations with this name act on the entry that has it as its key. -/
structure ActsOn (t : SymbolTable) (name : String) (s : Symbol) : Prop where
  get : t.get name = .ok s
  contains : t.contains name = true
  update : ∀ u, t.update name u = (.ok (), ⟨t.symbols.insert name (u.apply s)⟩)
  remove : t.remove name = (.ok (), ⟨t.symbols.erase name⟩)

theorem actsOn_of_canonical (hkey : canonicalName key = key)
    (hs : t.symbols.get? key = some s) : t.ActsOn key s where
  get := get_eq_ok_iff.2 (by rw [hkey, hs])
  contains := by
    rw [contains, hkey]
    exact NameMap.contains_eq_true_iff.2 ⟨s, hs⟩
  update := fun u => update_eq_ok_iff.2 ⟨s, by rw [hkey, hs], by rw [hkey]⟩
  remove := remove_eq_ok_iff.2 ⟨⟨s, by rw [hkey, hs]⟩, by rw [hkey]⟩

end Keys

/-- Every key is read off a name that was added. It is read as itself exactly if that name is of a
documented form, and then the operations with this key act on its own entry. -/
theorem key_reads_as_itself_iff {requests : List TableRequest} {key : String} {s : Symbol}
    (h : (empty.run requests).symbols.get? key = some s) :
    ∃ name ∈ requests.filterMap TableRequest.added?, canonicalName name = key ∧
      (canonicalName key = key ↔ IsForm name) ∧
      (IsForm name → (empty.run requests).ActsOn key s) := by
  rcases hasKey_of_run ⟨s, h⟩ with ⟨s', hempty⟩ | ⟨name, hname, hkey⟩
  · exact nomatch hempty
  have hself : canonicalName key = key ↔ IsForm name := by
    rw [canonicalName_eq_self_iff, isForm_iff, hkey]
  exact ⟨name, hname, hkey, hself, fun hform => actsOn_of_canonical (hself.2 hform) h⟩

/-- A qualified name, updated under another of its forms, next to a name in two pairs of braces. -/
def mixedRequests : List TableRequest :=
  [.add "\x7bcontext.x\x7d" ⟨.text, .userDefined, 1⟩, .update "context.x" ⟨none, none, some 4⟩,
    .add "\x7b\x7by\x7d\x7d" ⟨.text, .userDefined, 2⟩]

theorem key_reads_as_itself_iff_mixed :
    (empty.run mixedRequests).symbols.get? "x" = some ⟨.text, .userDefined, 4⟩ ∧
      ∃ name ∈ mixedRequests.filterMap TableRequest.added?, canonicalName name = "x" ∧
        (canonicalName "x" = "x" ↔ IsForm name) ∧
        (IsForm name → (empty.run mixedRequests).ActsOn "x" ⟨.text, .userDefined, 4⟩) :=
  have hget : (empty.run mixedRequests).symbols.get? "x" = some ⟨.text, .userDefined, 4⟩ := by
    decide +kernel
  ⟨hget, key_reads_as_itself_iff hget⟩

/-- The table with one name, declared in two pairs of braces. -/
def doublyBraced : SymbolTable :=
  empty.run [.add "\x7b\x7bx\x7d\x7d" ⟨.text, .userDefined, 1⟩]

/-- The only key of this table is read as another name, and so is not found. -/
theorem key_not_found :
    doublyBraced.symbols.get? "\x7bx\x7d" = some ⟨.text, .userDefined, 1⟩ ∧
      canonicalName "\x7bx\x7d" = "x" ∧ doublyBraced.get "\x7bx\x7d" = .error (.undeclared "x") ∧
      doublyBraced.contains "\x7bx\x7d" = false :=
  ⟨by decide +kernel, by decide +kernel, rfl, by decide +kernel⟩

end SymbolTable

end PromptScript
