import PromptScript.Header.Read

/-!
# Proofs.HeaderContents

What comes into a header while it is read. An entry of the YAML text sets a plain field, or brings
the declarations of the section, or one value. The declarations have the lines that `variableLine`
gives, and every value is read from a node (`contents_of_ofText`).
-/

namespace PromptScript

namespace NameMap

theorem mem_put {α : Type u} {name : String} {value : α} {entries : List (String × α)}
    {e : String × α} (h : e ∈ put name value entries) : e = (name, value) ∨ e ∈ entries := by
  induction entries with
  | nil => exact .inl (List.mem_singleton.1 h)
  | cons first rest ih =>
    obtain ⟨k, v⟩ := first
    rw [put] at h
    split at h
    · exact List.mem_cons.1 h
    · split at h
      · exact (List.mem_cons.1 h).imp_right (List.mem_cons_of_mem _)
      · rcases List.mem_cons.1 h with h | h
        · exact .inr (h ▸ List.mem_cons_self)
        · exact (ih h).imp_right (List.mem_cons_of_mem _)

theorem mem_values_insert {α : Type u} {m : NameMap α} {name : String} {value v : α}
    (h : v ∈ (m.insert name value).values) : v = value ∨ v ∈ m.values := by
  obtain ⟨e, he, rfl⟩ := List.mem_map.1 h
  rcases mem_put he with rfl | he
  · exact .inl rfl
  · exact .inr (List.mem_map_of_mem he)

end NameMap

namespace Header

/-- The value is read from a node of the header. -/
def IsRead (v : Value) : Prop := ∃ line n, Value.ofNode line n = .ok v

/-- The key of the section that declares variables. -/
def sectionKey : String := "variables"

/-- The line of the section, the first of the header if it is not found. -/
def sectionLine (lines : List (List Char)) (headerLine : Nat) : Nat :=
  headerLine + (keyLine? lines sectionKey 0).getD 0

/-- The line of the header from which the variables are looked for. -/
def sectionStart (lines : List (List Char)) : Nat :=
  match keyLine? lines sectionKey 0 with
  | some i => i + 1
  | none => 0

/-- The line that is recorded for a variable. -/
def variableLine (lines : List (List Char)) (headerLine : Nat) (name : String) : Nat :=
  match keyLine? lines name (sectionStart lines) with
  | some i => headerLine + i
  | none => sectionLine lines headerLine

/-- What a header holds is read from the lines. -/
structure Contents (lines : List (List Char)) (headerLine : Nat) (h : Header) : Prop where
  line : ∀ d ∈ h.declarations, d.line = variableLine lines headerLine d.name
  declared : ∀ d ∈ h.declarations, IsRead d.value
  kept : ∀ v ∈ h.entries.values, IsRead v

section Lines

variable {lines : List (List Char)} {headerLine : Nat} {h h' : Header} {k n : Yaml.Node}
  {entries : List (Yaml.Node × Yaml.Node)}

theorem contents_empty : Contents lines headerLine {} := ⟨nofun, nofun, nofun⟩

theorem ok_of_map {α β : Type} {r : HeaderResult α} {f : α → β} {b : β} (h : r.map f = .ok b) :
    ∃ a, r = .ok a ∧ f a = b := by
  cases r with
  | error e' => cases h
  | ok a => cases h; exact ⟨a, rfl, rfl⟩

theorem contents_of_readDeclarations {ds : List Declaration}
    (h : readDeclarations lines headerLine (sectionLine lines headerLine) (sectionStart lines)
      entries = .ok ds) :
    ∀ d ∈ ds, d.line = variableLine lines headerLine d.name ∧ IsRead d.value := by
  induction entries generalizing ds with
  | nil => cases h; exact nofun
  | cons entry rest ih =>
    obtain ⟨k, n⟩ := entry
    rw [readDeclarations] at h
    split at h
    · cases h
    · dsimp only at h
      split at h
      · cases h
      · rename_i hvalue
        split at h
        · cases h
        · rename_i hrest
          cases h
          exact List.forall_mem_cons.2 ⟨⟨rfl, _, n, hvalue⟩, ih hrest⟩

/-- An entry adds the declarations of the section, or a value, or neither. -/
theorem addEntry_cases (hadd : addEntry lines headerLine h k n = .ok h') :
    (h'.declarations = h.declarations ∧ h'.entries = h.entries) ∨
      (∃ entries ds, readDeclarations lines headerLine (sectionLine lines headerLine)
          (sectionStart lines) entries = .ok ds ∧
        h'.declarations = h.declarations ++ ds ∧ h'.entries = h.entries) ∨
      ∃ key line v, Value.ofNode line n = .ok v ∧
        h'.declarations = h.declarations ∧ h'.entries = h.entries.insert key v := by
  unfold addEntry at hadd
  split at hadd
  · cases hadd
  · dsimp only at hadd
    split at hadd
    case h_4 =>
      split at hadd
      · cases hadd
      · split at hadd <;> cases hadd
        exact .inl ⟨rfl, rfl⟩
    case h_5 =>
      split at hadd <;> cases hadd
      exact .inl ⟨rfl, rfl⟩
    case h_6 =>
      split at hadd
      · cases hadd
        exact .inl ⟨rfl, rfl⟩
      · obtain ⟨ds, hread, rfl⟩ := ok_of_map hadd
        exact .inr (.inl ⟨_, ds, hread, rfl, rfl⟩)
      · cases hadd
    case h_7 =>
      obtain ⟨v, hv, rfl⟩ := ok_of_map hadd
      exact .inr (.inr ⟨_, _, v, hv, rfl, rfl⟩)
    -- the other keys hold no value
    all_goals
      obtain ⟨_, _, rfl⟩ := ok_of_map hadd
      exact .inl ⟨rfl, rfl⟩

theorem Contents.addEntry (hh : Contents lines headerLine h)
    (hadd : addEntry lines headerLine h k n = .ok h') : Contents lines headerLine h' := by
  rcases addEntry_cases hadd with ⟨hds, hes⟩ | ⟨_, ds, hread, hds, hes⟩ | ⟨_, _, v, hv, hds, hes⟩
  · exact ⟨hds ▸ hh.line, hds ▸ hh.declared, hes ▸ hh.kept⟩
  · have hnew := contents_of_readDeclarations hread
    refine ⟨hds ▸ ?_, hds ▸ ?_, hes ▸ hh.kept⟩
    · exact List.forall_mem_append.2 ⟨hh.line, fun d hd => (hnew d hd).1⟩
    · exact List.forall_mem_append.2 ⟨hh.declared, fun d hd => (hnew d hd).2⟩
  · refine ⟨hds ▸ hh.line, hds ▸ hh.declared, hes ▸ ?_⟩
    intro w hw
    rcases NameMap.mem_values_insert hw with rfl | hw
    · exact ⟨_, n, hv⟩
    · exact hh.kept w hw

theorem Contents.addEntries (hh : Contents lines headerLine h)
    (hadd : addEntries lines headerLine h entries = .ok h') : Contents lines headerLine h' := by
  induction entries generalizing h with
  | nil => cases hadd; exact hh
  | cons entry rest ih =>
    obtain ⟨k, n⟩ := entry
    rw [Header.addEntries] at hadd
    split at hadd
    · cases hadd
    · rename_i hentry
      exact ih (hh.addEntry hentry) hadd

end Lines

theorem contents_of_ofText {header : List Char} {headerLine : Nat} {h : Header}
    (hok : ofText header headerLine = .ok h) : Contents (linesOf header) headerLine h := by
  unfold ofText at hok
  split at hok
  · cases hok
    exact contents_empty
  · split at hok
    · rename_i n _
      cases n with
      | null => cases hok; exact contents_empty
      | mapping entries => exact contents_empty.addEntries hok
      | flag | integer | float | text | sequence | tagged => cases hok
    · cases hok
    · cases hok

end Header

end PromptScript
