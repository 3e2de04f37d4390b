import Mathlib.Tactic.Tauto
import PromptScript.Yaml.Document

/-!
# Proofs.NodeParts

The values in a value of a YAML text, an induction over them, and the keys of its mappings: in what
is read from a text, no mapping has a key twice (`distinctKeys_of_read`).
-/

namespace PromptScript.Yaml

namespace Node

/-- A value, or something in one of its items, of its entries, or below its tag. The key of an entry
is a name and no part. -/
inductive Part : Node → Node → Prop where
  | self (n : Node) : Part n n
  | item {part n : Node} {items : List Node} : n ∈ items → Part part n → Part part (.sequence items)
  | entry {part : Node} {e : Node × Node} {entries : List (Node × Node)} :
      e ∈ entries → Part part e.2 → Part part (.mapping entries)
  | tagged {part n : Node} {tag : String} : Part part n → Part part (.tagged tag n)

mutual

/-- No mapping in the value has a key twice. -/
def distinctKeys : Node → Bool
  | .sequence items => distinctItems items
  | .mapping entries => distinctEntries entries
  | .tagged _ n => distinctKeys n
  | _ => true

def distinctItems : List Node → Bool
  | [] => true
  | n :: rest => distinctKeys n && distinctItems rest

def distinctEntries : List (Node × Node) → Bool
  | [] => true
  | (k, n) :: rest => (rest.all fun e => !e.1.same k) && distinctKeys n && distinctEntries rest

end

theorem distinctItems_iff {items : List Node} :
    distinctItems items = true ↔ ∀ n ∈ items, n.distinctKeys = true := by
  induction items with
  | nil => simp [distinctItems]
  | cons n rest ih => rw [distinctItems, Bool.and_eq_true, ih, List.forall_mem_cons]

theorem distinctEntries_iff {entries : List (Node × Node)} :
    distinctEntries entries = true ↔
      (entries.Pairwise fun a b => b.1.same a.1 = false) ∧
        ∀ e ∈ entries, e.2.distinctKeys = true := by
  induction entries with
  | nil => simp [distinctEntries]
  | cons e rest ih =>
    obtain ⟨k, n⟩ := e
    simp only [distinctEntries, Bool.and_eq_true, List.all_eq_true, Bool.not_eq_true', ih,
      List.pairwise_cons, List.forall_mem_cons]
    tauto

/-- Induction over a value and the values in it. -/
@[elab_as_elim]
theorem induction_on_parts {motive : Node → Prop} (null : motive .null)
    (flag : ∀ b, motive (.flag b)) (integer : ∀ i, motive (.integer i))
    (float : ∀ x, motive (.float x)) (text : ∀ s, motive (.text s))
    (sequence : ∀ items, (∀ n ∈ items, motive n) → motive (.sequence items))
    (mapping : ∀ entries, (∀ e ∈ entries, motive e.2) → motive (.mapping entries))
    (tagged : ∀ tag n, motive n → motive (.tagged tag n)) : ∀ n, motive n
  | .null => null
  | .flag b => flag b
  | .integer i => integer i
  | .float x => float x
  | .text s => text s
  | .sequence items => sequence items fun n _ =>
      induction_on_parts null flag integer float text sequence mapping tagged n
  | .mapping entries => mapping entries fun e he =>
      have : sizeOf e.2 < 1 + sizeOf entries := by
        have hlt := List.sizeOf_lt_of_mem he
        obtain ⟨k, n⟩ := e
        simp only [Prod.mk.sizeOf_spec] at hlt ⊢
        omega
      induction_on_parts null flag integer float text sequence mapping tagged e.2
  | .tagged tag n => tagged tag n
      (induction_on_parts null flag integer float text sequence mapping tagged n)

end Node

/-! ## Values that are read -/

open Node

theorem distinctKeys_of_readInteger? {cs : List Char} {n : Node}
    (h : Scalar.readInteger? cs = some (some n)) : n.distinctKeys = true := by
  obtain ⟨⟨negative, i⟩, -, h⟩ := Option.bind_eq_some_iff.1 h
  dsimp only at h
  unfold Scalar.ofInteger? at h
  split at h
  all_goals
    split at h
    · cases h
      rfl
    · split at h <;> cases h

theorem distinctKeys_of_ofPlain? {cs : List Char} {n : Node} (h : Scalar.ofPlain? cs = some n) :
    n.distinctKeys = true := by
  unfold Scalar.ofPlain? at h
  split at h
  · cases h
    rfl
  · split at h
    · cases h
      rfl
    · split at h
      · rename_i m hinteger
        subst h
        exact distinctKeys_of_readInteger? hinteger
      · split at h <;> cases h <;> rfl

theorem distinctKeys_of_ofTagged? {tag cs : List Char} {n : Node}
    (h : Scalar.ofTagged? tag cs = some n) : n.distinctKeys = true := by
  unfold Scalar.ofTagged? at h
  dsimp only at h
  split at h
  · obtain ⟨b, -, rfl⟩ := Option.map_eq_some_iff.1 h
    rfl
  · split at h
    · obtain ⟨m, hinteger, hm⟩ := Option.bind_eq_some_iff.1 h
      obtain rfl : m = some n := hm
      exact distinctKeys_of_readInteger? hinteger
    · split at h
      · obtain ⟨x, -, rfl⟩ := Option.map_eq_some_iff.1 h
        rfl
      · split at h
        · split at h <;> cases h
          rfl
        · cases h
          rfl

theorem distinctKeys_of_scalarNode? {marked : Bool} {tag : Option (List Char)} {text : List Char}
    {style : ScalarStyle} {n : Node} (h : Layout.scalarNode? marked tag text style = some n) :
    n.distinctKeys = true := by
  unfold Layout.scalarNode? at h
  split at h
  · exact distinctKeys_of_ofTagged? h
  · split at h
    · exact distinctKeys_of_ofPlain? h
    · cases h
      rfl

namespace Layout

variable {d : Layout} {fuel : Nat}

/-- With this much fuel, the values that are read have distinct keys, and so do the entries of a
mapping if those before do. -/
structure ReadsDistinct (d : Layout) (fuel : Nat) : Prop where
  node : ∀ {depth marked p n q}, d.node fuel depth marked p = .ok (n, q) → n.distinctKeys = true
  items : ∀ {depth p ns q}, d.items fuel depth p = .ok (ns, q) → distinctItems ns = true
  entries : ∀ {depth marked line found p es q}, distinctEntries found.reverse = true →
    d.entries fuel depth marked line found p = .ok (es, q) → distinctEntries es = true

theorem ReadsDistinct.succ_node (ih : ReadsDistinct d fuel) {depth : Nat} {marked : Bool}
    {p q : Progress} {n : Node} (h : d.node (fuel + 1) depth marked p = .ok (n, q)) :
    n.distinctKeys = true := by
  unfold Layout.node at h
  split at h
  · cases h
  · dsimp only at h
    split at h
    · cases h
    · rename_i mark _
      cases hnode : d.node fuel depth true p with
      | error f => rw [hnode] at h; cases h
      | ok r =>
        rw [hnode] at h
        cases h
        rw [distinctKeys]
        exact ih.node hnode
    · split at h
      · cases h; rfl
      · cases h; rfl
      · cases h; rfl
      · split at h
        · rename_i hscalar
          cases h
          exact distinctKeys_of_scalarNode? hscalar
        · cases h
      · split at h
        · cases h
        · split at h
          · cases h
          · split at h
            · cases h
            · rename_i hnode
              cases h
              exact ih.node hnode
      · split at h
        · cases h
        · split at h
          · cases h
          · rename_i hitems
            cases h
            rw [distinctKeys]
            exact ih.items hitems
      · split at h
        · cases h
        · split at h
          · cases h
          · rename_i hentries
            cases h
            rw [distinctKeys]
            exact ih.entries rfl hentries

theorem ReadsDistinct.succ_items (ih : ReadsDistinct d fuel) {depth : Nat} {p q : Progress}
    {ns : List Node} (h : d.items (fuel + 1) depth p = .ok (ns, q)) : distinctItems ns = true := by
  unfold Layout.items at h
  split at h
  · cases h
  · split at h
    · cases h
      rfl
    · split at h
      · cases h
      · rename_i hnode
        split at h
        · cases h
        · rename_i hitems
          cases h
          rw [distinctItems, ih.node hnode, ih.items hitems]
          rfl

theorem ReadsDistinct.succ_entries (ih : ReadsDistinct d fuel) {depth line : Nat} {marked : Bool}
    {found es : List (Node × Node)} {p q : Progress} (hfound : distinctEntries found.reverse = true)
    (h : d.entries (fuel + 1) depth marked line found p = .ok (es, q)) :
    distinctEntries es = true := by
  unfold Layout.entries at h
  split at h
  · cases h
  · split at h
    · cases h
      exact hfound
    · split at h
      · cases h
      · rename_i hkey
        split at h
        · cases h
        · rename_i hnew
          split at h
          · cases h
          · rename_i k p' v p'' hvalue
            obtain ⟨hkeys, hvalues⟩ := distinctEntries_iff.1 hfound
            refine ih.entries (distinctEntries_iff.2 ?_) h
            rw [List.reverse_cons, List.pairwise_append, List.forall_mem_append]
            refine ⟨⟨hkeys, List.pairwise_singleton .., fun a ha b hb => ?_⟩, hvalues, ?_⟩
            · rw [List.mem_singleton.1 hb, ← Bool.not_eq_true]
              exact fun hsame => hnew (List.any_eq_true.2 ⟨a, List.mem_reverse.1 ha, hsame⟩)
            · rw [List.forall_mem_singleton]
              exact ih.node hvalue

theorem readsDistinct (d : Layout) (fuel : Nat) : ReadsDistinct d fuel := by
  induction fuel with
  | zero =>
    refine ⟨fun {_ _ _ _ _} h => ?_, fun {_ _ _ _} h => ?_, fun {_ _ _ _ _ _ _} _ h => ?_⟩
    · rw [Layout.node] at h; cases h
    · rw [Layout.items] at h; cases h
    · rw [Layout.entries] at h; cases h
  | succ fuel ih => exact ⟨ih.succ_node, ih.succ_items, ih.succ_entries⟩

end Layout

/-- In what is read from a text, no mapping has a key twice. -/
theorem distinctKeys_of_read {cs : List Char} {n : Node} (h : read cs = .ok n) :
    n.distinctKeys = true := by
  unfold read at h
  dsimp only at h
  split at h
  · cases h
  · rename_i hnode
    split at h
    · cases h
    · split at h <;> cases h
      exact (Layout.readsDistinct _ _).node hnode

end PromptScript.Yaml
