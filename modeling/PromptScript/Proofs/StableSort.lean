import PromptScript.Pipeline.Engine
import PromptScript.Proofs.ByteOrder
import PromptScript.Proofs.PipelineMeaning
import PromptScript.Proofs.Sorting

/-!
# Proofs.StableSort

What `sort` does to the candidates of a pipeline. The result is in order (`Precedes`, by the bytes
of the keys), and items that are equal under all keys stand in it as they did before; there is only
one such list (`StablySorted.eq`). An argument that names no key ends the pipeline
(`sort_is_stable`).

* `filter_insertionSort`, `eq_of_filter_ties`: stability and uniqueness, for any comparison.
* `compareBy_eq_lt_iff`: the comparison of items, key by key.
-/

namespace PromptScript

/-! ## Comparisons -/

section Comparisons

variable {α : Type} {cmp : α → α → Ordering}

/-- Whether a comparison lets the first of two values stand before the second. -/
abbrev Admits (cmp : α → α → Ordering) (a b : α) : Prop := (cmp a b).isLE = true

/-- Whether a comparison cannot tell two values apart. -/
def ties (cmp : α → α → Ordering) (a b : α) : Bool := cmp a b == .eq

variable [Std.TransCmp cmp]

theorem ties_iff {a b : α} : ties cmp a b = true ↔ Admits cmp a b ∧ Admits cmp b a := by
  have hswap : cmp b a = (cmp a b).swap := Std.OrientedCmp.eq_swap
  rw [ties, beq_iff_eq, Admits, Admits, hswap]
  cases cmp a b <;> simp

theorem ties_self (a : α) : ties cmp a a = true := by
  simp [ties, Std.ReflCmp.compare_self]

instance : Std.Total (Admits cmp) where
  total a b := by
    have hswap : cmp b a = (cmp a b).swap := Std.OrientedCmp.eq_swap
    rw [Admits, Admits, hswap]
    cases cmp a b <;> simp

instance : IsTrans α (Admits cmp) where
  trans _ _ _ := Std.TransCmp.isLE_trans

/-- Sorting keeps the order of values that tie. -/
theorem filter_insertionSort (l : List α) (a : α) :
    (l.insertionSort (Admits cmp)).filter (ties cmp a) = l.filter (ties cmp a) := by
  have hadmits : (l.filter (ties cmp a)).Pairwise (Admits cmp) := by
    refine List.pairwise_of_forall_mem_list fun b hb c hc => ?_
    have hb := ties_iff.1 (List.mem_filter.1 hb).2
    have hc := ties_iff.1 (List.mem_filter.1 hc).2
    exact IsTrans.trans _ _ _ hb.2 hc.1
  have hsub : (l.filter (ties cmp a)).Sublist (l.insertionSort (Admits cmp)) :=
    List.sublist_insertionSort hadmits List.filter_sublist
  have hclass : (l.filter (ties cmp a)).Sublist
      ((l.insertionSort (Admits cmp)).filter (ties cmp a)) := by
    simpa using hsub.filter (ties cmp a)
  have hperm := (List.perm_insertionSort (Admits cmp) l).filter (ties cmp a)
  exact (hclass.eq_of_length hperm.length_eq.symm).symm

theorem mem_iff_of_filter_ties {s t : List α}
    (h : ∀ a, s.filter (ties cmp a) = t.filter (ties cmp a)) (a : α) : a ∈ s ↔ a ∈ t := by
  have hclass : a ∈ s.filter (ties cmp a) ↔ a ∈ t.filter (ties cmp a) := by rw [h a]
  simpa [ties_self] using hclass

/-- Two lists in order are the same if the values that tie stand in them in the same order. -/
theorem eq_of_filter_ties {s t : List α} (hs : s.Pairwise (Admits cmp))
    (ht : t.Pairwise (Admits cmp)) (h : ∀ a, s.filter (ties cmp a) = t.filter (ties cmp a)) :
    s = t := by
  have hmem := mem_iff_of_filter_ties h
  induction s generalizing t with
  | nil => exact (List.eq_nil_iff_forall_not_mem.2 fun a ha => by simpa using (hmem a).2 ha).symm
  | cons a s ih =>
    cases t with
    | nil => simpa using (hmem a).1 List.mem_cons_self
    | cons b t =>
      -- each of the first values stands somewhere in the other list, so they tie
      have hab : Admits cmp a b := by
        rcases List.mem_cons.1 ((hmem b).2 List.mem_cons_self) with rfl | hb
        · exact Std.ReflCmp.isLE_rfl
        · exact List.rel_of_pairwise_cons hs hb
      have hba : Admits cmp b a := by
        rcases List.mem_cons.1 ((hmem a).1 List.mem_cons_self) with rfl | ha
        · exact Std.ReflCmp.isLE_rfl
        · exact List.rel_of_pairwise_cons ht ha
      have hfirst := h a
      rw [List.filter_cons_of_pos (ties_self a),
        List.filter_cons_of_pos (ties_iff.2 ⟨hab, hba⟩)] at hfirst
      obtain rfl : a = b := (List.cons.inj hfirst).1
      have hrest : ∀ c, s.filter (ties cmp c) = t.filter (ties cmp c) := by
        intro c
        have hc := h c
        rw [List.filter_cons, List.filter_cons] at hc
        split at hc
        · exact (List.cons.inj hc).2
        · exact hc
      rw [ih hs.of_cons ht.of_cons hrest (mem_iff_of_filter_ties hrest)]

end Comparisons

/-! ## Orders on items -/

/-- The part of an item that a key looks at, in bytes. -/
def SortKey.bytes (k : SortKey) (item : String) : Bytes := textBytes (k.extract item)

namespace SortOrder

/-- The argument that asks for an order. -/
def argument (o : SortOrder) : String := (if o.descending then "-" else "") ++ o.key.word

theorem ofArgument?_eq_some_iff {s : String} {o : SortOrder} :
    ofArgument? s = some o ↔ s = o.argument := by
  constructor
  · intro h
    have hword : ∀ (word : List Char) (descending : Bool),
        ((SortKey.all.find? fun k => k.word.toList == word).map fun k =>
          (⟨k, descending⟩ : SortOrder)) = some o →
            o.descending = descending ∧ o.key.word.toList = word := by
      intro word descending hfind
      obtain ⟨k, hk, rfl⟩ := Option.map_eq_some_iff.1 hfind
      exact ⟨rfl, by simpa using List.find?_some hk⟩
    rw [ofArgument?] at h
    rw [← String.toList_inj, argument, String.toList_append]
    split at h
    · rename_i word hs
      obtain ⟨hdescending, hkey⟩ := hword word true h
      rw [hs, hdescending, hkey]
      rfl
    · obtain ⟨hdescending, hkey⟩ := hword _ false h
      rw [hdescending, hkey]
      rfl
  · rintro rfl
    obtain ⟨key, descending⟩ := o
    cases key <;> cases descending <;> decide

/-- Whether an order puts `a` before `b`. -/
def Before (o : SortOrder) (a b : String) : Prop :=
  if o.descending then o.key.bytes b < o.key.bytes a else o.key.bytes a < o.key.bytes b

theorem compareParts_descending {k : SortKey} {a b : String} :
    compareParts ⟨k, true⟩ a b = compareParts ⟨k, false⟩ b a := Std.OrientedCmp.eq_swap.symm

theorem compareParts_eq_lt_iff {o : SortOrder} {a b : String} :
    o.compareParts a b = .lt ↔ o.Before a b := by
  obtain ⟨k, descending⟩ := o
  cases descending with
  | false => exact compare_eq_lt_iff.trans utf8_lt_iff.symm
  | true =>
    rw [compareParts_descending]
    exact compare_eq_lt_iff.trans utf8_lt_iff.symm

theorem compareParts_eq_eq_iff {o : SortOrder} {a b : String} :
    o.compareParts a b = .eq ↔
      o.key.bytes a = o.key.bytes b := by
  obtain ⟨k, descending⟩ := o
  cases descending with
  | false => exact Std.compare_eq_iff_eq.trans utf8_inj.symm
  | true =>
    rw [compareParts_descending, eq_comm (a := SortKey.bytes _ _)]
    exact Std.compare_eq_iff_eq.trans utf8_inj.symm

instance (o : SortOrder) : Std.TransCmp o.compareParts := by
  obtain ⟨k, descending⟩ := o
  have hascending : Std.TransCmp (compareParts ⟨k, false⟩) :=
    inferInstanceAs (Std.TransCmp (compareOn fun item => (k.extract item).toList))
  cases descending with
  | false => exact hascending
  | true =>
    have hopposite : compareParts ⟨k, true⟩ = fun a b => compareParts ⟨k, false⟩ b a :=
      funext fun _ => funext fun _ => compareParts_descending
    rw [hopposite]
    infer_instance

end SortOrder

instance transCmp_compareBy (orders : List SortOrder) : Std.TransCmp (compareBy orders) := by
  induction orders with
  | nil => exact { eq_swap := rfl, isLE_trans := fun _ _ => rfl }
  | cons o rest ih =>
    exact inferInstanceAs (Std.TransCmp (compareLex o.compareParts (compareBy rest)))

/-- The first of the orders on which two items differ puts `a` before `b`. -/
inductive Precedes (a b : String) : List SortOrder → Prop where
  | here {o : SortOrder} {rest : List SortOrder} : o.Before a b → Precedes a b (o :: rest)
  | later {o : SortOrder} {rest : List SortOrder} :
      o.key.bytes a = o.key.bytes b → Precedes a b rest → Precedes a b (o :: rest)

/-- Whether two items are equal under all keys. -/
def tied (orders : List SortOrder) (a b : String) : Bool :=
  orders.all fun o => o.key.bytes a == o.key.bytes b

theorem compareBy_cons (o : SortOrder) (rest : List SortOrder) (a b : String) :
    compareBy (o :: rest) a b =
      (o.compareParts a b).then (compareBy rest a b) := rfl

theorem compareBy_eq_lt_iff {orders : List SortOrder} {a b : String} :
    compareBy orders a b = .lt ↔ Precedes a b orders := by
  induction orders with
  | nil => exact ⟨nofun, nofun⟩
  | cons o rest ih =>
    rw [compareBy_cons, Ordering.then_eq_lt, ih, SortOrder.compareParts_eq_lt_iff,
      SortOrder.compareParts_eq_eq_iff]
    constructor
    · rintro (hbefore | ⟨hequal, hrest⟩)
      · exact .here hbefore
      · exact .later hequal hrest
    · rintro (hbefore | ⟨hequal, hrest⟩)
      · exact .inl hbefore
      · exact .inr ⟨hequal, hrest⟩

theorem admits_compareBy_iff {orders : List SortOrder} {a b : String} :
    Admits (compareBy orders) a b ↔ ¬ Precedes b a orders := by
  rw [← compareBy_eq_lt_iff, Admits, Ordering.isLE_iff_ne_gt, Std.OrientedCmp.gt_iff_lt]

theorem ties_compareBy (orders : List SortOrder) : ties (compareBy orders) = tied orders := by
  funext a b
  rw [Bool.eq_iff_iff, ties, beq_iff_eq]
  induction orders with
  | nil => exact iff_of_true rfl rfl
  | cons o rest ih =>
    rw [compareBy_cons, Ordering.then_eq_eq, ih, SortOrder.compareParts_eq_eq_iff]
    simp [tied]

/-! ## Sorted items -/

/-- Without any order, items are sorted by their paths. -/
def orPath (orders : List SortOrder) : List SortOrder :=
  if orders.isEmpty then [⟨.path, false⟩] else orders

theorem sortItems_eq (orders : List SortOrder) (items : List String) :
    sortItems orders items = items.insertionSort (Admits (compareBy (orPath orders))) :=
  sortBy_eq_insertionSort _ items

/-- The items in an order that leaves those which it cannot tell apart as they were. -/
structure StablySorted (orders : List SortOrder) (items sorted : List String) : Prop where
  perm : sorted.Perm items
  ordered : sorted.Pairwise fun a b => ¬ Precedes b a orders
  stable : ∀ item, sorted.filter (tied orders item) = items.filter (tied orders item)

theorem stablySorted_sortItems (orders : List SortOrder) (items : List String) :
    StablySorted (orPath orders) items (sortItems orders items) where
  perm := sortItems_perm orders items
  ordered := by
    rw [sortItems_eq]
    exact (List.pairwise_insertionSort _ items).imp admits_compareBy_iff.1
  stable item := by
    rw [sortItems_eq, ← ties_compareBy]
    exact filter_insertionSort items item

theorem StablySorted.eq {orders : List SortOrder} {items s t : List String}
    (hs : StablySorted orders items s) (ht : StablySorted orders items t) : s = t := by
  have hclasses : ∀ item, s.filter (ties (compareBy orders) item) =
      t.filter (ties (compareBy orders) item) := by
    intro item
    rw [ties_compareBy, hs.stable, ht.stable]
  exact eq_of_filter_ties (hs.ordered.imp admits_compareBy_iff.2)
    (ht.ordered.imp admits_compareBy_iff.2) hclasses

/-! ## The verb -/

theorem readOrders_map_argument (orders : List SortOrder) :
    readOrders (orders.map SortOrder.argument) = .ok orders := by
  induction orders with
  | nil => rfl
  | cons o rest ih =>
    rw [List.map_cons, readOrders, SortOrder.ofArgument?_eq_some_iff.2 rfl]
    dsimp only
    rw [ih]

/-- Arguments are read up to the first that names no order. -/
theorem readOrders_of_bad (earlier : List SortOrder) {bad : String}
    (hbad : ∀ o : SortOrder, bad ≠ o.argument) (later : List String) :
    readOrders (earlier.map SortOrder.argument ++ bad :: later) =
      .error (.invalidArgument bad) := by
  induction earlier with
  | nil =>
    have hnone : SortOrder.ofArgument? bad = none :=
      Option.eq_none_iff_forall_ne_some.2 fun o ho =>
        hbad o (SortOrder.ofArgument?_eq_some_iff.1 ho)
    rw [List.map_nil, List.nil_append, readOrders, hnone]
  | cons o rest ih =>
    rw [List.map_cons, List.cons_append, readOrders, SortOrder.ofArgument?_eq_some_iff.2 rfl]
    dsimp only
    rw [ih]

/-- Arguments all ask for orders, or one of them is the first that does not. -/
theorem arguments_cases (arguments : List String) :
    (∃ orders : List SortOrder, arguments = orders.map SortOrder.argument) ∨
      ∃ (earlier : List SortOrder) (bad : String) (later : List String),
        arguments = earlier.map SortOrder.argument ++ bad :: later ∧
          ∀ o : SortOrder, bad ≠ o.argument := by
  induction arguments with
  | nil => exact .inl ⟨[], rfl⟩
  | cons s rest ih =>
    by_cases hs : ∃ o : SortOrder, s = o.argument
    · obtain ⟨o, rfl⟩ := hs
      rcases ih with ⟨orders, rfl⟩ | ⟨earlier, bad, later, rfl, hbad⟩
      · exact .inl ⟨o :: orders, rfl⟩
      · exact .inr ⟨o :: earlier, bad, later, rfl, hbad⟩
    · exact .inr ⟨[], s, rest, rfl, fun o ho => hs ⟨o, ho⟩⟩

section Runs

variable {ε : Type} {invoker : Invoker ε} {o : PipelineOutput} {p : Progress ε}

theorem runVerbs_sort (hp : p.cancelled = false) (orders : List SortOrder) (rest : List Verb) :
    runVerbs invoker o p (.sort (orders.map SortOrder.argument) :: rest) =
      runVerbs invoker (o.listing (sortItems orders o.candidates)) p rest := by
  refine runVerbs_cons_of_ok hp ?_ rest
  rw [runVerb, readOrders_map_argument]

theorem runVerbs_sort_of_bad (hp : p.cancelled = false) (earlier : List SortOrder) {bad : String}
    (hbad : ∀ order : SortOrder, bad ≠ order.argument) (later : List String) (rest : List Verb) :
    runVerbs invoker o p (.sort (earlier.map SortOrder.argument ++ bad :: later) :: rest) =
      (.error (.invalidArgument bad), p) := by
  refine runVerbs_cons_of_error hp ?_ rest
  rw [runVerb, readOrders_of_bad earlier hbad]

end Runs

/-- Arguments that all ask for orders leave the candidates sorted by them, stably, in the only way
there is, and the text lists them. Otherwise the pipeline fails with the first argument that asks
for none. -/
theorem sort_is_stable {ε : Type} (invoker : Invoker ε) (o : PipelineOutput) (p : Progress ε)
    (hp : p.cancelled = false) (arguments : List String) (rest : List Verb) :
    (∀ orders : List SortOrder, arguments = orders.map SortOrder.argument →
      ∃ sorted, StablySorted (orPath orders) o.candidates sorted ∧
        (∀ other, StablySorted (orPath orders) o.candidates other → other = sorted) ∧
          runVerbs invoker o p (.sort arguments :: rest) =
            runVerbs invoker { o with text := joinTexts ", " sorted, candidates := sorted } p
              rest) ∧
      ((∀ orders : List SortOrder, arguments ≠ orders.map SortOrder.argument) →
        ∃ (earlier : List SortOrder) (bad : String) (later : List String),
          arguments = earlier.map SortOrder.argument ++ bad :: later ∧
            (∀ order : SortOrder, bad ≠ order.argument) ∧
              runVerbs invoker o p (.sort arguments :: rest) =
                (.error (.invalidArgument bad), p)) := by
  constructor
  · rintro orders rfl
    have hsorted := stablySorted_sortItems orders o.candidates
    exact ⟨sortItems orders o.candidates, hsorted, fun other hother => hother.eq hsorted,
      runVerbs_sort hp orders rest⟩
  · intro hnone
    rcases arguments_cases arguments with ⟨orders, horders⟩ | ⟨earlier, bad, later, rfl, hbad⟩
    · exact absurd horders (hnone orders)
    · exact ⟨earlier, bad, later, rfl, hbad, runVerbs_sort_of_bad hp earlier hbad later rest⟩

/-- Two of the paths are equal under both keys, and one of the arguments names none. -/
theorem sort_is_stable_ties :
    ({} : Progress String).cancelled = false ∧
      StablySorted [⟨.extension, false⟩, ⟨.name, true⟩] ["x/a.rs", "b.md", "y/c.rs", "w/a.rs"]
        ["b.md", "y/c.rs", "x/a.rs", "w/a.rs"] ∧
      runVerbs onceOnly { candidates := ["x/a.rs", "b.md", "y/c.rs", "w/a.rs"] } {}
          [.sort ["extension", "-name"]] =
        (.ok ⟨"b.md, y/c.rs, x/a.rs, w/a.rs", ["b.md", "y/c.rs", "x/a.rs", "w/a.rs"], []⟩, {}) ∧
      runVerbs onceOnly { candidates := ["x/a.rs"] } {} [.sort ["-name", "mtime", "size"]] =
        (.error (.invalidArgument "mtime"), {}) := by
  have hmtime : ∀ o : SortOrder, "mtime" ≠ o.argument := by
    intro ⟨key, descending⟩
    cases key <;> cases descending <;> decide
  obtain ⟨sorted, hsorted, hunique, hrun⟩ := (sort_is_stable onceOnly
    { candidates := ["x/a.rs", "b.md", "y/c.rs", "w/a.rs"] } {} rfl ["extension", "-name"] []).1
    [⟨.extension, false⟩, ⟨.name, true⟩] (by decide)
  obtain rfl : ["b.md", "y/c.rs", "x/a.rs", "w/a.rs"] = sorted := by
    rw [← hunique _ (stablySorted_sortItems _ _)]
    decide +kernel
  obtain ⟨earlier, bad, later, heq, hbad, hfail⟩ := (sort_is_stable onceOnly
    { candidates := ["x/a.rs"] } {} rfl ["-name", "mtime", "size"] []).2 (by
      intro orders horders
      have hmem : "mtime" ∈ orders.map SortOrder.argument := horders ▸ (by decide)
      obtain ⟨o, _, ho⟩ := List.mem_map.1 hmem
      exact hmtime o ho.symm)
  obtain rfl : "mtime" = bad := by
    match earlier, heq with
    | [], heq => exact absurd (List.cons.inj heq).1.symm (hbad ⟨.name, true⟩)
    | [_], heq => exact (List.cons.inj (List.cons.inj heq).2).1
    | _ :: o :: _, heq => exact absurd (List.cons.inj (List.cons.inj heq).2).1 (hmtime o)
  exact ⟨rfl, hsorted, hrun, hfail⟩

end PromptScript
