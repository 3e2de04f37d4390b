import PromptScript.Proofs.CancelledPipelines
import PromptScript.Proofs.CheckedRuns
import PromptScript.Proofs.StableSort

/-!
# Proofs.FilteredSort

Filtering and sorting, in either order. Whatever is dropped from items that are stably sorted, the
others stay so (`StablySorted.filter`), and there is only one way to sort them. Two lists of verbs
that come to the same in every run can stand for each other inside any other list
(`SameRuns.within`); a `grep` and a `sort` next to each other can change places
(`filtering_commutes_with_sorting`).
-/

namespace PromptScript

/-! ## Items -/

theorem StablySorted.filter {orders : List SortOrder} {items sorted : List String}
    (h : StablySorted orders items sorted) (keep : String → Bool) :
    StablySorted orders (items.filter keep) (sorted.filter keep) where
  perm := h.perm.filter keep
  ordered := h.ordered.filter keep
  stable item := by
    rw [List.filter_comm, h.stable, List.filter_comm]

theorem sortItems_filter (orders : List SortOrder) (items : List String) (keep : String → Bool) :
    sortItems orders (items.filter keep) = (sortItems orders items).filter keep :=
  (stablySorted_sortItems orders (items.filter keep)).eq
    ((stablySorted_sortItems orders items).filter keep)

/-! ## Verbs that come to the same -/

/-- In every run the one list of verbs comes to the same as the other and starts the same things. -/
def SameRuns (verbs others : List Verb) : Prop :=
  ∀ (ε : Type) (invoker : Invoker ε) (o : PipelineOutput) (p : Progress ε),
    runVerbs invoker o p verbs = runVerbs invoker o p others

namespace SameRuns

variable {verbs others : List Verb}

theorem append_left (h : SameRuns verbs others) (before : List Verb) :
    SameRuns (before ++ verbs) (before ++ others) := by
  intro ε invoker o p
  rcases hbefore : runVerbs invoker o p before with ⟨e | o₁, q⟩
  · rw [runVerbs_append_of_error hbefore, runVerbs_append_of_error hbefore]
  · rw [runVerbs_append hbefore, runVerbs_append hbefore, h]

theorem append_right (h : SameRuns verbs others) (after : List Verb) :
    SameRuns (verbs ++ after) (others ++ after) := by
  intro ε invoker o p
  rcases hverbs : runVerbs invoker o p verbs with ⟨e | o₁, q⟩
  · rw [runVerbs_append_of_error hverbs,
      runVerbs_append_of_error ((h ε invoker o p).symm.trans hverbs)]
  · rw [runVerbs_append hverbs, runVerbs_append ((h ε invoker o p).symm.trans hverbs)]

/-- Verbs that come to the same do so inside any pipeline. -/
theorem within (h : SameRuns verbs others) (before after : List Verb) :
    SameRuns (before ++ (verbs ++ after)) (before ++ (others ++ after)) :=
  (h.append_right after).append_left before

end SameRuns

/-! ## A `grep` and a `sort` -/

section Exchange

variable {ε : Type} {invoker : Invoker ε} {o : PipelineOutput} {p : Progress ε}
  {patterns : List String} {ps : List Pattern}

theorem runVerbs_grep (hp : p.cancelled = false) (hpatterns : readPatterns patterns = .ok ps)
    (rest : List Verb) :
    runVerbs invoker o p (.grep patterns :: rest) =
      runVerbs invoker (o.listing (o.candidates.filter (Verb.grep patterns).keeps)) p rest := by
  have hkept : grepItems ps o.candidates = o.candidates.filter (Verb.grep patterns).keeps :=
    List.filter_congr fun item _ => readPatterns_eq_ok hpatterns item
  refine runVerbs_cons_of_ok hp ?_ rest
  rw [runVerb, hpatterns]
  dsimp only
  rw [hkept]

/-- Both verbs leave the token as it is and list what they leave, so only the last list counts. -/
theorem sameRuns_grep_sort (hpatterns : readPatterns patterns = .ok ps)
    (orders : List SortOrder) :
    SameRuns [.grep patterns, .sort (orders.map SortOrder.argument)]
      [.sort (orders.map SortOrder.argument), .grep patterns] := by
  intro ε invoker o p
  cases hp : p.cancelled with
  | true => rw [runVerbs, if_pos hp, runVerbs, if_pos hp]
  | false =>
    rw [runVerbs_grep hp hpatterns, runVerbs_sort hp, runVerbs_sort hp, runVerbs_grep hp hpatterns]
    dsimp only [PipelineOutput.listing]
    rw [sortItems_filter]

end Exchange

/-- Over items of a pipeline that is not cancelled, a `grep` with readable patterns and a `sort`
leave the kept items in order, whichever comes first, and in the run of any pipeline they can
change places. -/
theorem filtering_commutes_with_sorting {patterns : List String}
    (hpatterns : ∀ pattern ∈ patterns, IsPattern pattern) (orders : List SortOrder) :
    let grep := Verb.grep patterns
    let sort := Verb.sort (orders.map SortOrder.argument)
    (∀ {ε : Type} (invoker : Invoker ε) (items : List String) (p : Progress ε),
      p.cancelled = false →
        ∃ o, StablySorted (orPath orders) (items.filter grep.keeps) o.candidates ∧
          o.text = joinTexts ", " o.candidates ∧ o.failures = [] ∧
          runVerbs invoker { candidates := items } p [grep, sort] = (.ok o, p) ∧
          runVerbs invoker { candidates := items } p [sort, grep] = (.ok o, p)) ∧
      ∀ (a b : Action) (before after : List Verb), a.verbs = before ++ grep :: sort :: after →
        b.verbs = before ++ sort :: grep :: after →
          ∀ {ε : Type} (invoker : Invoker ε) (items : List String) (p : Progress ε),
            runPipeline invoker a items p = runPipeline invoker b items p := by
  intro grep sort
  obtain ⟨ps, hps⟩ := readPatterns_of_isPattern hpatterns
  have hsame : SameRuns [grep, sort] [sort, grep] := sameRuns_grep_sort hps orders
  constructor
  · intro ε invoker items p hp
    have hrun : runVerbs invoker { candidates := items } p [grep, sort] =
        (.ok (PipelineOutput.listing { candidates := items }
          (sortItems orders (items.filter grep.keeps))), p) := by
      rw [runVerbs_grep hp hps, runVerbs_sort hp]
      rfl
    exact ⟨_, stablySorted_sortItems orders _, rfl, rfl, hrun,
      (hsame ε invoker _ p).symm.trans hrun⟩
  · intro a b before after ha hb ε invoker items p
    rw [runPipeline, runPipeline, ha, hb]
    exact hsame.within before after ε invoker _ p

/-- Two of the candidates are the same, and all that are kept are equal under the key. -/
theorem filtering_commutes_with_sorting_ties :
    (∀ pattern ∈ ["/a", "c.rs$"], IsPattern pattern) ∧
      runVerbs onceOnly { candidates := ["x/c.rs", "b.md", "x/a.rs", "x/c.rs"] } {}
          [.grep ["/a", "c.rs$"], .sort ["-extension"]] =
        (.ok ⟨"x/c.rs, x/a.rs, x/c.rs", ["x/c.rs", "x/a.rs", "x/c.rs"], []⟩, {}) ∧
      runPipeline onceOnly
          ⟨"", [.prompt "m", .grep ["/a", "c.rs$"], .sort ["-extension"], .xargs ["f"]],
            List.cons_ne_nil _ _⟩ ["x/c.rs", "b.md", "x/a.rs", "x/c.rs"] {} =
        runPipeline onceOnly
          ⟨"", [.prompt "m", .sort ["-extension"], .grep ["/a", "c.rs$"], .xargs ["f"]],
            List.cons_ne_nil _ _⟩ ["x/c.rs", "b.md", "x/a.rs", "x/c.rs"] {} := by
  have hpatterns : ∀ pattern ∈ ["/a", "c.rs$"], IsPattern pattern := by decide +kernel
  obtain ⟨hboth, hwithin⟩ :=
    filtering_commutes_with_sorting hpatterns [⟨.extension, true⟩]
  refine ⟨hpatterns, ?_, hwithin _ _ [.prompt "m"] [.xargs ["f"]] rfl rfl onceOnly _ _⟩
  obtain ⟨o, hsorted, htext, hfailures, hrun, _⟩ :=
    hboth onceOnly ["x/c.rs", "b.md", "x/a.rs", "x/c.rs"] {} rfl
  have hcandidates : o.candidates = ["x/c.rs", "x/a.rs", "x/c.rs"] := by
    rw [hsorted.eq (stablySorted_sortItems _ _)]
    decide +kernel
  obtain ⟨text, candidates, failures⟩ := o
  cases hcandidates
  cases hfailures
  dsimp only at htext
  subst htext
  exact hrun

end PromptScript
