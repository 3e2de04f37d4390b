import Mathlib.Data.List.Induction
import PromptScript.Proofs.Cancelled
import PromptScript.Proofs.PipelineMeaning
import PromptScript.Proofs.SymbolTable

/-!
# Proofs.Invocations

Which candidates a pipeline hands over, and what it reports of them. Every `xargs` before the first
verb with a fault hands over the candidates that it holds, in their order (`invocations`). How an
invocation ends changes neither the ones after it nor their results; the failed ones are reported in
the order in which they were made, and the error of a pipeline is its first fault
(`pipeline_invocations`).
-/

namespace PromptScript

/-! ## Bindings -/

theorem NameMap.ofList_concat {α : Type u} (pairs : List (String × α)) (name : String) (value : α) :
    ofList (pairs ++ [(name, value)]) = (ofList pairs).insert name value := by
  rw [ofList, List.foldl_append]
  rfl

/-- Of several pairs with one name the last one counts. -/
theorem NameMap.get?_ofList_eq_some_iff_last {α : Type u} {pairs : List (String × α)} {name : String}
    {value : α} :
    (ofList pairs).get? name = some value ↔ ∃ i : Nat, pairs[i]? = some (name, value) ∧
      ∀ j, i < j → ∀ other, pairs[j]? ≠ some (name, other) := by
  induction pairs using List.reverseRecOn with
  | nil => simp [ofList, get?, find?, empty]
  | append_singleton pairs e ih =>
    obtain ⟨k, v⟩ := e
    rw [ofList_concat, get?_insert]
    split
    · rename_i hname
      subst hname
      constructor
      · rintro ⟨⟩
        refine ⟨pairs.length, List.getElem?_concat_length, ?_⟩
        intro j hj other hother
        have hlength := (List.getElem?_eq_some_iff.1 hother).1
        rw [List.length_append, List.length_singleton] at hlength
        omega
      · rintro ⟨i, hi, hlast⟩
        rcases Nat.lt_or_ge i pairs.length with hlt | hge
        · exact absurd List.getElem?_concat_length (hlast _ hlt v)
        · have hlength := (List.getElem?_eq_some_iff.1 hi).1
          rw [List.length_append, List.length_singleton] at hlength
          obtain rfl : i = pairs.length := by omega
          rw [List.getElem?_concat_length] at hi
          cases hi
          rfl
    · rename_i hname
      -- a pair with another name is at no position of interest
      have hkeep : ∀ (i : Nat) w,
          (pairs ++ [(k, v)])[i]? = some (name, w) ↔ pairs[i]? = some (name, w) := by
        intro i w
        rcases Nat.lt_trichotomy i pairs.length with hlt | rfl | hgt
        · rw [List.getElem?_append_left hlt]
        · rw [List.getElem?_concat_length, List.getElem?_eq_none (Nat.le_refl _)]
          simp [Ne.symm hname]
        · rw [List.getElem?_eq_none (by simp; omega), List.getElem?_eq_none (by omega)]
      rw [ih]
      simp only [hkeep, ne_eq]

/-- A variable is bound to the facet at its last position among the first five. -/
theorem bindings_ofItem_iff (names : List String) (item name facet : String) :
    (Invocation.ofItem names item).bindings.get? name = some facet ↔
      ∃ i : Nat, names[i]? = some name ∧ (Facets.ofItem item).toList[i]? = some facet ∧
        ∀ j, i < j → j < 5 → names[j]? ≠ some name := by
  have hlater : ∀ j, (∀ other,
      (names.zip (Facets.ofItem item).toList)[j]? ≠ some (name, other)) ↔
        (j < 5 → names[j]? ≠ some name) := by
    intro j
    simp only [ne_eq, List.getElem?_zip_eq_some, not_and]
    constructor
    · intro h hj hname
      exact h _ hname (List.getElem?_eq_getElem (by simpa [Facets.toList] using hj))
    · intro h other hname hfacet
      have hj := (List.getElem?_eq_some_iff.1 hfacet).1
      exact h (by simpa [Facets.toList] using hj) hname
  rw [Invocation.ofItem]
  dsimp only
  rw [NameMap.get?_ofList_eq_some_iff_last]
  simp only [hlater, List.getElem?_zip_eq_some, and_assoc]

/-! ## What is handed over -/

/-- Why a pattern cannot be searched for. -/
def patternFault? (pattern : String) : Option PipelineError :=
  match Pattern.read pattern with
  | .ok _ => none
  | .error fault => some (.invalidPattern pattern fault)

/-- Why an argument is no order. -/
def argumentFault? (argument : String) : Option PipelineError :=
  match SortOrder.ofArgument? argument with
  | some _ => none
  | none => some (.invalidArgument argument)

namespace Verb

/-- The first fault of a verb, whatever candidates it holds. -/
def fault? : Verb → Option PipelineError
  | .grep patterns => patterns.findSome? patternFault?
  | .sort arguments => arguments.findSome? argumentFault?
  | _ => none

/-- The candidates after a verb that held these. -/
def leaves (items : List String) : Verb → List String
  | .grep patterns => items.filter fun item => patterns.any (matchesItem item)
  | .sort arguments => sortItems (arguments.filterMap SortOrder.ofArgument?) items
  | _ => items

/-- The invocations for the candidates that a verb holds. -/
def invocations (items : List String) : Verb → List Invocation
  | .xargs names => items.map (Invocation.ofItem names)
  | _ => []

end Verb

/-- The invocations of verbs in order, up to the first verb with a fault. -/
def invocations (items : List String) : List Verb → List Invocation
  | [] => []
  | v :: rest =>
    if v.fault?.isSome then [] else v.invocations items ++ invocations (v.leaves items) rest

namespace Invoker

variable {ε : Type} (invoker : Invoker ε)

/-- The item of each invocation with the answer to it, `none` if none is given; an invocation is made
after the log shows the ones before it. -/
def outcomes (log : List ε) : List Invocation → List (String × Option (Except InvokeError String))
  | [] => []
  | i :: rest => (i.item, (invoker.invoke log i).result?) :: outcomes (log ++ [invoker.event i]) rest

theorem outcomes_append (log : List ε) (made more : List Invocation) :
    invoker.outcomes log (made ++ more) =
      invoker.outcomes log made ++ invoker.outcomes (log ++ made.map invoker.event) more := by
  induction made generalizing log with
  | nil => rw [List.map_nil, List.append_nil]; rfl
  | cons i rest ih =>
    rw [List.cons_append, outcomes, outcomes, ih, List.map_cons, List.append_assoc]
    rfl

theorem outcomes_map_ofItem (names : List String) (log : List ε) (items : List String) :
    invoker.outcomes log (items.map (Invocation.ofItem names)) = invoker.answers names log items := by
  induction items generalizing log with
  | nil => rfl
  | cons item rest ih =>
    rw [List.map_cons, outcomes, answers, ih]
    rfl

/-- An answer depends on the invocations before it, and not on how these ended. -/
theorem getElem?_outcomes (log : List ε) (made : List Invocation) (k : Nat) :
    (invoker.outcomes log made)[k]? = made[k]?.map fun i =>
      (i.item, (invoker.invoke (log ++ (made.take k).map invoker.event) i).result?) := by
  induction made generalizing log k with
  | nil => rfl
  | cons i rest ih =>
    cases k with
    | zero => simp [outcomes]
    | succ k => simp [outcomes, ih]

end Invoker

/-! ## One verb -/

theorem findSome?_patternFault? (patterns : List String) :
    patterns.findSome? patternFault? =
      match readPatterns patterns with
      | .ok _ => none
      | .error e => some e := by
  induction patterns with
  | nil => rfl
  | cons pattern rest ih =>
    rw [List.findSome?_cons, readPatterns, readPattern, patternFault?]
    cases Pattern.read pattern with
    | error fault => rfl
    | ok p =>
      dsimp only
      rw [ih]
      cases readPatterns rest <;> rfl

theorem findSome?_argumentFault? (arguments : List String) :
    arguments.findSome? argumentFault? =
      match readOrders arguments with
      | .ok _ => none
      | .error e => some e := by
  induction arguments with
  | nil => rfl
  | cons argument rest ih =>
    rw [List.findSome?_cons, readOrders, argumentFault?]
    cases SortOrder.ofArgument? argument with
    | none => rfl
    | some o =>
      dsimp only
      rw [ih]
      cases readOrders rest <;> rfl

theorem readOrders_eq_ok {arguments : List String} {os : List SortOrder}
    (h : readOrders arguments = .ok os) : os = arguments.filterMap SortOrder.ofArgument? := by
  induction arguments generalizing os with
  | nil => cases h; rfl
  | cons argument rest ih =>
    rw [readOrders] at h
    cases horder : SortOrder.ofArgument? argument with
    | none => rw [horder] at h; cases h
    | some o =>
      rw [horder] at h
      dsimp only at h
      split at h
      · cases h
      · rename_i hrest
        cases h
        rw [List.filterMap_cons_some horder, ← ih hrest]

section Pipelines

variable {ε : Type} {invoker : Invoker ε} {o o₁ o' : PipelineOutput} {p p₁ q : Progress ε}

/-- The verbs come from `o` to `o'`: none of them has a fault, what they hand over is in the log, and
what failed of it is added to the failures. -/
structure Completes (invoker : Invoker ε) (verbs : List Verb) (o : PipelineOutput) (p : Progress ε)
    (o' : PipelineOutput) (q : Progress ε) : Prop where
  sound : verbs.findSome? Verb.fault? = none
  log : q.log = p.log ++ (invocations o.candidates verbs).map invoker.event
  candidates : o'.candidates = verbs.foldl Verb.leaves o.candidates
  failures : o'.failures = o.failures ++
    (invoker.outcomes p.log (invocations o.candidates verbs)).filterMap failed?

theorem invocations_cons {v : Verb} (h : v.fault? = none) (items : List String)
    (rest : List Verb) :
    invocations items (v :: rest) = v.invocations items ++ invocations (v.leaves items) rest := by
  rw [invocations, h]
  rfl

theorem invocations_singleton {v : Verb} (h : v.fault? = none) (items : List String) :
    invocations items [v] = v.invocations items := by
  rw [invocations_cons h]
  exact List.append_nil _

/-- A verb that hands nothing over. -/
theorem Completes.silent {v : Verb} (hfault : v.fault? = none)
    (hnone : v.invocations o.candidates = []) (hcandidates : o'.candidates = v.leaves o.candidates)
    (hfailures : o'.failures = o.failures) : Completes invoker [v] o p o' p where
  sound := by rw [List.findSome?_singleton, hfault]
  log := by rw [invocations_singleton hfault, hnone]; exact (List.append_nil _).symm
  candidates := hcandidates
  failures := by
    rw [invocations_singleton hfault, hnone, hfailures]
    exact (List.append_nil _).symm

theorem Completes.cons {v : Verb} {rest : List Verb} (hfirst : Completes invoker [v] o p o₁ p₁)
    (hrest : Completes invoker rest o₁ p₁ o' q) : Completes invoker (v :: rest) o p o' q := by
  have hfault : v.fault? = none := by
    have hsound := hfirst.sound
    rwa [List.findSome?_singleton] at hsound
  have hcandidates : o₁.candidates = v.leaves o.candidates := hfirst.candidates
  have hlog := hfirst.log
  have hfailures := hfirst.failures
  have hinvocations : invocations o.candidates (v :: rest) =
      v.invocations o.candidates ++ invocations o₁.candidates rest := by
    rw [invocations_cons hfault, hcandidates]
  rw [invocations_singleton hfault] at hlog hfailures
  refine ⟨?_, ?_, ?_, ?_⟩
  · rw [List.findSome?_cons, hfault]
    exact hrest.sound
  · rw [hrest.log, hlog, hinvocations, List.map_append, List.append_assoc]
  · rw [hrest.candidates, hcandidates, List.foldl_cons]
  · rw [hrest.failures, hfailures, hinvocations, invoker.outcomes_append, List.filterMap_append,
      ← hlog, List.append_assoc]

theorem completes_of_runVerb {v : Verb} (h : runVerb invoker o p v = (.ok o', q)) :
    Completes invoker [v] o p o' q := by
  cases v with
  | prompt message =>
    cases h
    exact .silent rfl rfl rfl rfl
  | grep patterns =>
    have hfault := findSome?_patternFault? patterns
    simp only [runVerb] at h
    split at h
    · cases h
    · rename_i ps hread
      cases h
      rw [hread] at hfault
      exact .silent hfault rfl (List.filter_congr fun item _ => readPatterns_eq_ok hread item) rfl
  | sort arguments =>
    have hfault := findSome?_argumentFault? arguments
    simp only [runVerb] at h
    split at h
    · cases h
    · rename_i os hread
      cases h
      rw [hread] at hfault
      refine .silent hfault rfl ?_ rfl
      rw [readOrders_eq_ok hread]
      rfl
  | xargs names =>
    simp only [runVerb] at h
    split at h
    · cases h
    · rename_i g q' hgather
      cases h
      obtain ⟨hlog, _, hfailures⟩ := gather_eq_some hgather
      have hheld : invocations o.candidates [.xargs names] =
          o.candidates.map (Invocation.ofItem names) := invocations_singleton rfl _
      refine ⟨rfl, ?_, rfl, ?_⟩
      · rw [hlog, hheld, List.map_map]
        rfl
      · rw [hheld, invoker.outcomes_map_ofItem, ← hfailures]

/-- A verb that fails while the token is in force hands nothing over. -/
theorem fault_eq_of_runVerb {v : Verb} {e : PipelineError} (he : e ≠ .cancelled)
    (h : runVerb invoker o p v = (.error e, q)) : v.fault? = some e ∧ q = p := by
  cases v with
  | prompt message => cases h
  | grep patterns =>
    simp only [runVerb] at h
    split at h
    · rename_i hread
      cases h
      refine ⟨?_, rfl⟩
      rw [Verb.fault?, findSome?_patternFault?, hread]
    · cases h
  | sort arguments =>
    simp only [runVerb] at h
    split at h
    · rename_i hread
      cases h
      refine ⟨?_, rfl⟩
      rw [Verb.fault?, findSome?_argumentFault?, hread]
    · cases h
  | xargs names =>
    simp only [runVerb] at h
    split at h
    · cases h
      exact absurd rfl he
    · cases h

/-! ## All verbs -/

theorem completes_of_runVerbs {verbs : List Verb} (h : runVerbs invoker o p verbs = (.ok o', q)) :
    Completes invoker verbs o p o' q := by
  induction verbs generalizing o p with
  | nil =>
    cases h
    exact ⟨rfl, (List.append_nil _).symm, rfl, (List.append_nil _).symm⟩
  | cons v rest ih =>
    obtain ⟨o₁, p₁, hverb, hrest⟩ := runVerbs_cons_eq_ok h
    exact (completes_of_runVerb hverb).cons (ih hrest)

/-- A pipeline that fails while the token is in force has come to its first fault. -/
theorem fault_eq_of_runVerbs {verbs : List Verb} {e : PipelineError} (he : e ≠ .cancelled)
    (h : runVerbs invoker o p verbs = (.error e, q)) :
    verbs.findSome? Verb.fault? = some e ∧
      q.log = p.log ++ (invocations o.candidates verbs).map invoker.event := by
  induction verbs generalizing o p with
  | nil => cases h
  | cons v rest ih =>
    rw [runVerbs] at h
    split at h
    · cases h
      exact absurd rfl he
    · split at h
      · rename_i e' p₁ hverb
        cases h
        obtain ⟨hfault, rfl⟩ := fault_eq_of_runVerb he hverb
        rw [List.findSome?_cons, invocations, hfault]
        exact ⟨rfl, (List.append_nil _).symm⟩
      · rename_i o₁ p₁ hverb
        have hfirst := completes_of_runVerb hverb
        have hsound := hfirst.sound
        have hlog := hfirst.log
        rw [List.findSome?_singleton] at hsound
        rw [invocations_singleton hsound] at hlog
        obtain ⟨hfault, hmore⟩ := ih h
        have hcandidates : o₁.candidates = v.leaves o.candidates := hfirst.candidates
        refine ⟨?_, ?_⟩
        · rw [List.findSome?_cons, hsound]
          exact hfault
        · rw [hmore, hlog, hcandidates, invocations_cons hsound, List.append_assoc,
            ← List.map_append]

/-- Some failure is reported exactly if some invocation failed. -/
theorem Completes.hasFailures_iff {verbs : List Verb} (h : Completes invoker verbs o p o' q)
    (hnone : o.failures = []) :
    o'.hasFailures = true ↔ ∃ (k : Nat) (i : Invocation) (e : InvokeError),
      (invocations o.candidates verbs)[k]? = some i ∧
        (invoker.invoke (p.log ++ ((invocations o.candidates verbs).take k).map invoker.event)
          i).result? = some (.error e) := by
  have hfailures : o'.hasFailures = true ↔
      ∃ x ∈ invoker.outcomes p.log (invocations o.candidates verbs), (failed? x).isSome = true := by
    rw [PipelineOutput.hasFailures, h.failures, hnone, List.nil_append, Bool.not_eq_true',
      List.isEmpty_eq_false_iff, ne_eq, List.filterMap_eq_nil_iff]
    simp [Option.isSome_iff_ne_none]
  rw [hfailures]
  constructor
  · rintro ⟨x, hx, hfailed⟩
    obtain ⟨k, hk⟩ := List.mem_iff_getElem?.1 hx
    rw [invoker.getElem?_outcomes, Option.map_eq_some_iff] at hk
    obtain ⟨i, hi, rfl⟩ := hk
    refine ⟨k, i, ?_⟩
    cases hresult : (invoker.invoke (p.log ++
        ((invocations o.candidates verbs).take k).map invoker.event) i).result? with
    | none => rw [hresult] at hfailed; cases hfailed
    | some answer =>
      cases answer with
      | ok result => rw [hresult] at hfailed; cases hfailed
      | error e => exact ⟨e, hi, rfl⟩
  · rintro ⟨k, i, e, hi, hresult⟩
    refine ⟨(i.item, some (.error e)), List.mem_iff_getElem?.2 ⟨k, ?_⟩, rfl⟩
    rw [invoker.getElem?_outcomes, hi, Option.map_some, hresult]

end Pipelines

/-- Under a token that is never cancelled a pipeline makes the invocations of each `xargs` up to the
first verb with a fault. Each has its item, and binds a variable to the facet at its last position
among the first five. How an invocation ends does not matter to the answers to the others. Without a
fault the output reports the invocations that failed and shows the results of a last `xargs`; with
one there is no output but the fault. -/
theorem pipeline_invocations {ε : Type} (invoker : Invoker ε) (a : Action) (items : List String)
    (p q : Progress ε) (r : Except PipelineError PipelineOutput)
    (h : runPipeline invoker a items p = (r, q)) (hq : q.cancelled = false) :
    let made := invocations items a.verbs
    let answer (k : Nat) (i : Invocation) : Option (Except InvokeError String) :=
      (invoker.invoke (p.log ++ (made.take k).map invoker.event) i).result?
    q.log = p.log ++ made.map invoker.event ∧
      (∀ names item, (Invocation.ofItem names item).item = item ∧ ∀ name facet,
        (Invocation.ofItem names item).bindings.get? name = some facet ↔
          ∃ i : Nat, names[i]? = some name ∧ (Facets.ofItem item).toList[i]? = some facet ∧
            ∀ j, i < j → j < 5 → names[j]? ≠ some name) ∧
      (∀ k : Nat, (invoker.outcomes p.log made)[k]? =
        made[k]?.map fun i => (i.item, answer k i)) ∧
      match a.verbs.findSome? Verb.fault? with
      | some e => r = .error e
      | none => ∃ o, r = .ok o ∧ o.failures = (invoker.outcomes p.log made).filterMap failed? ∧
          (o.hasFailures = true ↔ ∃ k i e, made[k]? = some i ∧ answer k i = some (.error e)) ∧
          Shows invoker o q (a.verbs.getLast a.verbs_ne_nil) := by
  intro made answer
  have hbindings := fun names item => And.intro (rfl : (Invocation.ofItem names item).item = item)
    (bindings_ofItem_iff names item)
  have hanswers := invoker.getElem?_outcomes p.log made
  rw [runPipeline] at h
  cases r with
  | error e =>
    have he : e ≠ .cancelled := by
      rintro rfl
      rw [cancelled_of_runVerbs h] at hq
      cases hq
    obtain ⟨hfault, hlog⟩ := fault_eq_of_runVerbs he h
    refine ⟨hlog, hbindings, hanswers, ?_⟩
    rw [hfault]
  | ok o =>
    have hcompletes := completes_of_runVerbs h
    refine ⟨hcompletes.log, hbindings, hanswers, ?_⟩
    rw [hcompletes.sound]
    exact ⟨o, rfl, hcompletes.failures, hcompletes.hasFailures_iff rfl,
      (runVerbs_eq_ok h).2 _ (List.getLast?_eq_some_getLast a.verbs_ne_nil)⟩

/-- Both items are handed over twice, and only the first of the four invocations succeeds. -/
def handedOverTwice : Action :=
  ⟨"", [.xargs ["n", "p", "n"], .sort ["-name"], .xargs ["f"], .prompt "m"], List.cons_ne_nil _ _⟩

theorem pipeline_invocations_twice :
    ∃ o q, runPipeline onceOnly handedOverTwice ["a.rs", "b.go"] {} = (.ok o, q) ∧
      q.cancelled = false ∧ q.log = ["a.rs", "b.go", "b.go", "a.rs"] ∧
      o.failures = [⟨"b.go", "cannot resolve 'b.go'"⟩, ⟨"b.go", "seen"⟩, ⟨"a.rs", "seen"⟩] ∧
      (Invocation.ofItem ["n", "p", "n"] "a.rs").bindings.get? "n" = some "a" := by
  have hmade : (invocations ["a.rs", "b.go"] handedOverTwice.verbs).map onceOnly.event =
      ["a.rs", "b.go", "b.go", "a.rs"] := by decide +kernel
  have hfailed : (onceOnly.outcomes [] (invocations ["a.rs", "b.go"]
      handedOverTwice.verbs)).filterMap failed? =
        [⟨"b.go", "cannot resolve 'b.go'"⟩, ⟨"b.go", "seen"⟩, ⟨"a.rs", "seen"⟩] := by
    decide +kernel
  have hsound : handedOverTwice.verbs.findSome? Verb.fault? = none := by decide +kernel
  rcases hrun : runPipeline onceOnly handedOverTwice ["a.rs", "b.go"] {} with ⟨r, q⟩
  have hq : q.cancelled = false := by
    have hcancelled : (runPipeline onceOnly handedOverTwice ["a.rs", "b.go"] {}).2.cancelled =
        false := by decide +kernel
    rwa [hrun] at hcancelled
  obtain ⟨hlog, hbindings, _, hr⟩ := pipeline_invocations onceOnly handedOverTwice _ {} q r hrun hq
  rw [hsound] at hr
  obtain ⟨o, rfl, hfailures, _⟩ := hr
  refine ⟨o, q, rfl, hq, hlog.trans hmade, hfailures.trans hfailed, ?_⟩
  -- the third variable is the last of that name, and is bound to the stem
  refine ((hbindings _ _).2 _ _).2 ⟨2, rfl, by decide, ?_⟩
  intro j hj hlt
  have hcases : j = 3 ∨ j = 4 := by omega
  rcases hcases with rfl | rfl <;> decide

end PromptScript
