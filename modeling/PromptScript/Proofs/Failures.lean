import Mathlib.Data.List.Flatten
import PromptScript.Proofs.Growth
import PromptScript.Proofs.PipelineMeaning
import PromptScript.Proofs.Rendering

/-!
# Proofs.Failures

Which failures of a run are reported. The log shows which items the source denied (`denied`). A
pipeline that completes reports every denial; one that ends in an error is shown as a diagnostic,
and what it had gathered before is gone. `failures_complete_iff` says what follows for a run.
-/

namespace PromptScript

/-! ## Denials -/

namespace ItemSource

variable (source : ItemSource)

/-- The path that a question was about, if the source denied that it is one of its items. -/
def denied? (log : List Event) (e : Event) : Option String :=
  match e.checkedPath? with
  | none => none
  | some path =>
    match (source.isEligible log path).result? with
    | some false => some path
    | _ => none

/-- The items among the events that the source was asked about and denied, in the order of asking. -/
def deniedAmong (log : List Event) : List Event → List String
  | [] => []
  | e :: rest => (source.denied? log e).toList ++ deniedAmong (log ++ [e]) rest

/-- The items that the source denied on the way from `p` to `q`. -/
def denied (p q : Progress Event) : List String :=
  source.deniedAmong p.log (q.log.drop p.log.length)

theorem deniedAmong_append (log a b : List Event) :
    source.deniedAmong log (a ++ b) =
      source.deniedAmong log a ++ source.deniedAmong (log ++ a) b := by
  induction a generalizing log with
  | nil => rw [List.append_nil]; rfl
  | cons e rest ih =>
    rw [List.cons_append, deniedAmong, deniedAmong, ih, List.append_assoc, List.append_assoc]
    rfl

theorem deniedAmong_of_unchecked {log events : List Event}
    (h : ∀ e ∈ events, e.Unchecked) : source.deniedAmong log events = [] := by
  induction events generalizing log with
  | nil => rfl
  | cons e rest ih =>
    have hfirst : e.checkedPath? = none := h e List.mem_cons_self
    rw [deniedAmong, denied?, hfirst, ih fun e he => h e (List.mem_cons_of_mem _ he)]
    rfl

variable {source} {p q r : Progress Event}

theorem denied_eq {events : List Event} (h : q.log = p.log ++ events) :
    source.denied p q = source.deniedAmong p.log events := by
  rw [denied, h, List.drop_left]

theorem denied_self (p : Progress Event) : source.denied p p = [] :=
  denied_eq (List.append_nil _).symm

theorem denied_of_unchecked (h : p.Grows q Event.Unchecked) : source.denied p q = [] := by
  obtain ⟨events, hlog, hevents, _⟩ := h
  rw [denied_eq hlog]
  exact source.deniedAmong_of_unchecked hevents

theorem denied_trans {property property' : Event → Prop} (hpq : p.Grows q property)
    (hqr : q.Grows r property') : source.denied p r = source.denied p q ++ source.denied q r := by
  obtain ⟨a, ha, _⟩ := hpq
  obtain ⟨b, hb, _⟩ := hqr
  have hpr : r.log = p.log ++ (a ++ b) := by rw [hb, ha, List.append_assoc]
  rw [denied_eq hpr, denied_eq ha, denied_eq hb, ha]
  exact source.deniedAmong_append p.log a b

end ItemSource

/-- The report of an item that the source denied. -/
def denial (item : String) : ItemFailure := ⟨item, (InvokeError.unresolved item).message⟩

/-! ## One pipeline -/

section Pipelines

variable {source : ItemSource} {p q : Progress Event} {o o' : PipelineOutput}

/-- An item fails exactly if the source denies it. -/
theorem failed?_of_resolver (names : List String) (log : List Event) (item : String) :
    failed? (item, ((resolver source).invoke log (Invocation.ofItem names item)).result?) =
      (source.denied? log (.checked item)).map denial := by
  simp only [resolver, Invocation.ofItem, ItemSource.denied?, Event.checkedPath?]
  rcases source.isEligible log item with (_ | _) | (_ | _) | _ <;> rfl

theorem failures_of_answers (names : List String) (log : List Event) (items : List String) :
    ((resolver source).answers names log items).filterMap failed? =
      (source.deniedAmong log ((resolver source).events names items)).map denial := by
  induction items generalizing log with
  | nil => rfl
  | cons item rest ih =>
    have hrest := ih (log ++ [.checked item])
    rw [Invoker.answers, List.filterMap_cons, failed?_of_resolver]
    change _ = ((source.denied? log (.checked item)).toList ++ source.deniedAmong
      (log ++ [.checked item]) ((resolver source).events names rest)).map denial
    rw [List.map_append, ← hrest]
    cases source.denied? log (.checked item) with
    | none => rfl
    | some path => rfl

theorem append_denied_self (failures : List ItemFailure) (p : Progress Event) :
    failures ++ (source.denied p p).map denial = failures := by
  rw [ItemSource.denied_self]
  exact List.append_nil failures

theorem runVerb_failures {v : Verb} (h : runVerb (resolver source) o p v = (.ok o', q)) :
    o'.failures = o.failures ++ (source.denied p q).map denial := by
  cases v with
  | prompt message =>
    cases h
    exact (append_denied_self _ _).symm
  | grep patterns =>
    simp only [runVerb] at h
    split at h
    · cases h
    · cases h
      exact (append_denied_self _ _).symm
  | sort arguments =>
    simp only [runVerb] at h
    split at h
    · cases h
    · cases h
      exact (append_denied_self _ _).symm
  | xargs names =>
    simp only [runVerb] at h
    split at h
    · cases h
    · rename_i hgather
      cases h
      obtain ⟨hlog, _, hfailures⟩ := gather_eq_some hgather
      rw [ItemSource.denied_eq hlog, ← failures_of_answers, ← hfailures]

theorem runVerbs_failures {verbs : List Verb}
    (h : runVerbs (resolver source) o p verbs = (.ok o', q)) :
    o'.failures = o.failures ++ (source.denied p q).map denial := by
  induction verbs generalizing o p with
  | nil =>
    cases h
    exact (append_denied_self _ _).symm
  | cons v rest ih =>
    obtain ⟨o₁, p₁, hverb, hrest⟩ := runVerbs_cons_eq_ok h
    rw [ih hrest, runVerb_failures hverb, List.append_assoc, ← List.map_append,
      ItemSource.denied_trans (grows_runVerb hverb) (grows_runVerbs hrest)]

end Pipelines

/-! ## The pipelines of a run -/

/-- A pipeline that is about to start, the messages of its action filled in. -/
structure Started where
  action : Action
  candidates : List String
  progress : Progress Event

namespace Started

variable (source : ItemSource) (x : Started)

/-- What the pipeline comes to. -/
def outcome : Except PipelineError PipelineOutput × Progress Event :=
  runPipeline (resolver source) x.action x.candidates x.progress

/-- The pipeline does not end in an error. -/
def completes : Bool := (x.outcome source).1.isOk

/-- The items that the source denied while the pipeline ran. -/
def denied : List String := source.denied x.progress (x.outcome source).2

variable {source x}

theorem of_outcome {r : Except PipelineError PipelineOutput} {q : Progress Event}
    (h : x.outcome source = (r, q)) :
    x.progress.Grows q (fun _ => True) ∧ x.denied source = source.denied x.progress q ∧
      x.completes source = r.isOk := by
  refine ⟨(grows_runVerbs h).mono fun _ _ => trivial, ?_, ?_⟩
  · rw [Started.denied, h]
  · rw [Started.completes, h]

end Started

/-- The pipeline for an action, `none` if the items cannot be listed or selected. -/
def startedFor? (source : ItemSource) (s : RunState) (a : Action) : Option Started :=
  match listItems source s with
  | (some (.ok items), s) =>
    match selectCandidates a.trigger items with
    | .ok candidates => some ⟨a.mapVerbs (Verb.filled s.scene), candidates, s.progress⟩
    | .error _ => none
  | _ => none

/-- The pipeline for a value, `none` if it takes none. -/
def startedBy? (source : ItemSource) (s : RunState) : Value → Option Started
  | .action a => startedFor? source s a
  | .caseMatch m => (m.select (s.scene.fill m.subject)).bind (startedFor? source s)
  | .text t => some ⟨(Action.answering t).mapVerbs (Verb.filled s.scene), [], s.progress⟩
  | _ => none

/-- The pipelines for declarations, each in the state that the ones before it left. -/
def startedIn (source : ItemSource) (s : RunState) : List Declaration → List Started
  | [] => []
  | d :: rest =>
    match renderValue source s d.value with
    | (.error _, _) => (startedBy? source s d.value).toList
    | (.ok r, s') => (startedBy? source s d.value).toList ++ startedIn source (s'.keep d.name r) rest

/-- The pipelines of a run. -/
def Document.started (d : Document) (source : ItemSource) (context : Context)
    (p : Progress Event) : List Started :=
  startedIn source { scene := ⟨context, .empty⟩, progress := p } d.header.declarations

/-- From `p` to `q` these pipelines ran, and those that completed report the failures. -/
structure Accounts (source : ItemSource) (started : List Started) (p q : Progress Event)
    (failures : List ItemFailure) : Prop where
  grows : p.Grows q fun _ => True
  denied : source.denied p q = started.flatMap (Started.denied source)
  failures : failures =
    ((started.filter (Started.completes source)).flatMap (Started.denied source)).map denial

namespace Accounts

variable {source : ItemSource} {p q r : Progress Event} {xs ys : List Started}
  {failures failures' : List ItemFailure}

theorem of_unchecked (h : p.Grows q Event.Unchecked) : Accounts source [] p q [] where
  grows := h.mono fun _ _ => trivial
  denied := ItemSource.denied_of_unchecked h
  failures := rfl

theorem append (h₁ : Accounts source xs p q failures) (h₂ : Accounts source ys q r failures') :
    Accounts source (xs ++ ys) p r (failures ++ failures') where
  grows := h₁.grows.trans h₂.grows
  denied := by
    rw [ItemSource.denied_trans h₁.grows h₂.grows, h₁.denied, h₂.denied, List.flatMap_append]
  failures := by
    rw [h₁.failures, h₂.failures, List.filter_append, List.flatMap_append, List.map_append]

end Accounts

section Runs

variable {source : ItemSource} {s s' : RunState} {r : Rendered}

theorem accounts_of_completed {x : Started} {o : PipelineOutput} {q : Progress Event}
    (h : x.outcome source = (.ok o, q)) : Accounts source [x] x.progress q o.failures := by
  obtain ⟨hgrows, hdenied, hcompletes⟩ := Started.of_outcome h
  refine ⟨hgrows, ?_, ?_⟩
  · rw [List.flatMap_singleton, hdenied]
  · rw [List.filter_cons_of_pos hcompletes, List.filter_nil, List.flatMap_singleton, hdenied]
    exact (runVerbs_failures h).trans (List.nil_append _)

theorem accounts_of_failed {x : Started} {e : PipelineError} {q : Progress Event}
    (h : x.outcome source = (.error e, q)) : Accounts source [x] x.progress q [] := by
  obtain ⟨hgrows, hdenied, hcompletes⟩ := Started.of_outcome h
  refine ⟨hgrows, ?_, ?_⟩
  · rw [List.flatMap_singleton, hdenied]
  · -- the pipeline is none of those that completed, so its denials are not reported
    rw [List.filter_cons_of_neg (by rw [hcompletes]; exact Bool.false_ne_true)]
    rfl

/-- A pipeline reports all denials if it completes, and nothing otherwise. -/
theorem accounts_runFilled {scene : Scene} {a : Action} {candidates : List String}
    {p q : Progress Event} (h : runFilled source scene p a candidates = (.ok r, q)) :
    Accounts source [⟨a.mapVerbs (Verb.filled scene), candidates, p⟩] p q r.failures := by
  rw [runFilled] at h
  split at h
  · rename_i hrun
    cases h
    exact accounts_of_completed hrun
  · cases h
  · rename_i hrun
    cases h
    exact accounts_of_failed hrun

theorem accounts_runAction {a : Action} (h : runAction source s a = (.ok r, s')) :
    Accounts source (startedFor? source s a).toList s.progress s'.progress r.failures := by
  rw [runAction] at h
  rw [startedFor?]
  split at h
  · cases h
  · rename_i e s₁ hlist
    cases h
    rw [hlist]
    exact .of_unchecked (grows_listItems hlist)
  · rename_i items s₁ hlist
    rw [hlist]
    have hlisted : Accounts source [] s.progress s₁.progress [] :=
      .of_unchecked (grows_listItems hlist)
    split at h
    · rename_i e hselect
      cases h
      simp only [hselect]
      exact hlisted
    · rename_i candidates hselect
      obtain ⟨hfilled, hprogress⟩ := Prod.mk.inj h
      simp only [hselect]
      rw [← hprogress]
      exact hlisted.append (accounts_runFilled (Prod.ext hfilled rfl))

theorem accounts_renderValue {v : Value} (h : renderValue source s v = (.ok r, s')) :
    Accounts source (startedBy? source s v).toList s.progress s'.progress r.failures := by
  cases v with
  | action a => exact accounts_runAction h
  | caseMatch m =>
    simp only [renderValue] at h
    simp only [startedBy?]
    split at h
    · rename_i a hselect
      rw [hselect]
      exact accounts_runAction h
    · rename_i hselect
      cases h
      rw [hselect]
      exact .of_unchecked (.refl _)
  | text t =>
    obtain ⟨hfilled, hprogress⟩ := Prod.mk.inj h
    rw [← hprogress]
    exact accounts_runFilled (Prod.ext hfilled rfl)
  | number n => cases h; exact .of_unchecked (.refl _)
  | date t => cases h; exact .of_unchecked (.refl _)
  | flag b => cases h; exact .of_unchecked (.refl _)
  | list items => cases h; exact .of_unchecked (.refl _)
  | record fields => cases h; exact .of_unchecked (.refl _)

theorem accounts_renderVariables {ds : List Declaration}
    (h : renderVariables source s ds = (.ok (), s')) :
    ∃ added, s'.failures = s.failures ++ added ∧
      Accounts source (startedIn source s ds) s.progress s'.progress added := by
  induction ds generalizing s with
  | nil =>
    cases h
    exact ⟨[], (List.append_nil _).symm, .of_unchecked (.refl _)⟩
  | cons d rest ih =>
    obtain ⟨r, s₁, hvalue, hrest⟩ := renderVariables_cons_eq_ok_iff.1 h
    obtain ⟨added, hadded, haccounts⟩ := ih hrest
    refine ⟨r.failures ++ added, ?_, ?_⟩
    · rw [hadded, RunState.keep, (kept_renderValue hvalue).2, List.append_assoc]
    · rw [startedIn, hvalue]
      exact (accounts_renderValue hvalue).append haccounts

theorem accounts_run {host : Host} {script : String} {d : Document} {context : Context}
    {cache cache' : ResponseCache} {p q : Progress Event} {out : RunOutput}
    (h : d.run host script context cache p = (.ok out, cache', q)) :
    Accounts host.source (d.started host.source context p) p q out.failures := by
  obtain ⟨s, p₁, text, hvars, hbody, hhand, hout⟩ := run_eq_ok h
  obtain ⟨added, hadded, haccounts⟩ := accounts_renderVariables hvars
  -- neither the commands of the body nor the agent ask about a single path
  have hrest : Accounts host.source [] s.progress q [] :=
    .of_unchecked ((grows_expandBody hbody).trans (grows_handOffTo? hhand))
  have hall := haccounts.append hrest
  rw [List.append_nil, List.append_nil] at hall
  rw [hout, hadded]
  exact hall

end Runs

/-- Leaving out elements takes nothing away exactly if they stand for nothing. -/
theorem flatMap_filter_eq_iff {α β : Type} (keep : α → Bool) (f : α → List β) (l : List α) :
    (l.filter keep).flatMap f = l.flatMap f ↔ ∀ a ∈ l, keep a = false → f a = [] := by
  induction l with
  | nil => exact ⟨fun _ _ ha => absurd ha List.not_mem_nil, fun _ => rfl⟩
  | cons a rest ih =>
    rw [List.forall_mem_cons, List.flatMap_cons]
    -- if `a` is left out, the rest cannot make up for the length of `f a`
    cases ha : keep a with
    | true =>
      rw [List.filter_cons_of_pos ha, List.flatMap_cons, List.append_cancel_left_eq, ih]
      simp
    | false =>
      rw [List.filter_cons_of_neg (by rw [ha]; exact Bool.false_ne_true)]
      constructor
      · intro h
        have hlength := (List.filter_sublist.flatMap f : ((rest.filter keep).flatMap f).Sublist
          (rest.flatMap f)).length_le
        rw [h, List.length_append] at hlength
        have hnil : f a = [] := List.eq_nil_of_length_eq_zero (by omega)
        rw [hnil, List.nil_append] at h
        exact ⟨fun _ => hnil, ih.1 h⟩
      · rintro ⟨hnil, hrest⟩
        rw [hnil rfl, List.nil_append, ih.2 hrest]

/-- A run reports the denials of the pipelines that completed. None is lost if and only if there was
none in a pipeline that ended in an error. -/
theorem failures_complete_iff {host : Host} {script : String} {d : Document} {context : Context}
    {cache cache' : ResponseCache} {p q : Progress Event} {out : RunOutput}
    (h : d.run host script context cache p = (.ok out, cache', q)) :
    p.log <+: q.log ∧
      host.source.denied p q =
        (d.started host.source context p).flatMap (Started.denied host.source) ∧
      out.failures = (((d.started host.source context p).filter
        (Started.completes host.source)).flatMap (Started.denied host.source)).map denial ∧
      (out.failures.map (·.item) = host.source.denied p q ↔
        ∀ x ∈ d.started host.source context p, x.completes host.source = false →
          x.denied host.source = []) := by
  obtain ⟨hgrows, hdenied, hfailures⟩ := accounts_run h
  obtain ⟨events, hlog, _⟩ := hgrows
  refine ⟨⟨events, hlog.symm⟩, hdenied, hfailures, ?_⟩
  have hitems : ∀ items : List String, (items.map denial).map (·.item) = items := by
    intro items
    rw [List.map_map]
    exact List.map_id items
  rw [hdenied, hfailures, hitems]
  exact flatMap_filter_eq_iff _ _ _

/-- A source that lists an item and then denies it. -/
def denying (item : String) : ItemSource where
  enumerate _ := .finishes (.ok [item])
  isEligible _ _ := .finishes false

/-- The second pipeline of this document fails before it asks about its items. -/
def keptText : String :=
  "---\nvariables:\n  kept: /.*/ \x7b xargs(\"file\") | prompt(\"done\") \x7d\n" ++
    "  bad: /.*/ \x7b sort(\"mtime\") | xargs(\"file\") \x7d\n---\n$kept\n"

theorem failures_complete_iff_kept :
    ∃ d out cache q, Document.compile keptText = .ok d ∧
      d.run ⟨denying "a", .empty⟩ "s" {} .empty {} = (.ok out, cache, q) ∧
      out.failures.map (·.item) = ["a"] ∧ (denying "a").denied {} q = ["a"] := by
  have hitems : (Document.compile keptText).toOption.bind (fun d =>
      (d.run ⟨denying "a", .empty⟩ "s" {} .empty {}).1.toOption.map fun out =>
        out.failures.map (·.item)) = some ["a"] := by decide +kernel
  have hstarted : ((Document.compile keptText).toOption.any fun d =>
      (d.started (denying "a") {} {}).all fun x =>
        x.completes (denying "a") || (x.denied (denying "a")).isEmpty) = true := by
    decide +kernel
  cases hd : Document.compile keptText with
  | error e => rw [hd] at hitems; cases hitems
  | ok d =>
    rw [hd] at hitems hstarted
    rcases hrun : d.run ⟨denying "a", .empty⟩ "s" {} .empty {} with ⟨e | out, cache, q⟩
    · simp [Except.toOption, hrun] at hitems
    · simp only [Except.toOption, Option.bind_some, hrun, Option.map_some,
        Option.some.injEq] at hitems
      refine ⟨d, out, cache, q, rfl, hrun, hitems, ?_⟩
      rw [← hitems, ((failures_complete_iff hrun).2.2.2).2]
      intro x hx hcompletes
      have hall := List.all_eq_true.1 hstarted x hx
      rw [hcompletes, Bool.false_or] at hall
      exact List.isEmpty_iff.1 hall

/-- The pipeline of this document fails after its item was denied. -/
def lostText : String :=
  "---\nvariables:\n  bad: /.*/ \x7b xargs(\"file\") | sort(\"mtime\") \x7d\n---\n$bad\n"

theorem failure_lost_after_error :
    ∃ d out cache q, Document.compile lostText = .ok d ∧
      d.run ⟨denying "a", .empty⟩ "s" {} .empty {} = (.ok out, cache, q) ∧
      out.failures = [] ∧ (denying "a").denied {} q = ["a"] := by
  have hlost : (Document.compile lostText).toOption.bind (fun d =>
      let r := d.run ⟨denying "a", .empty⟩ "s" {} .empty {}
      r.1.toOption.map fun out => (out.failures, (denying "a").denied {} r.2.2)) =
        some ([], ["a"]) := by decide +kernel
  cases hd : Document.compile lostText with
  | error e => rw [hd] at hlost; cases hlost
  | ok d =>
    rw [hd] at hlost
    rcases hrun : d.run ⟨denying "a", .empty⟩ "s" {} .empty {} with ⟨e | out, cache, q⟩
    · simp [Except.toOption, hrun] at hlost
    · simp only [Except.toOption, Option.bind_some, hrun, Option.map_some, Option.some.injEq,
        Prod.mk.injEq] at hlost
      exact ⟨d, out, cache, q, rfl, hrun, hlost.1, hlost.2⟩

end PromptScript
