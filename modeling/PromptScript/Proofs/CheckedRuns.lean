import PromptScript.Proofs.ActionResult
import PromptScript.Proofs.CheckedValues

/-!
# Proofs.CheckedRuns

The checks of the compiler are enough for the run. A pipeline whose patterns can all be read stops
only at a sort argument that names no order (`fault_of_checked`), and filling in the messages of an
action leaves its patterns as they were checked. So no variable of a compiled document is given a
fault of a pattern; what else it can be given is listed in `Receives`.
-/

namespace PromptScript

/-! ## Verbs -/

section Verbs

variable {ε : Type} {invoker : Invoker ε} {o : PipelineOutput} {p q : Progress ε}

/-- Some `sort` among the verbs has this argument, which names no order. -/
def Unordered (verbs : List Verb) (argument : String) : Prop :=
  ∃ arguments, .sort arguments ∈ verbs ∧ argument ∈ arguments ∧
    SortOrder.ofArgument? argument = none

theorem readPattern_of_isPattern {pattern : String} (h : IsPattern pattern) :
    ∃ p, readPattern pattern = .ok p := by
  obtain ⟨p, hp⟩ := h
  exact ⟨p, by rw [readPattern, hp]⟩

theorem readPatterns_of_isPattern {patterns : List String} (h : ∀ p ∈ patterns, IsPattern p) :
    ∃ ps, readPatterns patterns = .ok ps := by
  induction patterns with
  | nil => exact ⟨[], rfl⟩
  | cons pattern rest ih =>
    obtain ⟨hfirst, hrest⟩ := List.forall_mem_cons.1 h
    obtain ⟨p, hp⟩ := readPattern_of_isPattern hfirst
    obtain ⟨ps, hps⟩ := ih hrest
    exact ⟨p :: ps, by rw [readPatterns, hp]; dsimp only; rw [hps]⟩

theorem fault_of_readOrders {arguments : List String} {e : PipelineError}
    (h : readOrders arguments = .error e) :
    ∃ argument ∈ arguments, SortOrder.ofArgument? argument = none ∧
      e = .invalidArgument argument := by
  induction arguments with
  | nil => cases h
  | cons argument rest ih =>
    rw [readOrders] at h
    split at h
    · rename_i hnone
      cases h
      exact ⟨argument, List.mem_cons_self, hnone, rfl⟩
    · split at h
      · rename_i hrest
        cases h
        obtain ⟨bad, hbad, hnone, he⟩ := ih hrest
        exact ⟨bad, List.mem_cons_of_mem _ hbad, hnone, he⟩
      · cases h

theorem fault_of_runVerb {v : Verb} (hchecked : v.Checked) {e : PipelineError}
    (h : runVerb invoker o p v = (.error e, q)) :
    e = .cancelled ∨ ∃ argument, Unordered [v] argument ∧ e = .invalidArgument argument := by
  cases v with
  | prompt message => cases h
  | grep patterns =>
    obtain ⟨ps, hps⟩ := readPatterns_of_isPattern hchecked.2
    rw [runVerb, hps] at h
    cases h
  | sort arguments =>
    rw [runVerb] at h
    split at h
    · rename_i hread
      cases h
      obtain ⟨argument, hmem, hnone, he⟩ := fault_of_readOrders hread
      exact .inr ⟨argument, ⟨arguments, List.mem_cons_self, hmem, hnone⟩, he⟩
    · cases h
  | xargs names =>
    rw [runVerb] at h
    split at h
    · cases h; exact .inl rfl
    · cases h

theorem Unordered.mono {verbs more : List Verb} {argument : String} (h : Unordered verbs argument)
    (hsub : verbs ⊆ more) : Unordered more argument := by
  obtain ⟨arguments, hverb, hargument⟩ := h
  exact ⟨arguments, hsub hverb, hargument⟩

theorem fault_of_runVerbs {verbs : List Verb} (hchecked : ∀ v ∈ verbs, v.Checked)
    {e : PipelineError} (h : runVerbs invoker o p verbs = (.error e, q)) :
    e = .cancelled ∨ ∃ argument, Unordered verbs argument ∧ e = .invalidArgument argument := by
  induction verbs generalizing o p with
  | nil => cases h
  | cons v rest ih =>
    obtain ⟨hv, hrest⟩ := List.forall_mem_cons.1 hchecked
    rw [runVerbs] at h
    split at h
    · cases h; exact .inl rfl
    · split at h
      · rename_i hverb
        cases h
        rcases fault_of_runVerb hv hverb with rfl | ⟨argument, hargument, he⟩
        · exact .inl rfl
        · exact .inr ⟨argument, hargument.mono (by simp), he⟩
      · rcases ih hrest h with rfl | ⟨argument, hargument, he⟩
        · exact .inl rfl
        · exact .inr ⟨argument, hargument.mono (List.subset_cons_self v rest), he⟩

/-! ## Filled-in messages -/

theorem Verb.Checked.filled {v : Verb} (h : v.Checked) (s : Scene) : (v.filled s).Checked := by
  cases v with
  | prompt message => exact trivial
  | grep patterns => exact h
  | sort arguments => exact h
  | xargs names => exact h

/-- Filling in messages leaves every `sort` as it is. -/
theorem Unordered.of_filled {verbs : List Verb} {s : Scene} {argument : String}
    (h : Unordered (verbs.map (Verb.filled s)) argument) : Unordered verbs argument := by
  obtain ⟨arguments, hmem, hargument⟩ := h
  obtain ⟨v, hv, heq⟩ := List.mem_map.1 hmem
  cases v with
  | sort _ => cases heq; exact ⟨arguments, hv, hargument⟩
  | prompt | grep | xargs => cases heq

end Verbs

/-! ## Actions -/

/-- The faults of a checked action. -/
theorem fault_of_checked {source : ItemSource} {s : Scene} {p q : Progress Event} {a : Action}
    (ha : a.Checked) {answer : Except SourceError (List String)} {f : ActionFault}
    (h : resultOn source s p a answer = (.error f, q)) :
    (∃ e, answer = .error e ∧ f = .source e) ∨ f = .pipeline .cancelled ∨
      ∃ argument, Unordered a.verbs argument ∧ f = .pipeline (.invalidArgument argument) := by
  cases answer with
  | error e => cases h; exact .inl ⟨e, rfl, rfl⟩
  | ok items =>
    obtain ⟨trigger, htrigger⟩ := readPattern_of_isPattern ha.trigger
    rw [resultOn, selectCandidates, htrigger] at h
    dsimp only at h
    split at h
    · rename_i hrun
      cases h
      -- what runs is the action with its messages filled in, and that is checked as well
      have hchecked : ∀ v ∈ (a.mapVerbs (Verb.filled s)).verbs, v.Checked := by
        intro v hv
        obtain ⟨w, hw, rfl⟩ := List.mem_map.1 hv
        exact (ha.verbs w hw).filled s
      rcases fault_of_runVerbs hchecked hrun with rfl | ⟨argument, hargument, rfl⟩
      · exact .inr (.inl rfl)
      · exact .inr (.inr ⟨argument, hargument.of_filled, rfl⟩)
    · cases h

/-! ## Variables -/

/-- What a variable that stands for an action can be given as its text. -/
inductive Receives (source : ItemSource) (t : Turn) : String → Prop where
  /-- No arm has the key that the subject stands for. -/
  | nothing : t.chosen? = none → Receives source t ""
  | output {a : Action} {answer : Except SourceError (List String)} {o : PipelineOutput} :
      t.chosen? = some a → t.answer? source = some answer → t.result source a answer = .ok o →
        Receives source t o.text
  | unlisted {a : Action} {e : SourceError} :
      t.chosen? = some a → t.answer? source = some (.error e) →
        Receives source t (diagnostic e.message)
  | unordered {a : Action} {answer : Except SourceError (List String)} {argument : String} :
      t.chosen? = some a → t.answer? source = some answer → Unordered a.verbs argument →
        t.result source a answer = .error (.pipeline (.invalidArgument argument)) →
          Receives source t (diagnostic (PipelineError.invalidArgument argument).message)

namespace Value

/-- The value is an action, or a choice between actions. -/
def IsAction : Value → Prop
  | .action _ => True
  | .caseMatch _ => True
  | _ => False

theorem mem_actions_of_chosen {s : Scene} {v : Value} {a : Action} (h : v.chosen? s = some a) :
    a ∈ v.actions := by
  cases v with
  | action b => cases h; rw [actions]; exact List.mem_cons_self
  | caseMatch m =>
    rw [actions]
    have hentry := (NameMap.find?_eq_some_iff m.arms.ascending _ a).1 h
    exact List.mem_map.2 ⟨_, hentry, rfl⟩
  | text | number | date | flag | list | record => cases h

theorem text_of_unchosen {source : ItemSource} {s : RunState} {v : Value} (hv : v.IsAction)
    (h : v.chosen? s.scene = none) : (renderValue source s v).1 = .ok {} := by
  cases v with
  | action a => cases h
  | caseMatch m =>
    rw [chosen?] at h
    rw [renderValue, h]
  | text | number | date | flag | list | record => exact hv.elim

end Value

theorem receives_of_checked {source : ItemSource} {t : Turn} {r : Rendered}
    (hvalue : t.declaration.value.IsAction)
    (hchecked : ∀ a ∈ t.declaration.value.actions, a.Checked)
    (hrendered : t.rendered source = .ok r) : Receives source t r.text := by
  cases hchosen : t.chosen? with
  | none =>
    rw [Turn.rendered, Value.text_of_unchosen hvalue hchosen] at hrendered
    cases hrendered
    exact .nothing hchosen
  | some a =>
    obtain ⟨answer, hanswer, hshown⟩ := shown_of_chosen hrendered hchosen
    cases hresult : t.result source a answer with
    | ok o =>
      rw [hresult] at hshown
      cases hshown
      exact .output hchosen hanswer hresult
    | error f =>
      have ha := hchecked a (Value.mem_actions_of_chosen hchosen)
      rcases fault_of_checked ha (Prod.ext hresult rfl) with
        ⟨e, rfl, rfl⟩ | rfl | ⟨argument, hbad, rfl⟩
      · rw [hresult] at hshown
        cases hshown
        exact .unlisted hchosen hanswer
      · rw [hresult] at hshown
        cases hshown
      · rw [hresult] at hshown
        cases hshown
        exact .unordered hchosen hanswer hbad hresult

/-- Every action in the header of a compiled document is checked, and in a run that is not
cancelled no variable is given a fault of a pattern. -/
theorem checks_cover_runs {text : String} {d : Document} (hd : Document.compile text = .ok d) :
    (∀ v ∈ d.header.values, ∀ a ∈ v.actions, a.Checked) ∧
      ∀ (host : Host) (script : String) (context : Context) (cache : ResponseCache)
        (p : Progress Event), (d.run host script context cache p).2.2.cancelled = false →
          ∃ out, (d.run host script context cache p).1 = .ok out ∧
            (d.turns host.source context p).map (·.declaration) = d.header.declarations ∧
            ∀ t ∈ d.turns host.source context p, t.declaration.value.IsAction →
              (∃ given, out.rendered.get? t.name = some given ∧ Receives host.source t given) ∧
              ∀ a answer, t.chosen? = some a → t.answer? host.source = some answer →
                ∀ pattern fault, t.result host.source a answer ≠
                  .error (.pipeline (.invalidPattern pattern fault)) := by
  have hchecked := Document.checked_of_compile hd
  refine ⟨hchecked, ?_⟩
  intro host script context cache p hp
  obtain ⟨out, cache', q, hrun, _⟩ := run_completes hp
  refine ⟨out, by rw [hrun], map_declaration_turns hrun, ?_⟩
  intro t ht hvalue
  have hdecl : t.declaration ∈ d.header.declarations := by
    rw [← map_declaration_turns hrun]
    exact List.mem_map_of_mem ht
  have hactions : ∀ a ∈ t.declaration.value.actions, a.Checked :=
    hchecked _ (Header.mem_values_iff.2 (.inl ⟨_, hdecl, rfl⟩))
  obtain ⟨r, hrendered, hget⟩ := text_of_turn hd hrun ht
  refine ⟨⟨r.text, hget, receives_of_checked hvalue hactions hrendered⟩, ?_⟩
  intro a answer hchosen _ pattern fault hresult
  have ha := hactions a (Value.mem_actions_of_chosen hchosen)
  rcases fault_of_checked ha (Prod.ext hresult rfl) with ⟨e, _, he⟩ | he | ⟨argument, _, he⟩ <;>
    cases he

/-- The patterns of all three actions are checked, those of the list and of the case match too. The
argument of the `sort` is not: it is seen only in the run. -/
def unorderedText : String :=
  "---\nvariables:\n  files: /rs$/ \x7b grep(\"main\") \x7d\n" ++
    "  pick: case \"$language\" \x7b \"rust\" /.*/ \x7b sort(\"mtime\") \x7d \x7d\n" ++
    "  nested: [ '/x/ \x7b xargs(\"f\") \x7d' ]\n---\n$pick\n"

theorem checks_cover_runs_unordered :
    let host : Host := ⟨.ofList ["main.rs", "lib.rs"], .withEcho⟩
    let context := Context.set {} "language" "rust"
    ∃ d out, Document.compile unorderedText = .ok d ∧
      (d.run host "s" context .empty {}).1 = .ok out ∧
      (d.header.values.flatMap (·.actions)).length = 3 ∧
      (∀ v ∈ d.header.values, ∀ a ∈ v.actions, a.Checked) ∧
      out.rendered.get? "files" = some "main.rs" ∧
      out.rendered.get? "pick" =
        some (diagnostic (PipelineError.invalidArgument "mtime").message) ∧
      ∀ t ∈ d.turns host.source context {}, t.declaration.value.IsAction →
        ∃ given, out.rendered.get? t.name = some given ∧ Receives host.source t given := by
  intro host context
  have hmap : (Document.compile unorderedText).toOption.map (fun d =>
      let r := d.run host "s" context .empty {}
      ((d.header.values.flatMap (·.actions)).length, r.2.2.cancelled,
        r.1.toOption.map fun out => (out.rendered.get? "files", out.rendered.get? "pick"))) =
      some (3, false, some (some "main.rs",
        some (diagnostic (PipelineError.invalidArgument "mtime").message))) := by
    decide +kernel
  obtain ⟨d, hd, hread⟩ := Document.compiled_of_map hmap
  simp only [Prod.mk.injEq] at hread
  obtain ⟨hlength, hrunning, htexts⟩ := hread
  obtain ⟨hchecked, hruns⟩ := checks_cover_runs hd
  obtain ⟨out, hout, _, hturns⟩ := hruns host "s" context .empty {} hrunning
  simp only [hout, Except.toOption, Option.map_some, Option.some.injEq, Prod.mk.injEq] at htexts
  exact ⟨d, out, hd, hout, hlength, hchecked, htexts.1, htexts.2,
    fun t ht hvalue => (hturns t ht hvalue).1⟩

end PromptScript
