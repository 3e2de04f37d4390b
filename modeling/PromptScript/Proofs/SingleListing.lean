import PromptScript.Proofs.ActionResult

/-!
# Proofs.SingleListing

How often a run lists the items of its source. Variables share one listing: it is kept in the state
when the first of them asks, an error like any other answer. `ListedBy` ties it to the log, where it
is the answer to the first question. Each command of the body that gets as far as the source asks on
its own (`log_of_expandParts`), and the agent never asks.
-/

namespace PromptScript

/-- The answer of the source to the first question for its items, among events after a log. -/
def ItemSource.firstAnswer? (source : ItemSource) (log : List Event) :
    List Event → Option (Except SourceError (List String))
  | [] => none
  | .enumerated :: _ => (source.enumerate log).result?
  | e :: rest => firstAnswer? source (log ++ [e]) rest

/-- The event is no question for the items. -/
def Event.Unlisted (e : Event) : Prop := e ≠ .enumerated

/-- The command gets as far as the source: it names `regex`, it has an argument, and its pattern can
be read. -/
def Call.searches (c : Call) : Bool :=
  (FileFunction.ofName? c.function).isSome &&
    c.arguments.head?.any fun argument => (Pattern.read (wholePath (unquoted argument))).isOk

def BodyPart.searches : BodyPart → Bool
  | .plain _ => false
  | .command call => (Call.find? (String.ofList call)).any Call.searches

/-! ## The first answer -/

namespace ItemSource

variable {source : ItemSource} {log events more : List Event}

theorem firstAnswer?_append_of_mem (h : .enumerated ∈ events) :
    source.firstAnswer? log (events ++ more) = source.firstAnswer? log events := by
  induction events generalizing log with
  | nil => cases h
  | cons e rest ih =>
    cases e with
    | enumerated => rfl
    | checked | started | printed =>
      rw [List.cons_append, firstAnswer?, firstAnswer?]
      · exact ih (by simpa using h)
      · exact nofun
      · exact nofun

theorem firstAnswer?_append_of_not_mem (h : .enumerated ∉ events) :
    source.firstAnswer? log (events ++ more) = source.firstAnswer? (log ++ events) more := by
  induction events generalizing log with
  | nil => rw [List.nil_append, List.append_nil]
  | cons e rest ih =>
    rw [List.mem_cons, not_or] at h
    obtain ⟨hfirst, hrest⟩ := h
    rw [List.cons_append, firstAnswer?, ih hrest, List.append_assoc, List.singleton_append]
    exact fun heq => hfirst heq.symm

theorem firstAnswer?_of_not_mem (h : .enumerated ∉ events) :
    source.firstAnswer? log events = none := by
  rw [← List.append_nil events, firstAnswer?_append_of_not_mem h, firstAnswer?]

end ItemSource

/-! ## What does not ask -/

section Quiet

variable {source : ItemSource} {p q : Progress Event}

theorem unlisted_of_shown (e : Event) (h : (resolver source).Shown e) : e.Unlisted := by
  obtain ⟨i, rfl⟩ := h
  exact nofun

theorem unlisted_of_executes {host : Host} (log events : List Event) (cancels : Bool)
    (h : host.Executes log events cancels) : ∀ e ∈ events, e.Unlisted := by
  cases h with
  | intro _ prompt hagent =>
    intro e he
    rcases List.mem_cons.1 he with rfl | he
    · exact nofun
    · obtain ⟨chunk, _, rfl⟩ := List.mem_map.1 he
      exact nofun

/-- The agent of a run does not ask for the items. -/
theorem unlisted_handOffTo? {host : Host} {script text : String} {agent : Option String}
    {cache cache' : ResponseCache} {r : Except RunError (Option String)}
    (h : handOffTo? host script agent text cache p = (r, cache', q)) :
    p.Grows q Event.Unlisted :=
  (reaches_handOffTo? h).grows unlisted_of_executes

theorem unlisted_runFilled {scene : Scene} {a : Action} {candidates : List String}
    {r : Except RunError Rendered} (h : runFilled source scene p a candidates = (r, q)) :
    p.Grows q Event.Unlisted := by
  rw [runFilled] at h
  split at h <;> rename_i hrun <;> cases h <;> exact (grows_runVerbs hrun).mono unlisted_of_shown

theorem unlisted_resultOn {scene : Scene} {a : Action}
    {answer : Except SourceError (List String)} {r : Except ActionFault PipelineOutput}
    (h : resultOn source scene p a answer = (r, q)) : p.Grows q Event.Unlisted := by
  cases answer with
  | error e => cases h; exact .refl p
  | ok items =>
    rw [resultOn] at h
    split at h
    · cases h; exact .refl p
    · split at h <;> rename_i hrun <;> cases h <;>
        exact (grows_runVerbs hrun).mono unlisted_of_shown

end Quiet

/-! ## Variables -/

section Variables

variable {source : ItemSource} {start events : List Event} {s s' : RunState}
  {answer : Except SourceError (List String)}

/-- What a value does to the listing: nothing if it stands for no action, and otherwise the items
are listed now or were listed before. -/
theorem listing_of_renderValue {v : Value} {r : Rendered}
    (h : renderValue source s v = (.ok r, s')) :
    ∃ s₁, (v.chosen? s.scene = none ∧ s₁ = s ∨
        (v.chosen? s.scene).isSome ∧ ∃ answer, listItems source s = (some answer, s₁)) ∧
      s'.listing = s₁.listing ∧ s₁.progress.Grows s'.progress Event.Unlisted := by
  cases hchosen : v.chosen? s.scene with
  | none =>
    refine ⟨s, .inl ⟨rfl, rfl⟩, ?_⟩
    cases v with
    | action a => cases hchosen
    | caseMatch m =>
      rw [Value.chosen?] at hchosen
      rw [renderValue, hchosen] at h
      cases h
      exact ⟨rfl, .refl _⟩
    | text t =>
      obtain ⟨hfilled, rfl⟩ := Prod.mk.inj h
      exact ⟨rfl, unlisted_runFilled (Prod.ext hfilled rfl)⟩
    | number | date | flag | list | record => cases h; exact ⟨rfl, .refl _⟩
  | some a =>
    rw [renderValue_of_chosen hchosen] at h
    -- without an answer the action is given up
    rcases hlist : listItems source s with ⟨_ | answer, s₁⟩
    · rw [runAction, hlist] at h
      cases h
    · rw [runAction_of_answer hlist] at h
      obtain ⟨_, rfl⟩ := Prod.mk.inj h
      exact ⟨s₁, .inr ⟨rfl, answer, rfl⟩, rfl, unlisted_resultOn rfl⟩

/-- The answer that is given is the one that is kept. -/
theorem listing_of_listItems (h : listItems source s = (some answer, s')) :
    s'.listing = some answer := by
  rcases listItems_cases h with ⟨known, hknown, hanswer, rfl⟩ | ⟨q, _, _, rfl⟩
  · rw [hknown, hanswer]
  · rfl

theorem listItems_of_listed (h : s.listing = some answer) :
    listItems source s = (some answer, s) := by
  rw [listItems, h]

/-- The first answer stays the one that is kept. -/
theorem listing_of_renderVariables {ds : List Declaration}
    (h : renderVariables source s ds = (.ok (), s')) (hs : s.listing = some answer) :
    s'.listing = some answer := by
  induction ds generalizing s with
  | nil => cases h; exact hs
  | cons d rest ih =>
    obtain ⟨r, s₁, hvalue, hrest⟩ := renderVariables_cons_eq_ok_iff.1 h
    refine ih hrest ?_
    obtain ⟨s₂, hlists, hlisting, _⟩ := listing_of_renderValue hvalue
    rw [RunState.keep]
    dsimp only
    rw [hlisting]
    rcases hlists with ⟨_, rfl⟩ | ⟨_, found, hlist⟩
    · exact hs
    · rw [listItems_of_listed hs] at hlist
      cases hlist
      exact hs

/-- The listing of a state is the answer to the only question among events after a log. -/
structure RunState.ListedBy (source : ItemSource) (start events : List Event) (s : RunState) :
    Prop where
  log : s.progress.log = start ++ events
  count : events.count .enumerated = s.listing.isSome.toNat
  answer : source.firstAnswer? start events = s.listing

namespace RunState.ListedBy

theorem mem_iff (h : s.ListedBy source start events) :
    .enumerated ∈ events ↔ s.listing.isSome = true := by
  rw [← List.count_pos_iff, h.count]
  cases s.listing.isSome <;> simp

/-- Questions of other kinds change nothing. -/
theorem unlisted (h : s.ListedBy source start events)
    (hgrows : s.progress.Grows s'.progress Event.Unlisted) (hlisting : s'.listing = s.listing) :
    ∃ events', s'.ListedBy source start events' := by
  obtain ⟨added, hlog, hadded, _⟩ := hgrows
  have hnone : .enumerated ∉ added := fun hmem => hadded _ hmem rfl
  refine ⟨events ++ added, by rw [hlog, h.log, List.append_assoc], ?_, ?_⟩
  · rw [List.count_append, List.count_eq_zero.2 hnone, h.count, hlisting, Nat.add_zero]
  · rw [hlisting, ← h.answer]
    by_cases hmem : .enumerated ∈ events
    · exact ItemSource.firstAnswer?_append_of_mem hmem
    · rw [ItemSource.firstAnswer?_append_of_not_mem hmem,
        ItemSource.firstAnswer?_of_not_mem hnone, ItemSource.firstAnswer?_of_not_mem hmem]

theorem listItems (h : s.ListedBy source start events)
    (hlist : listItems source s = (some answer, s')) :
    ∃ events', s'.ListedBy source start events' := by
  rcases listItems_cases hlist with ⟨known, _, _, rfl⟩ | ⟨q, hnone, hasked, rfl⟩
  · exact ⟨events, h⟩
  · obtain ⟨_, hanswer, rfl⟩ := Progress.attempt_eq_some hasked
    have hmem : .enumerated ∉ events := by
      rw [h.mem_iff, hnone]
      exact Bool.false_ne_true
    refine ⟨events ++ [.enumerated], ?_, ?_, ?_⟩
    · rw [← List.append_assoc, ← h.log]
    · rw [List.count_append, List.count_eq_zero.2 hmem]
      rfl
    · rw [ItemSource.firstAnswer?_append_of_not_mem hmem, ItemSource.firstAnswer?, ← h.log,
        hanswer]

theorem renderValue {v : Value} {r : Rendered} (h : s.ListedBy source start events)
    (hvalue : renderValue source s v = (.ok r, s')) :
    ∃ events', s'.ListedBy source start events' := by
  obtain ⟨s₁, hlists, hlisting, hgrows⟩ := listing_of_renderValue hvalue
  rcases hlists with ⟨_, rfl⟩ | ⟨_, answer, hlist⟩
  · exact h.unlisted hgrows hlisting
  · obtain ⟨events₁, h₁⟩ := h.listItems hlist
    exact h₁.unlisted hgrows hlisting

theorem keep (h : s.ListedBy source start events) (name : String) (r : Rendered) :
    (s.keep name r).ListedBy source start events := ⟨h.log, h.count, h.answer⟩

theorem renderVariables {ds : List Declaration} (h : s.ListedBy source start events)
    (hvars : renderVariables source s ds = (.ok (), s')) :
    ∃ events', s'.ListedBy source start events' := by
  induction ds generalizing s events with
  | nil => cases hvars; exact ⟨events, h⟩
  | cons d rest ih =>
    obtain ⟨r, s₁, hvalue, hrest⟩ := renderVariables_cons_eq_ok_iff.1 hvars
    obtain ⟨events₁, h₁⟩ := h.renderValue hvalue
    exact ih (h₁.keep d.name r) hrest

end RunState.ListedBy

/-! ## Turns -/

/-- The items are listed in the end if they were before, or if some turn has an action. -/
theorem isSome_listing_of_renderVariables {ds : List Declaration}
    (h : renderVariables source s ds = (.ok (), s')) :
    s'.listing.isSome =
      (s.listing.isSome || (turnsFrom source s ds).any fun t => t.chosen?.isSome) := by
  -- over the declarations, with what is listed before them on the left
  induction ds generalizing s with
  | nil => cases h; rw [turnsFrom, List.any_nil, Bool.or_false]
  | cons d rest ih =>
    obtain ⟨r, s₁, hvalue, hrest⟩ := renderVariables_cons_eq_ok_iff.1 h
    rw [ih hrest, turnsFrom_cons hvalue, List.any_cons, ← Bool.or_assoc]
    congr 1
    obtain ⟨s₂, hlists, hlisting, _⟩ := listing_of_renderValue hvalue
    rw [RunState.keep, Turn.chosen?]
    dsimp only
    rw [hlisting]
    rcases hlists with ⟨hnone, rfl⟩ | ⟨hsome, answer, hlist⟩
    · rw [hnone, Option.isSome_none, Bool.or_false]
    · rw [hsome, Bool.or_true, listing_of_listItems hlist, Option.isSome_some]

/-- A turn with an action works on the answer that is kept in the end. -/
theorem listing_of_turn {ds : List Declaration} {t : Turn}
    (h : renderVariables source s ds = (.ok (), s')) (ht : t ∈ turnsFrom source s ds)
    (hchosen : t.chosen?.isSome = true) : t.answer? source = s'.listing := by
  obtain ⟨before, after, r, s₁, _, hsplit⟩ := exists_split_of_mem_turns h ht
  obtain ⟨s₂, hlists, hlisting, _⟩ := listing_of_renderValue hsplit.value
  rcases hlists with ⟨hnone, _⟩ | ⟨_, answer, hlist⟩
  · rw [Turn.chosen?, hnone] at hchosen
    cases hchosen
  · have hkept := hlisting.trans (listing_of_listItems hlist)
    rw [Turn.answer?, hlist, listing_of_renderVariables hsplit.after hkept]

end Variables

/-! ## The body -/

section Body

variable {source : ItemSource} {p q : Progress Event}

theorem log_of_findPaths (hp : p.cancelled = false) (pattern : String) :
    (findPaths source p pattern).2.log =
      p.log ++ List.replicate (Pattern.read (wholePath pattern)).isOk.toNat .enumerated := by
  rw [findPaths, ← PatternLibrary.isOk_compile]
  cases PatternLibrary.compile (wholePath pattern) with
  | error fault => exact (List.append_nil _).symm
  | ok whole =>
    have hlog : (source.list p).2.log = p.log ++ [.enumerated] := by
      rw [ItemSource.list, Progress.attempt, if_neg (Bool.eq_false_iff.1 hp)]
    dsimp only
    split <;> rename_i hlist <;> rw [hlist] at hlog <;> exact hlog

theorem log_of_showCommand (hp : p.cancelled = false) (text : String) :
    (showCommand source p text).2.log =
      p.log ++ List.replicate ((Call.find? text).any Call.searches).toNat .enumerated := by
  have hshow : (showCommand source p text).2 = (runCommand source p text).2 := by
    rw [showCommand]
    split <;> rename_i hrun <;> rw [hrun]
  rw [hshow, runCommand]
  cases Call.find? text with
  | none => exact (List.append_nil _).symm
  | some c =>
    rw [Option.any_some]
    dsimp only
    rw [Call.run, Call.searches]
    cases FileFunction.ofName? c.function with
    | none => exact (List.append_nil _).symm
    | some function =>
      cases c.arguments with
      | nil => exact (List.append_nil _).symm
      | cons argument rest => exact log_of_findPaths hp (unquoted argument)

/-- Each command that gets as far as the source asks it once. -/
theorem log_of_expandParts {s : Scene} {parts : List BodyPart} {texts : List String}
    (h : expandParts source s p parts = (.ok texts, q)) :
    q.log = p.log ++ List.replicate (parts.countP BodyPart.searches) .enumerated := by
  induction parts generalizing p texts with
  | nil => cases h; exact (List.append_nil _).symm
  | cons part rest ih =>
    cases part with
    | plain text =>
      rw [expandParts] at h
      split at h
      · cases h
      · rename_i hrest
        cases h
        rw [ih hrest, List.countP_cons_of_neg (by exact Bool.false_ne_true)]
    | command call =>
      simp only [expandParts] at h
      split at h
      · cases h
      · rename_i hrunning
        split at h
        · cases h
        · rename_i hrest
          cases h
          -- the token is looked at after the command, so it was not cancelled before it either
          have hp : p.cancelled = false :=
            ((reaches_showCommand rfl).grows unchecked_of_lists).uncancelled
              (Bool.eq_false_iff.2 hrunning)
          rw [ih hrest, log_of_showCommand hp, List.append_assoc, List.replicate_append_replicate,
            List.countP_cons, BodyPart.searches, Nat.add_comm]
          congr 2
          cases (Call.find? (String.ofList call)).any Call.searches <;> rfl

end Body

/-! ## Whole runs -/

section Runs

variable {host : Host} {script : String} {d : Document} {context : Context}
  {cache cache' : ResponseCache} {p q : Progress Event} {out : RunOutput}

/-- The listings of a run that completes: at most one for its variables, and one for each command of
the body that gets as far as the source. -/
theorem listings_of_run (h : d.run host script context cache p = (.ok out, cache', q)) :
    ∃ s events, renderVariables host.source { scene := ⟨context, .empty⟩, progress := p }
        d.header.declarations = (.ok (), s) ∧
      q.log = p.log ++ events ∧
      events.count .enumerated =
        s.listing.isSome.toNat + (bodyParts d.body).countP BodyPart.searches ∧
      (s.listing.isSome → host.source.firstAnswer? p.log events = s.listing) := by
  obtain ⟨s, p₁, text, hvars, hbody, hagent, _⟩ := run_eq_ok h
  have hstart : RunState.ListedBy host.source p.log []
      { scene := ⟨context, .empty⟩, progress := p } := ⟨(List.append_nil _).symm, rfl, rfl⟩
  obtain ⟨events, hlisted⟩ := hstart.renderVariables hvars
  obtain ⟨texts, hparts⟩ : ∃ texts,
      expandParts host.source s.scene s.progress (bodyParts d.body) = (.ok texts, p₁) := by
    rw [expandBody] at hbody
    split at hbody <;> rename_i hparts <;> cases hbody
    exact ⟨_, hparts⟩
  obtain ⟨added, hlog, hadded, _⟩ := unlisted_handOffTo? hagent
  have hnone : .enumerated ∉ added := fun hmem => hadded _ hmem rfl
  rw [log_of_expandParts hparts, hlisted.log, List.append_assoc, List.append_assoc] at hlog
  refine ⟨s, _, hvars, hlog, ?_, ?_⟩
  · rw [List.count_append, List.count_append, List.count_replicate_self,
      List.count_eq_zero.2 hnone, hlisted.count, Nat.add_zero]
  · intro hsome
    rw [ItemSource.firstAnswer?_append_of_mem (hlisted.mem_iff.2 hsome), hlisted.answer]

/-- In a run that is not cancelled, the variables that stand for an action need one listing
together, and each is given the result of its action on the answer to the first question. -/
theorem one_listing_serves_variables {text : String} (hd : Document.compile text = .ok d)
    (hp : (d.run host script context cache p).2.2.cancelled = false) :
    ∃ out cache' q events, d.run host script context cache p = (.ok out, cache', q) ∧
      q.log = p.log ++ events ∧
      (d.turns host.source context p).map (·.declaration) = d.header.declarations ∧
      events.count .enumerated =
        ((d.turns host.source context p).any fun t => t.chosen?.isSome).toNat +
          (bodyParts d.body).countP BodyPart.searches ∧
      ∀ t ∈ d.turns host.source context p, ∀ a, t.chosen? = some a →
        ∃ answer r, host.source.firstAnswer? p.log events = some answer ∧
          shownResult (t.result host.source a answer) = .ok r ∧
          out.rendered.get? t.name = some r.text := by
  obtain ⟨out, cache', q, hrun, _⟩ := run_completes hp
  obtain ⟨s, events, hvars, hlog, hcount, hfirst⟩ := listings_of_run hrun
  have hlisting : s.listing.isSome =
      (d.turns host.source context p).any fun t => t.chosen?.isSome :=
    isSome_listing_of_renderVariables hvars
  refine ⟨out, cache', q, events, hrun, hlog, map_declaration_turns hrun, ?_, ?_⟩
  · rw [hcount, hlisting]
  · intro t ht a hchosen
    obtain ⟨r, hrendered, hget⟩ := text_of_turn hd hrun ht
    obtain ⟨answer, hanswer, hshown⟩ := shown_of_chosen hrendered hchosen
    have hkept : s.listing = some answer := by
      rw [← listing_of_turn hvars ht (by rw [hchosen]; rfl), hanswer]
    exact ⟨answer, r, by rw [hfirst (by rw [hkept]; rfl), hkept], hshown, hget⟩

end Runs

/-- A source whose answer gets longer each time it is asked. -/
def growing : ItemSource where
  enumerate log := .finishes (.ok (List.replicate (log.count .enumerated + 1) "a"))
  isEligible _ _ := .finishes true

/-- Two actions, one of them in a case match, and two commands of which one can be carried out. -/
def growingText : String :=
  "---\nvariables:\n  a: /./ \x7b sort(\"path\") \x7d\n" ++
    "  b: case \"$input\" \x7b \"c\" /./ \x7b sort(\"path\") \x7d \x7d\n---\n" ++
    "@file-func:regex(.) @file-func:regex(()\n"

theorem one_listing_serves_variables_growing :
    let host : Host := ⟨growing, .withEcho⟩
    let context := Context.set {} "input" "c"
    ∃ d out q events, Document.compile growingText = .ok d ∧
      (d.run host "s" context .empty {}).1 = .ok out ∧
      (d.run host "s" context .empty {}).2.2 = q ∧ q.log = [] ++ events ∧
      events.count .enumerated = 2 ∧
      out.rendered.entries = [("a", "a"), ("b", "a")] ∧
      ∀ t ∈ d.turns growing context {}, ∀ a, t.chosen? = some a →
        ∃ answer r, growing.firstAnswer? [] events = some answer ∧
          shownResult (t.result growing a answer) = .ok r ∧
          out.rendered.get? t.name = some r.text := by
  intro host context
  have hmap : (Document.compile growingText).toOption.map (fun d =>
      let r := d.run host "s" context .empty {}
      (((d.turns growing context {}).any fun t => t.chosen?.isSome).toNat +
          (bodyParts d.body).countP BodyPart.searches,
        r.2.2.cancelled, r.1.toOption.map (·.rendered.entries))) =
      some (2, false, some [("a", "a"), ("b", "a")]) := by
    decide +kernel
  obtain ⟨d, hd, hread⟩ := Document.compiled_of_map hmap
  simp only [Prod.mk.injEq] at hread
  obtain ⟨htwo, hrunning, hentries⟩ := hread
  obtain ⟨out, cache', q, events, hrun, hlog, _, hcount, hturns⟩ :=
    one_listing_serves_variables hd hrunning
  simp only [hrun, Except.toOption, Option.map_some, Option.some.injEq] at hentries
  exact ⟨d, out, q, events, hd, by rw [hrun], by rw [hrun], hlog, hcount.trans htwo, hentries,
    hturns⟩

end PromptScript
