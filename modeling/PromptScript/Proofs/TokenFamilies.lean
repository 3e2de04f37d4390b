import Mathlib.Data.List.Induction
import Mathlib.Logic.Relation
import PromptScript.Cancellation.Tokens

/-!
# Proofs.TokenFamilies

Which tokens are cancelled, and what becomes of work under them. The acts that have taken place say
which token was cloned from which, and so which tokens are of one family (`SameFamily`).

* `isCancelled_after_iff`: a token is cancelled exactly if one of its family was, at some point.
* `poll_eq_iff`: work that is polled has the ending that `Outcome` names, and does those acts.
* `run_eq_attempt`: what a run of a document attempts is such work.
* `cancellation_follows_families`: all of this holds throughout every sequence of steps.
-/

namespace PromptScript

/-- A step of a sequence: one act, or work that is run under a token. -/
inductive TokenStep (α : Type u) where
  | act (a : TokenAct)
  | run (token : Nat) (polls : List (Poll α))

namespace Tokens

variable {α : Type u} {ε : Type v} {log more : List TokenAct} {a : TokenAct} {token other : Nat}

/-! ## Families -/

/-- One act more. Created tokens have no parent, and a number that no token has cannot be cloned. -/
def bear (parents : List (Option Nat)) : TokenAct → List (Option Nat)
  | .create => parents ++ [none]
  | .clone token => if token < parents.length then parents ++ [some token] else parents
  | .cancel _ => parents
  | .query _ => parents

/-- The tokens that acts bring about, in their order, each as the token that it was cloned from. -/
def parents (log : List TokenAct) : List (Option Nat) := log.foldl bear []

def ClonedFrom (log : List TokenAct) (parent token : Nat) : Prop :=
  (parents log)[token]? = some (some parent)

/-- The tokens are linked by clones, clones of clones, and so on. -/
def SameFamily (log : List TokenAct) : Nat → Nat → Prop := Relation.EqvGen (ClonedFrom log)

/-- One of the acts cancels a token of the family, one that was there at that point. -/
def CancelledIn (log : List TokenAct) (token : Nat) : Prop :=
  ∃ before c, before ++ [.cancel c] <+: log ∧ c < (parents before).length ∧ SameFamily log c token

theorem perform_append (ts : Tokens) (acts more : List TokenAct) :
    ts.perform (acts ++ more) = (ts.perform acts).perform more := List.foldl_append

/-- The tokens after some acts. -/
def after (log : List TokenAct) : Tokens := ({} : Tokens).perform log

theorem after_append : after (log ++ more) = (after log).perform more := perform_append ..

theorem after_concat : after (log ++ [a]) = (after log).act a := after_append

theorem parents_concat : parents (log ++ [a]) = bear (parents log) a := List.foldl_append

theorem getElem?_concat_eq_some_iff {β : Type v} {l : List β} {i : Nat} {x y : β} :
    (l ++ [x])[i]? = some y ↔ l[i]? = some y ∨ (i = l.length ∧ x = y) := by
  rcases Nat.lt_trichotomy i l.length with hlt | rfl | hlt
  · rw [List.getElem?_append_left hlt]
    simp [Nat.ne_of_lt hlt]
  · simp
  · rw [List.getElem?_eq_none (by simp; omega), List.getElem?_eq_none (Nat.le_of_lt hlt)]
    simp [Nat.ne_of_gt hlt]

/-- A created token bears its own number as the name of its family, and a clone the name that its
parent bears. -/
structure Labelled (parents : List (Option Nat)) (families : List Nat) : Prop where
  length_eq : families.length = parents.length
  created : ∀ token : Nat, parents[token]? = some none → families[token]? = some token
  cloned : ∀ token parent : Nat, parents[token]? = some (some parent) →
    parent < token ∧ families[token]? = families[parent]?

theorem Labelled.concat {ps : List (Option Nat)} {families : List Nat} (h : Labelled ps families)
    {parent? : Option Nat} {family : Nat} (hcreated : parent? = none → family = families.length)
    (hcloned : ∀ parent, parent? = some parent → families[parent]? = some family) :
    Labelled (ps ++ [parent?]) (families ++ [family]) := by
  refine ⟨by simp [h.length_eq], fun token htoken => ?_, fun token parent htoken => ?_⟩
  · rcases getElem?_concat_eq_some_iff.1 htoken with htoken | ⟨rfl, hnone⟩
    · exact getElem?_concat_eq_some_iff.2 (.inl (h.created token htoken))
    · rw [hcreated hnone, ← h.length_eq]
      exact List.getElem?_concat_length
  · rcases getElem?_concat_eq_some_iff.1 htoken with htoken | ⟨rfl, hsome⟩
    · obtain ⟨hparent, hfamily⟩ := h.cloned token parent htoken
      have htoken : token < families.length := h.length_eq ▸ (List.getElem?_eq_some_iff.1 htoken).1
      rw [List.getElem?_append_left htoken, List.getElem?_append_left (Nat.lt_trans hparent htoken)]
      exact ⟨hparent, hfamily⟩
    · have hfamily := hcloned parent hsome
      have hparent : parent < families.length := (List.getElem?_eq_some_iff.1 hfamily).1
      rw [← h.length_eq, List.getElem?_append_left hparent, hfamily]
      exact ⟨hparent, List.getElem?_concat_length⟩

theorem families_cancel (ts : Tokens) : (ts.cancel token).families = ts.families := by
  rw [cancel]
  cases ts.families[token]? with
  | none => rfl
  | some family =>
    dsimp only
    split <;> rfl

theorem labelled_after (log : List TokenAct) : Labelled (parents log) (after log).families := by
  induction log using List.reverseRecOn with
  | nil =>
    refine ⟨rfl, fun token htoken => ?_, fun token parent htoken => ?_⟩
    all_goals cases htoken
  | append_singleton log a ih =>
    rw [after_concat, parents_concat]
    cases a with
    | create =>
      refine ih.concat (fun _ => rfl) fun parent hparent => ?_
      cases hparent
    | clone token =>
      rw [bear, act, clone, ← ih.length_eq]
      cases hfamily : (after log).families[token]? with
      | some family =>
        rw [if_pos (List.getElem?_eq_some_iff.1 hfamily).1]
        refine ih.concat (fun hnone => ?_) fun parent hparent => ?_
        · cases hnone
        · rwa [← Option.some.inj hparent]
      | none =>
        rw [if_neg (Nat.not_lt.2 (List.getElem?_eq_none_iff.1 hfamily))]
        exact ih
    | cancel token =>
      rw [bear, act, families_cancel]
      exact ih
    | query token => exact ih

/-- Every token is of the family whose name it bears, and its family has the name of one of them. -/
theorem exists_family (htoken : token < (parents log).length) :
    ∃ family, (after log).families[token]? = some family ∧ SameFamily log token family := by
  have hlabelled := labelled_after log
  induction token using Nat.strongRecOn with
  | ind token ih =>
    cases hparent : (parents log)[token]? with
    | none => exact absurd (List.getElem?_eq_none_iff.1 hparent) (Nat.not_le.2 htoken)
    | some parent? =>
      cases parent? with
      | none => exact ⟨token, hlabelled.created token hparent, .refl token⟩
      | some parent =>
        obtain ⟨hlt, hfamily⟩ := hlabelled.cloned token parent hparent
        obtain ⟨family, hsome, hsame⟩ := ih parent hlt (Nat.lt_trans hlt htoken)
        exact ⟨family, hfamily.trans hsome, .trans _ _ _ (.symm _ _ (.rel _ _ hparent)) hsame⟩

/-- Two tokens bear one name exactly if they are of one family. -/
theorem family_eq_iff {family : Nat} (htoken : (after log).families[token]? = some family) :
    (after log).families[other]? = some family ↔ SameFamily log token other := by
  have hlength {t : Nat} (h : (after log).families[t]? = some family) :
      t < (parents log).length := by
    rw [← (labelled_after log).length_eq]
    exact (List.getElem?_eq_some_iff.1 h).1
  constructor
  · intro hother
    obtain ⟨f, hf, hleft⟩ := exists_family (hlength htoken)
    obtain ⟨g, hg, hright⟩ := exists_family (hlength hother)
    rw [htoken] at hf
    rw [hother] at hg
    cases hf
    cases hg
    exact .trans _ _ _ hleft (.symm _ _ hright)
  · intro hsame
    rw [← htoken]
    clear htoken hlength
    induction hsame with
    | rel x y h => exact ((labelled_after log).cloned y x h).2
    | refl x => rfl
    | symm x y _ ih => exact ih.symm
    | trans x y z _ _ hxy hyz => exact hyz.trans hxy

/-! ## Cancelled tokens -/

theorem prefix_act (ts : Tokens) (a : TokenAct) :
    ts.families <+: (ts.act a).families ∧ ts.cancelled <+: (ts.act a).cancelled := by
  cases a with
  | create => exact ⟨List.prefix_append _ _, List.prefix_rfl⟩
  | clone token =>
    rw [act, clone]
    split
    · exact ⟨List.prefix_append _ _, List.prefix_rfl⟩
    · exact ⟨List.prefix_rfl, List.prefix_rfl⟩
  | cancel token =>
    rw [act, families_cancel, cancel]
    refine ⟨List.prefix_rfl, ?_⟩
    split
    · split
      · exact List.prefix_rfl
      · exact List.prefix_append _ _
    · exact List.prefix_rfl
  | query token => exact ⟨List.prefix_rfl, List.prefix_rfl⟩

/-- Families keep their tokens, and what is cancelled stays so. -/
theorem prefix_perform (ts : Tokens) (acts : List TokenAct) :
    ts.families <+: (ts.perform acts).families ∧ ts.cancelled <+: (ts.perform acts).cancelled := by
  induction acts generalizing ts with
  | nil => exact ⟨List.prefix_rfl, List.prefix_rfl⟩
  | cons a rest ih =>
    have hfirst := prefix_act ts a
    have hrest := ih (ts.act a)
    exact ⟨hfirst.1.trans hrest.1, hfirst.2.trans hrest.2⟩

theorem getElem?_of_isPrefix {β : Type v} {l l' : List β} {i : Nat} {x : β} (h : l <+: l')
    (hx : l[i]? = some x) : l'[i]? = some x := by
  obtain ⟨added, rfl⟩ := h
  rw [List.getElem?_append_left (List.getElem?_eq_some_iff.1 hx).1, hx]

theorem family_perform {ts : Tokens} {acts : List TokenAct} {family : Nat}
    (h : ts.families[token]? = some family) : (ts.perform acts).families[token]? = some family :=
  getElem?_of_isPrefix (prefix_perform ts acts).1 h

theorem isCancelled_iff {ts : Tokens} :
    ts.isCancelled token = true ↔
      ∃ family, ts.families[token]? = some family ∧ family ∈ ts.cancelled := by
  rw [isCancelled]
  split
  · rename_i family hfamily
    simp [hfamily]
  · rename_i hnone
    simp [hnone]

theorem isCancelled_perform {ts : Tokens} {acts : List TokenAct}
    (h : ts.isCancelled token = true) : (ts.perform acts).isCancelled token = true := by
  obtain ⟨family, hfamily, hmem⟩ := isCancelled_iff.1 h
  exact isCancelled_iff.2 ⟨family, family_perform hfamily, (prefix_perform ts acts).2.subset hmem⟩

theorem mem_cancelled_act_iff {ts : Tokens} {family : Nat} :
    family ∈ (ts.act a).cancelled ↔
      (∃ c, a = .cancel c ∧ ts.families[c]? = some family) ∨ family ∈ ts.cancelled := by
  cases a with
  | create => simp [act, fresh]
  | clone token =>
    rw [act, clone]
    split <;> simp
  | query token => simp [act]
  | cancel token =>
    rw [act, cancel]
    simp only [TokenAct.cancel.injEq, exists_eq_left']
    split
    · rename_i f hf
      rw [hf, Option.some.injEq]
      split
      · rename_i hmem
        rw [List.contains_iff_mem] at hmem
        refine ⟨.inr, ?_⟩
        rintro (rfl | h)
        · exact hmem
        · exact h
      · rw [List.mem_append, List.mem_singleton, or_comm, eq_comm]
    · rename_i hnone
      simp [hnone]

theorem mem_cancelled_after_iff {family : Nat} :
    family ∈ (after log).cancelled ↔
      ∃ before c, before ++ [.cancel c] <+: log ∧
        (after before).families[c]? = some family := by
  induction log using List.reverseRecOn with
  | nil => simp [after, perform]
  | append_singleton log a ih =>
    rw [after_concat, mem_cancelled_act_iff, ih]
    constructor
    · rintro (⟨c, rfl, hc⟩ | ⟨before, c, hbegins, hc⟩)
      · exact ⟨log, c, List.prefix_rfl, hc⟩
      · exact ⟨before, c, hbegins.trans (List.prefix_append _ _), hc⟩
    · rintro ⟨before, c, hbegins, hc⟩
      rcases List.prefix_concat_iff.1 hbegins with heq | hbegins
      · obtain ⟨rfl, hlast⟩ := List.append_inj' heq rfl
        exact .inl ⟨c, (List.cons.inj hlast).1.symm, hc⟩
      · exact .inr ⟨before, c, hbegins, hc⟩

theorem family_of_isPrefix {before : List TokenAct} {family : Nat} (hbegins : before ++ [a] <+: log)
    (h : (after before).families[token]? = some family) :
    (after log).families[token]? = some family := by
  obtain ⟨more, rfl⟩ := hbegins
  rw [List.append_assoc, after_append]
  exact family_perform h

/-- A token is cancelled exactly if a token of its family was. -/
theorem isCancelled_after_iff : (after log).isCancelled token = true ↔ CancelledIn log token := by
  rw [isCancelled_iff]
  constructor
  · rintro ⟨family, hfamily, hmem⟩
    obtain ⟨before, c, hbegins, hc⟩ := mem_cancelled_after_iff.1 hmem
    refine ⟨before, c, hbegins, ?_, (family_eq_iff (family_of_isPrefix hbegins hc)).1 hfamily⟩
    rw [← (labelled_after before).length_eq]
    exact (List.getElem?_eq_some_iff.1 hc).1
  · rintro ⟨before, c, hbegins, hlength, hsame⟩
    obtain ⟨family, hc, -⟩ := exists_family hlength
    exact ⟨family, (family_eq_iff (family_of_isPrefix hbegins hc)).2 hsame,
      mem_cancelled_after_iff.2 ⟨before, c, hbegins, hc⟩⟩

theorem isCancelled_eq_of_sameFamily (h : SameFamily log token other) :
    (after log).isCancelled token = (after log).isCancelled other := by
  rw [Bool.eq_iff_iff, isCancelled_after_iff, isCancelled_after_iff]
  constructor
  · rintro ⟨before, c, hbegins, hlength, hsame⟩
    exact ⟨before, c, hbegins, hlength, .trans _ _ _ hsame h⟩
  · rintro ⟨before, c, hbegins, hlength, hsame⟩
    exact ⟨before, c, hbegins, hlength, .trans _ _ _ hsame (.symm _ _ h)⟩

theorem CancelledIn.append (h : CancelledIn log token) : CancelledIn (log ++ more) token := by
  rw [← isCancelled_after_iff] at h ⊢
  rw [after_append]
  exact isCancelled_perform h

/-- Acts that cancel no token of the family leave its tokens as they are. -/
theorem isCancelled_append_of_others (htoken : token < (parents log).length)
    (h : ∀ c, .cancel c ∈ more → ¬ SameFamily (log ++ more) c token) :
    (after (log ++ more)).isCancelled token = (after log).isCancelled token := by
  rw [Bool.eq_iff_iff]
  constructor
  · intro hnow
    obtain ⟨before, c, hbegins, hlength, hsame⟩ := isCancelled_after_iff.1 hnow
    have hcut : before ++ [.cancel c] <+: log := by
      rcases List.prefix_or_prefix_of_prefix hbegins (List.prefix_append log more) with hlog | hlog
      · exact hlog
      · obtain ⟨added, hadded⟩ := hlog
        rcases List.eq_nil_or_concat added with rfl | ⟨others, last, rfl⟩
        · rw [List.append_nil] at hadded
          exact hadded ▸ List.prefix_rfl
        · rw [← hadded, List.prefix_append_right_inj] at hbegins
          rw [List.concat_eq_append, ← List.append_assoc] at hadded
          have hlast := (List.cons.inj (List.append_inj' hadded rfl).2).1
          exact absurd hsame (h c (hbegins.subset (by simp [hlast])))
    obtain ⟨family, hfamily, -⟩ := exists_family htoken
    obtain ⟨f, hf, -⟩ := exists_family hlength
    have hlater := (family_eq_iff (family_of_isPrefix hbegins hf)).2 hsame
    rw [after_append, family_perform hfamily] at hlater
    cases hlater
    exact isCancelled_iff.2 ⟨family, hfamily, mem_cancelled_after_iff.2 ⟨before, c, hcut, hf⟩⟩
  · intro hbefore
    rw [after_append]
    exact isCancelled_perform hbefore

/-! ## Work -/

section Work

variable {ts : Tokens} {polls early later : List (Poll α)} {p : Poll α} {ending : Ending α}
  {acts : List TokenAct}

def actsOf (polls : List (Poll α)) : List TokenAct := polls.flatMap (·.acts)

theorem actsOf_cons : actsOf (p :: later) = p.acts ++ actsOf later := List.flatMap_cons

theorem actsOf_concat : actsOf (early ++ [p]) = actsOf early ++ p.acts := by
  simp [actsOf]

/-- What becomes of work that is run under a token after some acts, and the acts that it does. -/
inductive Outcome (log : List TokenAct) (token : Nat) (polls : List (Poll α)) :
    Ending α → List TokenAct → Prop where
  /-- The family is cancelled already. The work is not started. -/
  | refused : CancelledIn log token → Outcome log token polls (.returned none) []
  /-- The work finishes. Its family may be cancelled in this very poll, but not before it. -/
  | finished {early later : List (Poll α)} {p : Poll α} {result : α} :
      polls = early ++ p :: later → (∀ q ∈ early, q.result = none) →
        ¬ CancelledIn (log ++ actsOf early) token → p.result = some result →
          Outcome log token polls (.returned (some result)) (actsOf (early ++ [p]))
  /-- The family is cancelled in a poll that does not finish the work. -/
  | givenUp {early later : List (Poll α)} {p : Poll α} :
      polls = early ++ p :: later → (∀ q ∈ early ++ [p], q.result = none) →
        ¬ CancelledIn (log ++ actsOf early) token →
          CancelledIn (log ++ actsOf (early ++ [p])) token →
            Outcome log token polls (.returned none) (actsOf (early ++ [p]))
  /-- The work never finishes, and nobody cancels the family. -/
  | waits : (∀ q ∈ polls, q.result = none) → ¬ CancelledIn (log ++ actsOf polls) token →
      Outcome log token polls .waits (actsOf polls)

/-- A poll that neither finishes the work nor comes too late leaves the rest as it is. -/
theorem Outcome.cons (hp : p.result = none) (hlog : ¬ CancelledIn log token)
    (h : Outcome (log ++ p.acts) token later ending acts) :
    Outcome log token (p :: later) ending (p.acts ++ acts) := by
  cases h with
  | refused hcancelled =>
    have hacts : p.acts = actsOf ([] ++ [p]) := by simp [actsOf]
    rw [List.append_nil, hacts]
    refine .givenUp rfl (by simpa using hp) (by simpa [actsOf] using hlog) ?_
    rwa [← hacts]
  | finished hpolls hearly hfree hresult =>
    rw [List.append_assoc, ← actsOf_cons] at hfree
    rw [← actsOf_cons, ← List.cons_append]
    exact .finished (by rw [hpolls]; rfl) (List.forall_mem_cons.2 ⟨hp, hearly⟩) hfree hresult
  | givenUp hpolls hearly hfree hcancelled =>
    rw [List.append_assoc, ← actsOf_cons] at hfree hcancelled
    rw [← actsOf_cons, ← List.cons_append]
    exact .givenUp (by rw [hpolls]; rfl) (List.forall_mem_cons.2 ⟨hp, hearly⟩) hfree hcancelled
  | waits hpending hfree =>
    rw [List.append_assoc, ← actsOf_cons] at hfree
    rw [← actsOf_cons]
    exact .waits (List.forall_mem_cons.2 ⟨hp, hpending⟩) hfree

theorem poll_of_cancelled (h : ts.isCancelled token = true) :
    ts.poll token polls = (.returned none, []) := by
  cases polls <;> rw [poll, if_pos h]

/-- What a run of a document attempts under its token is work that is polled under it. -/
theorem run_eq_attempt (htoken : token < ts.families.length) {p : Progress ε}
    (hp : p.cancelled = ts.isCancelled token) (events : List ε) (work : Work α) :
    ts.run token work = ((p.attempt events fun _ => work).1,
      if (p.attempt events fun _ => work).2.cancelled then ts.cancel token else ts) := by
  by_cases hcancelled : ts.isCancelled token = true
  · have hstill : ts.cancel token = ts := by
      rw [cancel, List.getElem?_eq_getElem htoken]
      rw [isCancelled, List.getElem?_eq_getElem htoken] at hcancelled
      exact if_pos hcancelled
    rw [hcancelled] at hp
    rw [run, poll_of_cancelled hcancelled, Progress.attempt_of_cancelled hp, if_pos hp, hstill]
    rfl
  · have hfree : ¬ p.cancelled = true := by rwa [hp]
    rw [Progress.attempt, if_neg hfree, run]
    cases work with
    | finishes result => rw [Work.polls, poll, if_neg hcancelled]; rfl
    | cancelsAndFinishes result => rw [Work.polls, poll, if_neg hcancelled]; rfl
    | cancelsAndHangs =>
      -- whether the last look at the token finds it cancelled or not, there is no result
      rw [Work.polls, poll, if_neg hcancelled, poll]
      by_cases hlast : (ts.perform [.cancel token]).isCancelled token = true
      · rw [if_pos hlast]
        rfl
      · rw [if_neg hlast]
        rfl

/-- Polls that do not finish the work, and before which the family is not cancelled, only add what
they do. -/
theorem poll_append (hpending : ∀ q ∈ early, q.result = none)
    (hfree : (ts.perform (actsOf early)).isCancelled token ≠ true) :
    ts.poll token (early ++ later) =
      (((ts.perform (actsOf early)).poll token later).1,
        actsOf early ++ ((ts.perform (actsOf early)).poll token later).2) := by
  induction early generalizing ts with
  | nil => rfl
  | cons p early ih =>
    obtain ⟨hp, hpending⟩ := List.forall_mem_cons.1 hpending
    have hperform : ts.perform (actsOf (p :: early)) =
        (ts.perform p.acts).perform (actsOf early) := by
      rw [actsOf_cons, perform_append]
    rw [hperform] at hfree ⊢
    have hnow : ¬ ts.isCancelled token = true :=
      fun h => hfree (isCancelled_perform (isCancelled_perform h))
    rw [List.cons_append, poll, if_neg hnow, hp, ih hpending hfree, actsOf_cons,
      List.append_assoc]

/-- Work comes to what its outcome says, and has no other. -/
theorem poll_eq_iff :
    (after log).poll token polls = (ending, acts) ↔ Outcome log token polls ending acts := by
  constructor
  · intro h
    induction polls generalizing log acts with
    | nil =>
      rw [poll] at h
      split at h <;> cases h <;> rename_i hnow
      · exact .refused (isCancelled_after_iff.1 hnow)
      · rw [isCancelled_after_iff] at hnow
        exact .waits nofun (by simpa [actsOf] using hnow)
    | cons p later ih =>
      rw [poll] at h
      split at h
      · rename_i hnow
        cases h
        exact .refused (isCancelled_after_iff.1 hnow)
      · rename_i hnow
        rw [isCancelled_after_iff] at hnow
        split at h
        · rename_i result hresult
          cases h
          have hacts : p.acts = actsOf ([] ++ [p]) := by simp [actsOf]
          rw [hacts]
          exact .finished rfl nofun (by simpa [actsOf] using hnow) hresult
        · rename_i hresult
          rw [← after_append] at h
          cases h
          exact .cons hresult hnow (ih rfl)
  · intro h
    cases h with
    | refused hcancelled => exact poll_of_cancelled (isCancelled_after_iff.2 hcancelled)
    | finished hpolls hearly hfree hresult =>
      rw [← isCancelled_after_iff, after_append] at hfree
      rw [hpolls, poll_append hearly hfree, poll, if_neg hfree, hresult, actsOf_concat]
    | @givenUp early later p hpolls hearly hfree hcancelled =>
      obtain ⟨hearly, hp⟩ := List.forall_mem_append.1 hearly
      rw [← isCancelled_after_iff, after_append] at hfree hcancelled
      rw [actsOf_concat, perform_append] at hcancelled
      rw [hpolls, poll_append hearly hfree, poll, if_neg hfree, hp p List.mem_cons_self,
        poll_of_cancelled hcancelled, actsOf_concat]
      dsimp only
      rw [List.append_nil]
    | waits hpending hfree =>
      rw [← isCancelled_after_iff, after_append] at hfree
      rw [← List.append_nil polls, poll_append hpending hfree, poll, if_neg hfree]
      simp

end Work

/-! ## Sequences -/

/-- What takes place in a step: the act, or what the work does while it is run. -/
def deeds (ts : Tokens) : TokenStep α → List TokenAct
  | .act a => [a]
  | .run token polls => (ts.poll token polls).2

/-- The acts that take place in a sequence of steps, those inside of work among them. -/
def history (steps : List (TokenStep α)) : List TokenAct :=
  steps.foldl (fun log step => log ++ (after log).deeds step) []

theorem history_concat (steps : List (TokenStep α)) (step : TokenStep α) :
    history (steps ++ [step]) = history steps ++ (after (history steps)).deeds step := by
  simp [history]

/-- The acts that take place, told by what becomes of each piece of work. -/
inductive Happens : List (TokenStep α) → List TokenAct → Prop where
  | start : Happens [] []
  | act {steps : List (TokenStep α)} {log : List TokenAct} (a : TokenAct) :
      Happens steps log → Happens (steps ++ [.act a]) (log ++ [a])
  | run {steps : List (TokenStep α)} {log acts : List TokenAct} {token : Nat}
      {polls : List (Poll α)} {ending : Ending α} :
      Happens steps log → Outcome log token polls ending acts →
        Happens (steps ++ [.run token polls]) (log ++ acts)

theorem happens_iff {steps : List (TokenStep α)} : Happens steps log ↔ log = history steps := by
  constructor
  · intro h
    induction h with
    | start => rfl
    | act a _ ih => rw [history_concat, ← ih]; rfl
    | run _ houtcome ih => rw [history_concat, ← ih, deeds, poll_eq_iff.2 houtcome]
  · rintro rfl
    induction steps using List.reverseRecOn with
    | nil => exact .start
    | append_singleton steps step ih =>
      rw [history_concat]
      cases step with
      | act a => exact .act a ih
      | run token polls => exact .run ih (poll_eq_iff.1 rfl)

/-- Cancellation goes by families. At every point of every sequence a token is cancelled exactly if
a token of its family was, by an act of its own or by work that had been started; so clones agree,
what is cancelled stays so, and what happens to other families changes nothing. Work that is run
next has the ending that its outcome names, and what a run of a document attempts with such a token
comes to what it comes to as work that is polled under it. -/
theorem cancellation_follows_families (steps : List (TokenStep α)) :
    (∀ log, Happens steps log ↔ log = history steps) ∧
    (∀ log, log <+: history steps → ∀ token,
      ((after log).isCancelled token = true ↔ CancelledIn log token)) ∧
    (∀ log, log <+: history steps → ∀ token other, SameFamily log token other →
      (after log).isCancelled token = (after log).isCancelled other) ∧
    (∀ log more, log ++ more <+: history steps → ∀ token,
      (after log).isCancelled token = true → (after (log ++ more)).isCancelled token = true) ∧
    (∀ log more, log ++ more <+: history steps → ∀ token < (parents log).length,
      (∀ c, .cancel c ∈ more → ¬ SameFamily (log ++ more) c token) →
        (after (log ++ more)).isCancelled token = (after log).isCancelled token) ∧
    (∀ token (polls : List (Poll α)) ending acts,
      (after (history steps)).poll token polls = (ending, acts) ↔
        Outcome (history steps) token polls ending acts) ∧
    ∀ token < (parents (history steps)).length, ∀ p : Progress ε,
      p.cancelled = (after (history steps)).isCancelled token → ∀ events (work : Work α),
        (after (history steps)).run token work = ((p.attempt events fun _ => work).1,
          if (p.attempt events fun _ => work).2.cancelled then (after (history steps)).cancel token
          else after (history steps)) := by
  refine ⟨fun log => happens_iff, fun log _ token => isCancelled_after_iff,
    fun log _ token other => isCancelled_eq_of_sameFamily, fun log more _ token h => ?_,
    fun log more _ token => isCancelled_append_of_others,
    fun token polls ending acts => poll_eq_iff, fun token htoken p hp events work => ?_⟩
  · rw [after_append]
    exact isCancelled_perform h
  · rw [← (labelled_after _).length_eq] at htoken
    exact run_eq_attempt htoken hp events work

/-- Work that runs under a token of another family, and finishes, cancels a clone of a clone. -/
def crossingSteps : List (TokenStep Nat) :=
  [.act .create, .act (.clone 0), .act .create,
    .run 2 [⟨[.clone 1], none⟩, ⟨[.cancel 3], none⟩, ⟨[.cancel 2], some 7⟩], .act (.query 0)]

theorem cancellation_follows_families_crossing :
    history crossingSteps =
        [.create, .clone 0, .create, .clone 1, .cancel 3, .cancel 2, .query 0] ∧
      CancelledIn (history crossingSteps) 0 ∧
      ¬ CancelledIn [.create, .clone 0, .create, .clone 1] 0 ∧
      (after [.create, .clone 0, .create, .clone 1, .cancel 3]).isCancelled 2 = false ∧
      Outcome (history crossingSteps) 1 [⟨[.cancel 2], some 8⟩] (.returned none) [] ∧
      ((after (history crossingSteps)).run 3 (.finishes 8)).1 = none := by
  obtain ⟨-, hcancelled, -, -, hothers, houtcome, hruns⟩ :=
    cancellation_follows_families (ε := TokenAct) crossingSteps
  refine ⟨rfl, (hcancelled _ List.prefix_rfl 0).1 rfl,
    mt (hcancelled _ (by decide) 0).2 (by decide), ?_, (houtcome _ _ _ _).1 rfl,
    congrArg Prod.fst (hruns 3 (by decide) ⟨true, []⟩ rfl [] (.finishes 8))⟩
  refine (hothers [.create, .clone 0, .create, .clone 1] [.cancel 3] (by decide) 2 (by decide)
    fun c hc hsame => ?_).trans rfl
  obtain rfl : c = 3 := by simpa using hc
  have hthree : (after (([.create, .clone 0, .create, .clone 1] : List TokenAct) ++
      [.cancel 3])).families[3]? = some 0 := rfl
  exact absurd ((family_eq_iff hthree).2 hsame) (by decide)

end Tokens

end PromptScript
