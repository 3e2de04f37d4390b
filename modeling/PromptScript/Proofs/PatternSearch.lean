import PromptScript.Pattern.Search

/-!
# Proofs.PatternSearch

The search for a pattern in a text against the relation `Pattern.Matches`. A repetition describes a
text if some admitted number of rounds does (`matches_rep_iff`), `step` gives what is left to match
after one character (`exists_step_iff`), and so the search finds a pattern exactly if the pattern
describes some part of the text (`found_iff`).
-/

namespace PromptScript

namespace Pattern

/-- No repetition has a largest count below its least. -/
def Ordered : Pattern → Prop
  | .empty | .set _ | .look _ => True
  | .seq a b | .alt a b => a.Ordered ∧ b.Ordered
  | .rep least most a => (∀ m ∈ most, least ≤ m) ∧ a.Ordered

section Constructors

variable {a b : Pattern} {before after : Option Char} {w : List Char}

theorem matches_empty_iff : Matches .empty before w after ↔ w = [] := by
  constructor
  · rintro ⟨⟩
    rfl
  · rintro rfl
    exact .empty

theorem matches_set_iff {s : CharSet} :
    Matches (.set s) before w after ↔ ∃ c, w = [c] ∧ s.contains c = true := by
  constructor
  · rintro ⟨⟩
    exact ⟨_, rfl, ‹_›⟩
  · rintro ⟨c, rfl, hc⟩
    exact .set hc

theorem matches_look_iff {l : Look} :
    Matches (.look l) before w after ↔ w = [] ∧ l.holds before after = true := by
  constructor
  · rintro ⟨⟩
    exact ⟨rfl, ‹_›⟩
  · rintro ⟨rfl, h⟩
    exact .look h

theorem matches_seq_iff :
    Matches (.seq a b) before w after ↔ ∃ u v, w = u ++ v ∧
      Matches a before u (firstOr after v) ∧ Matches b (lastOr before u) v after := by
  constructor
  · rintro ⟨⟩
    exact ⟨_, _, rfl, ‹_›, ‹_›⟩
  · rintro ⟨u, v, rfl, ha, hb⟩
    exact .seq ha hb

theorem matches_alt_iff :
    Matches (.alt a b) before w after ↔ Matches a before w after ∨ Matches b before w after := by
  constructor
  · intro h
    cases h with
    | altLeft h => exact .inl h
    | altRight h => exact .inr h
  · rintro (h | h)
    · exact .altLeft h
    · exact .altRight h

end Constructors

theorem lastOr_cons (before : Option Char) (c : Char) (cs : List Char) :
    lastOr before (c :: cs) = lastOr (some c) cs := by
  rw [lastOr, lastOr, List.getLast?_cons]
  cases cs.getLast? <;> rfl

theorem lastOr_append (before : Option Char) (u v : List Char) :
    lastOr before (u ++ v) = lastOr (lastOr before u) v := by
  rw [lastOr, lastOr, lastOr, List.getLast?_append]
  cases v.getLast? <;> cases u.getLast? <;> rfl

theorem eq_nil_of_lastOr {cs : List Char} (h : lastOr none cs = none) : cs = [] := by
  cases cs with
  | nil => rfl
  | cons c cs =>
    rw [lastOr, List.getLast?_cons] at h
    cases h

theorem eq_nil_of_firstOr {cs : List Char} (h : firstOr none cs = none) : cs = [] := by
  cases cs with
  | nil => rfl
  | cons c cs => cases h

/-! ## Rounds of a repetition -/

/-- So many rounds of a pattern, one after the other, describe the text. -/
inductive Rounds (a : Pattern) : Nat → Option Char → List Char → Option Char → Prop where
  | none {before after : Option Char} : Rounds a 0 before [] after
  | more {k : Nat} {before after : Option Char} {u v : List Char} :
      Matches a before u (firstOr after v) → Rounds a k (lastOr before u) v after →
        Rounds a (k + 1) before (u ++ v) after

/-- The number of rounds is one that the repetition admits. -/
def Admits (least : Nat) (most : Option Nat) (k : Nat) : Prop := least ≤ k ∧ ∀ m ∈ most, k ≤ m

theorem admits_succ_iff {least k : Nat} {most : Option Nat} :
    Admits least most (k + 1) ↔
      most ≠ some 0 ∧ Admits (least - 1) (most.map (· - 1)) k := by
  cases most with
  | none => simp [Admits]
  | some m =>
    simp only [Admits, Option.mem_def, Option.some.injEq, forall_eq', Option.map_some, ne_eq]
    omega

/-- A repetition describes a text if a number of rounds that it admits does. -/
theorem matches_rep_iff {least : Nat} {most : Option Nat} {a : Pattern}
    {before after : Option Char} {w : List Char} :
    Matches (.rep least most a) before w after ↔
      ∃ k, Admits least most k ∧ Rounds a k before w after := by
  constructor
  · intro h
    generalize hp : Pattern.rep least most a = p at h
    induction h generalizing least most with
    | repNone =>
      cases hp
      exact ⟨0, ⟨Nat.le_refl 0, fun m _ => Nat.zero_le m⟩, .none⟩
    | repMore hmost ha _ _ ihrest =>
      cases hp
      obtain ⟨k, hk, hrounds⟩ := ihrest rfl
      exact ⟨k + 1, admits_succ_iff.2 ⟨hmost, hk⟩, .more ha hrounds⟩
    | empty => cases hp
    | set => cases hp
    | look => cases hp
    | seq => cases hp
    | altLeft => cases hp
    | altRight => cases hp
  · rintro ⟨k, hk, hrounds⟩
    induction hrounds generalizing least most with
    | none =>
      obtain rfl : least = 0 := Nat.le_zero.1 hk.1
      exact .repNone
    | more ha _ ih =>
      obtain ⟨hmost, hk⟩ := admits_succ_iff.1 hk
      exact .repMore hmost ha (ih hk)

namespace Rounds

variable {a : Pattern} {k : Nat} {before after : Option Char} {c : Char} {cs : List Char}

theorem empty_more (h : Matches a before [] (firstOr after cs)) (n : Nat)
    (hrounds : Rounds a k before cs after) : Rounds a (n + k) before cs after := by
  induction n with
  | zero => rwa [Nat.zero_add]
  | succ n ih =>
    rw [Nat.succ_add]
    exact Rounds.more (u := []) h ih

theorem nil_iff :
    Rounds a k before [] after ↔ k = 0 ∨ Matches a before [] after := by
  constructor
  · intro h
    generalize hw : ([] : List Char) = w at h
    cases h with
    | none => exact .inl rfl
    | more ha _ =>
      obtain ⟨rfl, rfl⟩ := List.append_eq_nil_iff.1 hw.symm
      exact .inr ha
  · rintro (rfl | h)
    · exact .none
    · have hnone : Rounds a 0 before [] after := .none
      exact hnone.empty_more h k

/-- The first round that takes something. Rounds before it take nothing. -/
theorem first_taking (h : Rounds a k before (c :: cs) after) :
    ∃ u v j, cs = u ++ v ∧ Matches a before (c :: u) (firstOr after v) ∧
      Rounds a j (lastOr (some c) u) v after ∧ j + 1 ≤ k ∧
        (Matches a before [] (some c) ∨ j + 1 = k) := by
  generalize hw : c :: cs = w at h
  induction h with
  | none => cases hw
  | @more k before after u v ha hrounds ih =>
    cases u with
    | nil =>
      obtain rfl : c :: cs = v := hw
      obtain ⟨u, v, j, hcs, hu, hj, hle, _⟩ := ih rfl
      exact ⟨u, v, j, hcs, hu, hj, Nat.le_succ_of_le hle, .inl ha⟩
    | cons d u =>
      obtain ⟨rfl, rfl⟩ := List.cons.inj hw
      rw [lastOr_cons] at hrounds
      exact ⟨u, v, k, rfl, ha, hrounds, Nat.le_refl _, .inr rfl⟩

end Rounds

/-! ## One character -/

theorem nullable_iff {before after : Option Char} {p : Pattern} (hp : p.Ordered) :
    nullable before after p = true ↔ Matches p before [] after := by
  induction p with
  | empty => exact iff_of_true rfl .empty
  | set s =>
    refine iff_of_false Bool.false_ne_true fun h => ?_
    obtain ⟨c, hc, _⟩ := matches_set_iff.1 h
    cases hc
  | look l => rw [nullable, matches_look_iff, and_iff_right rfl]
  | seq a b iha ihb =>
    rw [nullable, Bool.and_eq_true, iha hp.1, ihb hp.2, matches_seq_iff]
    constructor
    · rintro ⟨ha, hb⟩
      exact ⟨[], [], rfl, ha, hb⟩
    · rintro ⟨u, v, hw, ha, hb⟩
      obtain ⟨rfl, rfl⟩ := List.append_eq_nil_iff.1 hw.symm
      exact ⟨ha, hb⟩
  | alt a b iha ihb => rw [nullable, Bool.or_eq_true, iha hp.1, ihb hp.2, matches_alt_iff]
  | rep least most a ih =>
    rw [nullable, Bool.or_eq_true, ih hp.2, beq_iff_eq, matches_rep_iff]
    constructor
    · intro h
      refine ⟨least, ⟨Nat.le_refl _, hp.1⟩, Rounds.nil_iff.2 h⟩
    · rintro ⟨k, hk, hrounds⟩
      refine (Rounds.nil_iff.1 hrounds).imp_left ?_
      rintro rfl
      exact Nat.le_zero.1 hk.1

theorem matches_before_iff {p rest : Pattern} {prev after : Option Char} {w : List Char}
    (hrest : rest.Ordered) :
    Matches (before rest p) prev w after ↔ Matches (.seq p rest) prev w after := by
  unfold before
  split
  · rw [matches_seq_iff]
    constructor
    · intro h
      exact ⟨[], w, rfl, .empty, h⟩
    · rintro ⟨u, v, rfl, hu, hv⟩
      obtain rfl := matches_empty_iff.1 hu
      exact hv
  · rename_i least a _
    obtain rfl : least = 0 := Nat.le_zero.1 (hrest.1 0 rfl)
    rw [matches_seq_iff]
    constructor
    · intro h
      exact ⟨w, [], (List.append_nil w).symm, h, .repNone⟩
    · rintro ⟨u, v, rfl, hu, hv⟩
      obtain ⟨k, hk, hrounds⟩ := matches_rep_iff.1 hv
      obtain rfl : k = 0 := Nat.le_zero.1 (hk.2 0 rfl)
      cases hrounds
      rwa [List.append_nil]
  · rfl

theorem ordered_before {p rest : Pattern} (hp : p.Ordered) (hrest : rest.Ordered) :
    (before rest p).Ordered := by
  unfold before
  split
  · exact hrest
  · exact hp
  · exact ⟨hp, hrest⟩

/-- The repetition that is left after a round that began with `c`. -/
def repLeft (prev : Option Char) (c : Char) (least : Nat) (most : Option Nat) (a : Pattern) :
    Pattern :=
  .rep (if nullable prev (some c) a then 0 else least - 1) (most.map (· - 1)) a

theorem ordered_repLeft {prev : Option Char} {c : Char} {least : Nat} {most : Option Nat}
    {a : Pattern} (h : (Pattern.rep least most a).Ordered) :
    (repLeft prev c least most a).Ordered := by
  refine ⟨?_, h.2⟩
  intro m hm
  obtain ⟨n, hn, rfl⟩ := Option.map_eq_some_iff.1 hm
  have hle := h.1 n hn
  split <;> omega

theorem ordered_of_mem_step {prev : Option Char} {c : Char} {p : Pattern} (hp : p.Ordered) :
    ∀ q ∈ step prev c p, q.Ordered := by
  have hbefore : ∀ {qs : List Pattern} {rest : Pattern}, (∀ q ∈ qs, q.Ordered) → rest.Ordered →
      ∀ q ∈ qs.map (before rest), q.Ordered := by
    intro qs rest hqs hrest q hq
    obtain ⟨q, hmem, rfl⟩ := List.mem_map.1 hq
    exact ordered_before (hqs q hmem) hrest
  induction p with
  | empty => exact fun q hq => absurd hq List.not_mem_nil
  | set s =>
    rw [step]
    split
    · exact List.forall_mem_singleton.2 trivial
    · exact fun q hq => absurd hq List.not_mem_nil
  | look l => exact fun q hq => absurd hq List.not_mem_nil
  | seq a b iha ihb =>
    rw [step]
    split
    · exact List.forall_mem_append.2 ⟨hbefore (iha hp.1) hp.2, ihb hp.2⟩
    · exact hbefore (iha hp.1) hp.2
  | alt a b iha ihb => exact List.forall_mem_append.2 ⟨iha hp.1, ihb hp.2⟩
  | rep least most a ih =>
    rw [step]
    split
    · exact fun q hq => absurd hq List.not_mem_nil
    · exact hbefore (ih hp.2) (ordered_repLeft hp)

theorem exists_map_before_iff {qs : List Pattern} {rest a : Pattern} {prev after : Option Char}
    {c : Char} {cs : List Char} (hrest : rest.Ordered)
    (hqs : ∀ u after, (∃ q ∈ qs, Matches q (some c) u after) ↔ Matches a prev (c :: u) after) :
    (∃ q ∈ qs.map (before rest), Matches q (some c) cs after) ↔
      ∃ u v, cs = u ++ v ∧ Matches a prev (c :: u) (firstOr after v) ∧
        Matches rest (lastOr (some c) u) v after := by
  simp only [← hqs]
  constructor
  · rintro ⟨_, hmem, h⟩
    obtain ⟨q, hq, rfl⟩ := List.mem_map.1 hmem
    obtain ⟨u, v, hcs, hu, hv⟩ := matches_seq_iff.1 ((matches_before_iff hrest).1 h)
    exact ⟨u, v, hcs, ⟨q, hq, hu⟩, hv⟩
  · rintro ⟨u, v, hcs, ⟨q, hq, hu⟩, hv⟩
    exact ⟨_, List.mem_map_of_mem hq,
      (matches_before_iff hrest).2 (matches_seq_iff.2 ⟨u, v, hcs, hu, hv⟩)⟩

/-- The first of two patterns takes a character, or else it takes nothing. -/
theorem matches_seq_cons_iff {a b : Pattern} {prev after : Option Char} {c : Char}
    {cs : List Char} :
    Matches (.seq a b) prev (c :: cs) after ↔
      (∃ u v, cs = u ++ v ∧ Matches a prev (c :: u) (firstOr after v) ∧
        Matches b (lastOr (some c) u) v after) ∨
      Matches a prev [] (some c) ∧ Matches b prev (c :: cs) after := by
  rw [matches_seq_iff]
  constructor
  · rintro ⟨u, v, hw, hu, hv⟩
    cases u with
    | nil =>
      obtain rfl : c :: cs = v := hw
      exact .inr ⟨hu, hv⟩
    | cons d u =>
      obtain ⟨rfl, rfl⟩ := List.cons.inj hw
      rw [lastOr_cons] at hv
      exact .inl ⟨u, v, rfl, hu, hv⟩
  · rintro (⟨u, v, rfl, hu, hv⟩ | ⟨hu, hv⟩)
    · exact ⟨c :: u, v, rfl, hu, by rwa [lastOr_cons]⟩
    · exact ⟨[], c :: cs, rfl, hu, hv⟩

/-- A repetition takes a character in its first round that takes anything. -/
theorem matches_rep_cons_iff {least : Nat} {most : Option Nat} {a : Pattern}
    {prev after : Option Char} {c : Char} {cs : List Char}
    (hrep : (Pattern.rep least most a).Ordered) (hmost : most ≠ some 0) :
    Matches (.rep least most a) prev (c :: cs) after ↔
      ∃ u v, cs = u ++ v ∧ Matches a prev (c :: u) (firstOr after v) ∧
        Matches (repLeft prev c least most a) (lastOr (some c) u) v after := by
  have hnullable : nullable prev (some c) a = true ↔ Matches a prev [] (some c) :=
    nullable_iff hrep.2
  simp only [repLeft, matches_rep_iff]
  constructor
  · rintro ⟨k, hk, hrounds⟩
    obtain ⟨u, v, j, hcs, hu, hj, hle, hfirst⟩ := hrounds.first_taking
    refine ⟨u, v, hcs, hu, j, ?_, hj⟩
    obtain ⟨i, rfl⟩ : ∃ i, k = i + 1 := ⟨k - 1, by omega⟩
    obtain ⟨_, hk⟩ := admits_succ_iff.1 hk
    refine ⟨?_, fun m hm => Nat.le_trans (Nat.le_of_succ_le_succ hle) (hk.2 m hm)⟩
    rcases hfirst with hempty | heq
    · rw [if_pos (hnullable.2 hempty)]
      exact Nat.zero_le j
    · have hle := hk.1
      split <;> omega
  · rintro ⟨u, v, rfl, hu, j, hj, hrounds⟩
    have hmore : Rounds a (j + 1) prev (c :: (u ++ v)) after := by
      rw [← List.cons_append]
      exact .more hu (by rwa [lastOr_cons])
    have hbound : ∀ m ∈ most, j + 1 ≤ m := by
      intro m hm
      have hm0 : m ≠ 0 := fun h0 => hmost (h0 ▸ hm)
      have hle := hj.2 (m - 1) (Option.map_eq_some_iff.2 ⟨m, hm, rfl⟩)
      omega
    by_cases hempty : nullable prev (some c) a = true
    · -- rounds that take nothing make up for those that are missing
      refine ⟨(least - (j + 1)) + (j + 1), ⟨by omega, ?_⟩,
        hmore.empty_more (hnullable.1 hempty) _⟩
      intro m hm
      have hleast := hrep.1 m hm
      have hle := hbound m hm
      omega
    · have hle := hj.1
      rw [if_neg hempty] at hle
      exact ⟨j + 1, ⟨by omega, hbound⟩, hmore⟩

/-- The patterns after a step describe what may follow the character. -/
theorem exists_step_iff {p : Pattern} {prev after : Option Char} {c : Char} {cs : List Char}
    (hp : p.Ordered) :
    (∃ q ∈ step prev c p, Matches q (some c) cs after) ↔ Matches p prev (c :: cs) after := by
  induction p generalizing cs after with
  | empty => simp [step, matches_empty_iff]
  | set s =>
    rw [step, matches_set_iff]
    by_cases hc : s.contains c = true
    · rw [if_pos hc]
      simp only [List.mem_singleton, exists_eq_left, matches_empty_iff]
      constructor
      · rintro rfl
        exact ⟨c, rfl, hc⟩
      · rintro ⟨d, hd, _⟩
        exact (List.cons.inj hd).2
    · rw [if_neg hc]
      refine iff_of_false (by simp) ?_
      rintro ⟨d, hd, hcontains⟩
      obtain ⟨rfl, _⟩ := List.cons.inj hd
      exact hc hcontains
  | look l => simp [step, matches_look_iff]
  | alt a b iha ihb =>
    rw [step, matches_alt_iff, ← iha hp.1, ← ihb hp.2]
    simp [or_and_right, exists_or]
  | seq a b iha ihb =>
    have hfirst : (∃ q ∈ (step prev c a).map (before b), Matches q (some c) cs after) ↔
        ∃ u v, cs = u ++ v ∧ Matches a prev (c :: u) (firstOr after v) ∧
          Matches b (lastOr (some c) u) v after :=
      exists_map_before_iff hp.2 fun u after => iha hp.1
    rw [step, matches_seq_cons_iff, ← hfirst, ← nullable_iff hp.1, ← ihb hp.2]
    by_cases hnull : nullable prev (some c) a = true
    · simp only [hnull, if_true, true_and, List.mem_append, or_and_right, exists_or]
    · simp only [hnull, Bool.false_eq_true, if_false, false_and, or_false]
  | rep least most a ih =>
    rw [step]
    split
    · rename_i hmost
      subst hmost
      rw [matches_rep_iff]
      refine iff_of_false (by simp) ?_
      rintro ⟨k, hk, hrounds⟩
      obtain rfl : k = 0 := Nat.le_zero.1 (hk.2 0 rfl)
      cases hrounds
    · rename_i hmost
      rw [matches_rep_cons_iff hp hmost]
      exact exists_map_before_iff (ordered_repLeft hp) fun u after => ih hp.2

/-! ## The whole text -/

theorem mem_addNew_iff {p q : Pattern} {ps : List Pattern} :
    q ∈ addNew p ps ↔ q = p ∨ q ∈ ps := by
  rw [addNew]
  split
  · rename_i hmem
    constructor
    · exact .inr
    · rintro (rfl | h)
      · exact List.contains_iff_mem.1 hmem
      · exact h
  · exact List.mem_cons

theorem mem_distinct_iff {q : Pattern} {ps : List Pattern} : q ∈ distinct ps ↔ q ∈ ps := by
  induction ps with
  | nil => exact Iff.rfl
  | cons p ps ih => rw [distinct, List.foldr_cons, mem_addNew_iff, ← distinct, ih, List.mem_cons]

/-- The pattern describes a beginning of the text. -/
def Starts (p : Pattern) (prev : Option Char) (cs : List Char) : Prop :=
  ∃ u v, cs = u ++ v ∧ Matches p prev u (firstOr none v)

theorem starts_nil_iff {p : Pattern} {prev : Option Char} (hp : p.Ordered) :
    Starts p prev [] ↔ nullable prev none p = true := by
  rw [nullable_iff hp]
  constructor
  · rintro ⟨u, v, hw, h⟩
    obtain ⟨rfl, rfl⟩ := List.append_eq_nil_iff.1 hw.symm
    exact h
  · exact fun h => ⟨[], [], rfl, h⟩

theorem starts_cons_iff {p : Pattern} {prev : Option Char} {c : Char} {cs : List Char}
    (hp : p.Ordered) :
    Starts p prev (c :: cs) ↔
      nullable prev (some c) p = true ∨ ∃ q ∈ step prev c p, Starts q (some c) cs := by
  rw [nullable_iff hp]
  constructor
  · rintro ⟨u, v, hw, h⟩
    cases u with
    | nil =>
      obtain rfl : c :: cs = v := hw
      exact .inl h
    | cons d u =>
      obtain ⟨rfl, rfl⟩ := List.cons.inj hw
      obtain ⟨q, hq, hmatch⟩ := (exists_step_iff hp).2 h
      exact .inr ⟨q, hq, u, v, rfl, hmatch⟩
  · rintro (h | ⟨q, hq, u, v, rfl, h⟩)
    · exact ⟨[], c :: cs, rfl, h⟩
    · exact ⟨c :: u, v, rfl, (exists_step_iff hp).1 ⟨q, hq, h⟩⟩

/-- The search finds a pending pattern that describes a beginning of the text, or the pattern itself
at this place or a later one. -/
theorem foundFrom_iff {p : Pattern} {pending : List Pattern} {prev : Option Char} {cs : List Char}
    (hp : p.Ordered) (hpending : ∀ q ∈ pending, q.Ordered) :
    foundFrom p pending prev cs = true ↔ (∃ q ∈ pending, Starts q prev cs) ∨
      ∃ skipped rest, cs = skipped ++ rest ∧ Starts p (lastOr prev skipped) rest := by
  induction cs generalizing pending prev with
  | nil =>
    rw [foundFrom, List.any_cons, Bool.or_eq_true, List.any_eq_true, or_comm]
    refine or_congr ?_ ?_
    · exact exists_congr fun q => and_congr_right fun hq => (starts_nil_iff (hpending q hq)).symm
    · rw [← starts_nil_iff hp]
      constructor
      · exact fun h => ⟨[], [], rfl, h⟩
      · rintro ⟨skipped, rest, hw, h⟩
        obtain ⟨rfl, rfl⟩ := List.append_eq_nil_iff.1 hw.symm
        exact h
  | cons c cs ih =>
    have hnow : ∀ q ∈ addNew p pending, q.Ordered := by
      intro q hq
      rcases mem_addNew_iff.1 hq with rfl | hq
      · exact hp
      · exact hpending q hq
    have hnext : ∀ q ∈ distinct ((addNew p pending).flatMap (step prev c)), q.Ordered := by
      intro q hq
      obtain ⟨q', hq', hstep⟩ := List.mem_flatMap.1 (mem_distinct_iff.1 hq)
      exact ordered_of_mem_step (hnow q' hq') q hstep
    have hhere : (∃ q ∈ addNew p pending, Starts q prev (c :: cs)) ↔
        (∃ q ∈ addNew p pending, nullable prev (some c) q = true) ∨
          ∃ q ∈ distinct ((addNew p pending).flatMap (step prev c)), Starts q (some c) cs := by
      constructor
      · rintro ⟨q, hq, h⟩
        rcases (starts_cons_iff (hnow q hq)).1 h with h | ⟨q', hstep, h⟩
        · exact .inl ⟨q, hq, h⟩
        · exact .inr ⟨q', mem_distinct_iff.2 (List.mem_flatMap.2 ⟨q, hq, hstep⟩), h⟩
      · rintro (⟨q, hq, h⟩ | ⟨q', hq', h⟩)
        · exact ⟨q, hq, (starts_cons_iff (hnow q hq)).2 (.inl h)⟩
        · obtain ⟨q, hq, hstep⟩ := List.mem_flatMap.1 (mem_distinct_iff.1 hq')
          exact ⟨q, hq, (starts_cons_iff (hnow q hq)).2 (.inr ⟨q', hstep, h⟩)⟩
    rw [foundFrom, Bool.or_eq_true, List.any_eq_true, ih hnext, ← or_assoc, ← hhere]
    constructor
    · rintro (⟨q, hq, h⟩ | ⟨skipped, rest, rfl, h⟩)
      · rcases mem_addNew_iff.1 hq with rfl | hq
        · exact .inr ⟨[], c :: cs, rfl, h⟩
        · exact .inl ⟨q, hq, h⟩
      · exact .inr ⟨c :: skipped, rest, rfl, by rwa [lastOr_cons]⟩
    · rintro (⟨q, hq, h⟩ | ⟨skipped, rest, hw, h⟩)
      · exact .inl ⟨q, mem_addNew_iff.2 (.inr hq), h⟩
      · cases skipped with
        | nil =>
          obtain rfl : c :: cs = rest := hw
          exact .inl ⟨p, mem_addNew_iff.2 (.inl rfl), h⟩
        | cons d skipped =>
          obtain ⟨rfl, rfl⟩ := List.cons.inj hw
          rw [lastOr_cons] at h
          exact .inr ⟨skipped, rest, rfl, h⟩

/-- A pattern is found in a text exactly if it describes some part of it. -/
theorem found_iff {p : Pattern} (hp : p.Ordered) {text : String} :
    p.found text = true ↔ ∃ front part back, text.toList = front ++ part ++ back ∧
      Matches p (lastOr none front) part (firstOr none back) := by
  rw [found, foundFrom_iff hp fun _ hq => absurd hq List.not_mem_nil]
  constructor
  · rintro (⟨q, hq, _⟩ | ⟨front, rest, hw, part, back, rfl, h⟩)
    · exact absurd hq List.not_mem_nil
    · exact ⟨front, part, back, by rw [hw, List.append_assoc], h⟩
  · rintro ⟨front, part, back, hw, h⟩
    exact .inr ⟨front, part ++ back, by rw [hw, List.append_assoc], part, back, rfl, h⟩

end Pattern

end PromptScript
