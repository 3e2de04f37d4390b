import PromptScript.Command.Dispatch
import PromptScript.Proofs.PatternCuts

/-!
# Proofs.WrappedPatterns

Patterns in the group that `wholePath` writes around them. A pattern without closing parentheses is
read inside the group as it is alone, step by step (`Reading.step?_of_wrapped`,
`readFrom?_of_wrapped`), so what is read of the whole is the pattern between both ends of the text
(`read_of_wholePath`).
-/

namespace PromptScript

namespace Pattern

variable {s s' : List Char}

/-! ## One step -/

namespace Reading

variable {r r' : Reading} {c : Char}

/-- A step inside the group is a step in the pattern alone. The brace after `\b` opens a name only
if the text goes on behind it. -/
theorem step?_of_wrapped (hflags : r.flags = {}) (hopen : c ≠ '(') (hclose : c ≠ ')')
    (hbrace : s' ≠ ['{']) (h : r.step? c (s ++ wrapEnd) = some (r', s' ++ wrapEnd)) :
    r.step? c s = some (r', s') := by
  unfold step? at h ⊢
  dsimp only at h
  rw [hflags] at h ⊢
  split at h
  · contradiction
  · contradiction
  · obtain ⟨rfl, rfl⟩ := pair_of_wrapped h
    rfl
  · obtain ⟨⟨m, after⟩, hm, hpair⟩ := Option.map_eq_some_iff.1 h
    cases hpair
    have hcut := readBracket?_of_wrapped (n := 2 * s.length + 2) (Nat.le_refl _) hm
    simp only [hcut, Option.map_some]
  · rw [afterReluctance_append_wrapEnd] at h
    exact map_of_wrapped h
  · rw [afterReluctance_append_wrapEnd] at h
    exact map_of_wrapped h
  · rw [afterReluctance_append_wrapEnd] at h
    exact map_of_wrapped h
  · split at h
    · cases h
    · rename_i least most after hcounts
      obtain ⟨r₁, hr₁, hpair⟩ := Option.map_eq_some_iff.1 h
      obtain ⟨rfl, hafter⟩ := Prod.mk.inj hpair
      rw [skip_default] at hafter
      obtain ⟨front, hfront⟩ := hafter ▸ afterReluctance_suffix after
      rw [← List.append_assoc] at hfront
      subst hfront
      rw [afterReluctance_append_wrapEnd] at hafter
      simp only [readCounts?_of_wrapped hcounts, hr₁, Option.map_some, skip_default,
        List.append_cancel_right hafter]
  · split at h
    · cases h
    · rename_i a after hescape
      obtain ⟨p, hp, hpair⟩ := Option.map_eq_some_iff.1 h
      obtain ⟨rfl, rfl⟩ := Prod.mk.inj hpair
      simp only [readEscape?_of_wrapped (fun _ _ => hbrace) hescape, hp, Option.map_some]
  · exact map_of_wrapped h
  · exact map_of_wrapped h
  · exact map_of_wrapped h
  · exact map_of_wrapped h

/-! ## The group -/

/-- A reading of the pattern alone, inside the group that `wholePath` opens. -/
def inGroup (r : Reading) : Reading :=
  { r with groups := [⟨[⟨.look .textStart, 0, true⟩], [], {}⟩] }

theorem step?_inGroup (hopen : c ≠ '(') (hclose : c ≠ ')') (cs : List Char) :
    r.inGroup.step? c cs = (r.step? c cs).map fun next => (next.1.inGroup, next.2) := by
  have hrepeat : ∀ (least : Nat) (most : Option Nat),
      r.inGroup.repeat? least most = (r.repeat? least most).map inGroup := by
    intro least most
    unfold repeat?
    dsimp only [inGroup]
    split
    · rfl
    · split <;> rfl
  unfold step?
  dsimp only
  rw [show r.inGroup.flags = r.flags from rfl]
  split
  · contradiction
  · contradiction
  · rfl
  · rw [Option.map_map]
    rfl
  · rw [hrepeat, Option.map_map, Option.map_map]
    rfl
  · rw [hrepeat, Option.map_map, Option.map_map]
    rfl
  · rw [hrepeat, Option.map_map, Option.map_map]
    rfl
  · split
    · rfl
    · rw [hrepeat, Option.map_map, Option.map_map]
      rfl
  · split
    · rfl
    · rw [Option.map_map]
      rfl
  · rw [Option.map_map]
    rfl
  · rfl
  · rfl
  · rw [Option.map_map]
    rfl

end Reading

/-- What is read of a pattern with what `wholePath` writes around it. -/
def wrapped (body : Part) : Part :=
  sequence [⟨.look .textEnd, 0, true⟩, ⟨body.pattern, body.depth + 1, true⟩,
    ⟨.look .textStart, 0, true⟩]

theorem readFrom?_wrapEnd {fuel : Nat} {r : Reading} {part : Part} (hflags : r.flags = {})
    (h : readFrom? fuel r.inGroup wrapEnd = some part) : part = wrapped r.body := by
  rcases fuel with _ | _ | _ | fuel
  · cases h
  · rw [readFrom?, show r.inGroup.flags = r.flags from rfl, hflags] at h
    cases h
  · rw [readFrom?, show r.inGroup.flags = r.flags from rfl, hflags] at h
    cases h
  · rw [readFrom?, show r.inGroup.flags = r.flags from rfl, hflags] at h
    exact (Option.some.inj h).symm

/-- A brace in front of the end opens no counts. -/
theorem readFrom?_brace {fuel : Nat} {r : Reading} (hflags : r.flags = {}) :
    readFrom? fuel r ('{' :: wrapEnd) = none := by
  cases fuel with
  | zero => rfl
  | succ fuel =>
    have hstep : r.step? '{' wrapEnd = none := by
      simp only [Reading.step?, hflags]
      rfl
    rw [readFrom?, hflags, skip_default]
    simp only [hstep]

theorem count_wrapEnd (hs : ')' ∉ s) : (s ++ wrapEnd).count ')' = 1 := by
  rw [List.count_append, List.count_eq_zero_of_not_mem hs]
  rfl

/-- As long as the parenthesis behind the pattern is left, so is all of the end. -/
theorem eq_append_wrapEnd {rest : List Char} (hs : ')' ∉ s) (h : rest <:+ s ++ wrapEnd)
    (hclose : 1 ≤ rest.count ')') : ∃ s₂, rest = s₂ ++ wrapEnd ∧ s₂ <:+ s := by
  obtain ⟨front, hfront⟩ := h
  rcases List.append_eq_append_iff.1 hfront with ⟨more, rfl, hrest⟩ | ⟨more, rfl, hmore⟩
  · exact ⟨more, hrest, List.suffix_append _ _⟩
  · cases more with
    | nil => exact ⟨[], hmore.symm, List.nil_suffix⟩
    | cons c more =>
      have hrest : rest <:+ ['$'] := ⟨more, (List.cons.inj hmore).2.symm⟩
      have hle := hrest.sublist.count_le ')'
      rw [show List.count ')' ['$'] = 0 from rfl] at hle
      omega

/-- A pattern without closing parentheses is read inside the group as it is alone. -/
theorem readFrom?_of_wrapped {fuel n : Nat} {r : Reading} {part : Part} (hflags : r.flags = {})
    (hgroups : r.groups = []) (hs : ')' ∉ s) (hn : s.length < n)
    (h : readFrom? fuel r.inGroup (s ++ wrapEnd) = some part) :
    ∃ body, readFrom? n r s = some body ∧ part = wrapped body := by
  induction fuel generalizing n r s with
  | zero => cases h
  | succ fuel ih =>
    obtain ⟨n, rfl⟩ : ∃ k, n = k + 1 := ⟨n - 1, by omega⟩
    cases s with
    | nil =>
      refine ⟨r.body, ?_, readFrom?_wrapEnd hflags h⟩
      rw [readFrom?, hflags, skip_default]
      simp only [hgroups, List.isEmpty_nil, if_true]
    | cons c s =>
      rw [List.mem_cons, not_or] at hs
      obtain ⟨hc, hs⟩ := hs
      rw [readFrom?, show r.inGroup.flags = r.flags from rfl, hflags, skip_default] at h
      simp only [List.cons_append] at h
      split at h
      · cases h
      · rename_i r₁ rest hstep
        have hstep' := Reading.step_of_step? hstep
        have hleft := groups_le_of_readFrom? h
        have hcount := count_wrapEnd hs
        by_cases hopen : c = '('
        · -- what opens here takes the parenthesis that closes the group
          subst hopen
          have hlt := hstep'.groups_lt_of_open
          simp only [Reading.inGroup, List.length_singleton] at hlt
          omega
        · rw [Reading.step?_inGroup hopen (Ne.symm hc)] at hstep
          obtain ⟨⟨r₂, rest₂⟩, hnext, hpair⟩ := Option.map_eq_some_iff.1 hstep
          cases hpair
          have hnext' := Reading.step_of_step? hnext
          obtain ⟨hsame, hsameflags⟩ := hnext'.same_group hopen (Ne.symm hc)
          obtain ⟨s₂, rfl, hsuffix⟩ := eq_append_wrapEnd hs hnext'.rest_suffix hleft
          have hbrace : s₂ ≠ ['{'] := by
            rintro rfl
            rw [List.singleton_append, readFrom?_brace] at h
            · cases h
            · exact hsameflags.trans hflags
          have halone := Reading.step?_of_wrapped hflags hopen (Ne.symm hc) hbrace hnext
          have hle := hsuffix.length_le
          rw [List.length_cons] at hn
          obtain ⟨body, hbody, hpart⟩ := ih (hsameflags.trans hflags) (hsame.trans hgroups)
            (fun hmem => hs (hsuffix.mem hmem)) (show s₂.length < n by omega) h
          refine ⟨body, ?_, hpart⟩
          rw [readFrom?, hflags, skip_default]
          simp only [halone, hbody]

/-! ## The whole path -/

theorem readFrom?_wholePath {fuel : Nat} (text : String) :
    readFrom? (fuel + 2) {} (wholePath text).toList =
      readFrom? fuel (Reading.inGroup {}) (text.toList ++ wrapEnd) := by
  have htext : (wholePath text).toList = '^' :: '(' :: '?' :: ':' :: (text.toList ++ wrapEnd) := by
    simp [wholePath, wrapEnd]
  rw [htext]
  rfl

/-- A text without closing parentheses is a pattern if it is one with the group around it, and then
that one is the pattern between both ends of the text. -/
theorem read_of_wholePath {text : String} {whole : Pattern} (htext : ')' ∉ text.toList)
    (h : read (wholePath text) = .ok whole) :
    ∃ p, read text = .ok p ∧ whole = .seq (.look .textStart) (.seq p (.look .textEnd)) := by
  obtain ⟨part, hread, hdepth, rfl⟩ := read_eq_ok_iff.1 h
  have hlength : (wholePath text).toList.length = text.toList.length + 6 := by
    simp [wholePath]
  rw [hlength, readFrom?_wholePath] at hread
  obtain ⟨body, hbody, rfl⟩ :=
    readFrom?_of_wrapped rfl rfl htext (Nat.lt_succ_self _) hread
  have hwrapped : (wrapped body).depth = body.depth + 2 := by
    simp [wrapped, sequence, depthOver]
  exact ⟨body.pattern, read_eq_ok_iff.2 ⟨body, hbody, by omega, rfl⟩, rfl⟩

end Pattern

end PromptScript
