import PromptScript.Proofs.AuthoredCommands
import PromptScript.Proofs.FirstCall

/-!
# Proofs.RecognizedCommands

The scan of a body and the dispatcher agree on what a command is. What the scan takes is a call that
the dispatcher reads from end to end, and whatever is written like a command is taken, unless it
begins inside a command in front of it (`scan_agrees_with_dispatcher`).
-/

namespace PromptScript

open PatternLibrary (isWord isWord_open)

section Commands

variable [PatternLibrary]

/-! ## One command -/

theorem isCall_iff {call : List Char} : IsCall call ↔
    ∃ word raw, call = word ++ '(' :: (raw ++ [')']) ∧ IsWord word ∧ ')' ∉ raw ∧ '\n' ∉ raw := by
  constructor
  · rintro ⟨word, raw, rfl, hne, hword, hraw⟩
    exact ⟨word, raw, by simp, ⟨hne, hword⟩, fun h => (hraw _ h).1 rfl, fun h => (hraw _ h).2 rfl⟩
  · rintro ⟨word, raw, rfl, ⟨hne, hword⟩, hclose, hline⟩
    refine ⟨word, raw, by simp, hne, hword, fun x hx => ⟨?_, ?_⟩⟩
    · rintro rfl
      exact hclose hx
    · rintro rfl
      exact hline hx

/-- Only a text without a call is refused as no call. -/
theorem runCommand_eq_malformed_iff {source : ItemSource} {p : Progress Event} {text t : String} :
    (runCommand source p text).1 = .error (.malformed t) ↔ Call.find? text = none ∧ t = text := by
  rw [runCommand]
  cases Call.find? text with
  | none => simp [eq_comm]
  | some c =>
    refine iff_of_false ?_ (by simp)
    dsimp only
    rw [Call.run]
    split
    · simp
    · split
      · simp
      · rw [findPaths]
        split
        · simp
        · split <;> simp

section Command

variable {word raw after : List Char}

/-- A call at the very start of a text is taken up to its first closing parenthesis. -/
theorem leadingCall?_append (hword : IsWord word) (hclose : ')' ∉ raw) (hline : '\n' ∉ raw) :
    leadingCall? (word ++ '(' :: (raw ++ ')' :: after)) = some (word ++ '(' :: (raw ++ [')'])) := by
  have hinside : ∀ c ∈ raw, (decide (c ≠ ')') && decide (c ≠ '\n')) = true := by
    intro c hc
    simp only [Bool.and_eq_true, decide_eq_true_eq]
    exact ⟨fun h => hclose (h ▸ hc), fun h => hline (h ▸ hc)⟩
  have htake : (raw ++ ')' :: after).takeWhile (fun c => c ≠ ')' && c ≠ '\n') = raw :=
    takeWhile_append_cons hinside (by decide)
  have hdrop : (word ++ '(' :: (raw ++ ')' :: after)).dropWhile isWord =
      '(' :: (raw ++ ')' :: after) := by
    rw [List.dropWhile_append_of_pos hword.chars,
      List.dropWhile_cons_of_neg (by simp [isWord_open])]
  have hnext : (raw ++ ')' :: after)[raw.length]? = some ')' := by simp
  simp only [leadingCall?, hdrop, htake, hnext,
    takeWhile_append_cons hword.chars isWord_open]
  rw [if_pos ⟨hword.nonempty, trivial⟩, List.append_assoc, List.cons_append]

theorem leadingCommand?_append (hword : IsWord word) (hclose : ')' ∉ raw) (hline : '\n' ∉ raw) :
    leadingCommand? (commandMark ++ (word ++ '(' :: (raw ++ ')' :: after))) =
      some (word ++ '(' :: (raw ++ [')'])) := by
  rw [leadingCommand?, afterOpening?_append, Option.bind_some,
    leadingCall?_append hword hclose hline]

end Command

/-! ## The commands of a body -/

/-- The scan of the body takes a command right after `before`. -/
def Recognized (body before call : List Char) : Prop :=
  ∃ parts rest, bodyParts body = parts ++ .command call :: rest ∧
    parts.flatMap BodyPart.written = before

/-- The text after `before` begins inside a command that the scan takes in front of it. -/
def InsideCommand (body before : List Char) : Prop :=
  ∃ front call, Recognized body front call ∧ front.length < before.length ∧
    before.length < (front ++ (BodyPart.command call).written).length

section Scan

variable {body before call : List Char}

theorem Recognized.eq (h : Recognized body before call) :
    ∃ after, body = before ++ (BodyPart.command call).written ++ after := by
  obtain ⟨parts, rest, hparts, rfl⟩ := h
  refine ⟨rest.flatMap BodyPart.written, ?_⟩
  rw [← flatMap_written_bodyParts body, hparts]
  simp

theorem WellParted.isCall_of_mem {parts : List BodyPart} (h : WellParted parts)
    (hmem : .command call ∈ parts) : IsCall call := by
  induction h with
  | nil => cases hmem
  | last text => simp at hmem
  | command hcall _ ih =>
    rcases List.mem_cons.1 hmem with heq | hmem
    · cases heq
      exact hcall
    · exact ih hmem
  | plain text _ ih => exact ih (by simpa using hmem)

theorem Recognized.isCall (h : Recognized body before call) : IsCall call := by
  obtain ⟨parts, rest, hparts, _⟩ := h
  exact (wellParted_bodyParts body).isCall_of_mem (by rw [hparts]; simp)

/-- A command is a call that the dispatcher reads from end to end. -/
theorem Recognized.find?_eq (h : Recognized body before call) :
    ∃ word raw, call = word ++ '(' :: (raw ++ [')']) ∧ IsWord word ∧ ')' ∉ raw ∧ '\n' ∉ raw ∧
      Call.find? (String.ofList call) = some ⟨String.ofList word, Call.argumentsOf raw⟩ := by
  obtain ⟨word, raw, rfl, hword, hclose, hline⟩ := isCall_iff.1 h.isCall
  exact ⟨word, raw, rfl, hword, hclose, hline, Call.find?_of_leading hword hclose⟩

theorem recognized_here {rest : List Char}
    (h : leadingCommand? ((BodyPart.command call).written ++ rest) = some call) :
    Recognized ((BodyPart.command call).written ++ rest) [] call :=
  ⟨[], _, bodyParts_of_command h, rfl⟩

theorem Recognized.after_plain {c : Char} (hplain : leadingCommand? (c :: body) = none)
    (h : Recognized body before call) : Recognized (c :: body) (c :: before) call := by
  obtain ⟨parts, rest, hparts, rfl⟩ := h
  rw [Recognized, bodyParts_of_plain hplain, hparts]
  rcases parts with _ | ⟨text | first, parts⟩
  · exact ⟨[.plain [c]], rest, rfl, rfl⟩
  · exact ⟨.plain (c :: text) :: parts, rest, rfl, rfl⟩
  · exact ⟨.plain [c] :: .command first :: parts, rest, rfl, rfl⟩

theorem Recognized.after_command {first : List Char}
    (hfirst : leadingCommand? ((BodyPart.command first).written ++ body) = some first)
    (h : Recognized body before call) :
    Recognized ((BodyPart.command first).written ++ body)
      ((BodyPart.command first).written ++ before) call := by
  obtain ⟨parts, rest, hparts, rfl⟩ := h
  exact ⟨.command first :: parts, rest, by rw [bodyParts_of_command hfirst, hparts]; rfl, rfl⟩

theorem InsideCommand.after_plain {c : Char} (hplain : leadingCommand? (c :: body) = none)
    (h : InsideCommand body before) : InsideCommand (c :: body) (c :: before) := by
  obtain ⟨front, call, hfront, hlt, hgt⟩ := h
  exact ⟨c :: front, call, hfront.after_plain hplain, Nat.succ_lt_succ hlt, Nat.succ_lt_succ hgt⟩

theorem InsideCommand.after_command {first : List Char}
    (hfirst : leadingCommand? ((BodyPart.command first).written ++ body) = some first)
    (h : InsideCommand body before) :
    InsideCommand ((BodyPart.command first).written ++ body)
      ((BodyPart.command first).written ++ before) := by
  obtain ⟨front, call, hfront, hlt, hgt⟩ := h
  refine ⟨_, call, hfront.after_command hfirst, ?_, ?_⟩ <;>
    simp only [List.length_append] at hlt hgt ⊢ <;> omega

/-- What is written like a command is taken by the scan, or the scan is inside a command there. -/
theorem recognized_or_inside {word raw after : List Char} (hword : IsWord word)
    (hclose : ')' ∉ raw) (hline : '\n' ∉ raw)
    (h : body = before ++ (commandMark ++ (word ++ '(' :: (raw ++ ')' :: after)))) :
    Recognized body before (word ++ '(' :: (raw ++ [')'])) ∨ InsideCommand body before := by
  induction body using bodyParts_induction generalizing before with
  | nil => simp at h
  | plain c rest hplain ih =>
    cases before with
    | nil =>
      rw [List.nil_append] at h
      rw [h, leadingCommand?_append hword hclose hline] at hplain
      cases hplain
    | cons d before =>
      obtain ⟨rfl, hrest⟩ := List.cons.inj h
      exact (ih hrest).imp (·.after_plain hplain) (·.after_plain hplain)
  | command first rest _ hfirst ih =>
    rcases Nat.lt_or_ge before.length (BodyPart.command first).written.length with hlt | hge
    · cases before with
      | nil =>
        have hcall := hfirst
        rw [h, List.nil_append, leadingCommand?_append hword hclose hline] at hcall
        cases hcall
        exact .inl (recognized_here hfirst)
      | cons d before => exact .inr ⟨[], first, recognized_here hfirst, Nat.succ_pos _, hlt⟩
    · -- the command ends before the text begins
      obtain ⟨before, rfl⟩ := List.prefix_of_prefix_length_le ⟨rest, rfl⟩ ⟨_, h.symm⟩ hge
      rw [List.append_assoc] at h
      exact (ih (List.append_cancel_left h)).imp (·.after_command hfirst) (·.after_command hfirst)

/-- A closing parenthesis on the line is enough: the first one closes the command. -/
theorem recognized_or_inside_of_line {word line after : List Char} (hword : IsWord word)
    (hline : '\n' ∉ line)
    (h : body = before ++ commandMark ++ word ++ '(' :: (line ++ ')' :: after)) :
    (∃ raw, raw <+: line ∧ Recognized body before (word ++ '(' :: (raw ++ [')']))) ∨
      InsideCommand body before := by
  obtain ⟨raw, more, hraw, hclose, heq⟩ : ∃ raw more, raw <+: line ∧ ')' ∉ raw ∧
      line ++ ')' :: after = raw ++ ')' :: more := by
    by_cases hmem : ')' ∈ line
    · obtain ⟨raw, rest, rfl, hclose⟩ := List.eq_append_cons_of_mem hmem
      exact ⟨raw, rest ++ ')' :: after, ⟨_, rfl⟩, hclose, by simp⟩
    · exact ⟨line, after, List.prefix_rfl, hmem, rfl⟩
  have hbody : body = before ++ (commandMark ++ (word ++ '(' :: (raw ++ ')' :: more))) := by
    rw [h, heq]
    simp only [List.append_assoc]
  exact (recognized_or_inside hword hclose (fun hmem => hline (hraw.subset hmem)) hbody).imp_left
    fun hhere => ⟨raw, hraw, hhere⟩

end Scan

/-! ## Dispatch -/

def BodyPart.call? : BodyPart → Option (List Char)
  | .plain _ => none
  | .command call => some call

/-- The calls of the commands that the scan takes, in order. -/
def bodyCalls (body : List Char) : List (List Char) := (bodyParts body).filterMap BodyPart.call?

theorem mem_bodyCalls_iff {body call : List Char} :
    call ∈ bodyCalls body ↔ ∃ before, Recognized body before call := by
  rw [bodyCalls, List.mem_filterMap]
  constructor
  · rintro ⟨_ | call, hmem, hcall⟩
    · cases hcall
    · cases hcall
      obtain ⟨parts, rest, hparts⟩ := List.append_of_mem hmem
      exact ⟨_, parts, rest, hparts, rfl⟩
  · rintro ⟨_, parts, rest, hparts, _⟩
    exact ⟨.command call, by rw [hparts]; simp, rfl⟩

section Dispatch

variable {source : ItemSource} {s : Scene} {p q : Progress Event} {runs : List CommandRun}

theorem Recorded.expandParts_plain_eq {text : List Char} {rest : List BodyPart}
    {r : Except RunError (List String)}
    (h : Recorded.expandParts source s p (.plain text :: rest) = (runs, r, q)) :
    ∃ r', Recorded.expandParts source s p rest = (runs, r', q) := by
  rw [Recorded.expandParts] at h
  split at h <;>
  · rename_i hrest
    cases h
    exact ⟨_, hrest⟩

theorem Recorded.expandParts_command_eq {call : List Char} {rest : List BodyPart}
    {r : Except RunError (List String)}
    (h : Recorded.expandParts source s p (.command call :: rest) = (runs, r, q)) :
    ∃ result p' later, showCommand source p (String.ofList call) = (result, p') ∧
      runs = ⟨call, result⟩ :: later ∧ (later = [] ∧ q = p' ∧ p'.cancelled = true ∨
        ∃ r', Recorded.expandParts source s p' rest = (later, r', q)) := by
  rw [Recorded.expandParts] at h
  rcases hcall : showCommand source p (String.ofList call) with ⟨result, p'⟩
  rw [hcall] at h
  dsimp only at h
  split at h
  · rename_i hcancelled
    cases h
    exact ⟨_, _, [], rfl, rfl, .inl ⟨rfl, rfl, hcancelled⟩⟩
  · split at h <;>
    · rename_i hrest
      cases h
      exact ⟨_, _, _, rfl, rfl, .inr ⟨_, hrest⟩⟩

/-- The commands are run in order, and all of them unless the run of one is cancelled. -/
theorem calls_of_expandParts {parts : List BodyPart} {r : Except RunError (List String)}
    (h : Recorded.expandParts source s p parts = (runs, r, q)) :
    runs.map (·.call) <+: parts.filterMap BodyPart.call? ∧
      (q.cancelled = false → runs.map (·.call) = parts.filterMap BodyPart.call?) := by
  induction parts generalizing p runs r with
  | nil =>
    cases h
    exact ⟨List.prefix_rfl, fun _ => rfl⟩
  | cons part rest ih =>
    cases part with
    | plain text =>
      obtain ⟨r', hrest⟩ := Recorded.expandParts_plain_eq h
      exact ih hrest
    | command call =>
      obtain ⟨result, p', later, _, rfl, ⟨rfl, rfl, hcancelled⟩ | ⟨r', hrest⟩⟩ :=
        Recorded.expandParts_command_eq h
      · refine ⟨List.cons_prefix_cons.2 ⟨rfl, List.nil_prefix⟩, fun hq => ?_⟩
        rw [hcancelled] at hq
        cases hq
      · obtain ⟨hdone, hall⟩ := ih hrest
        exact ⟨List.cons_prefix_cons.2 ⟨rfl, hdone⟩, fun hq => congrArg (call :: ·) (hall hq)⟩

/-- The commands run one after the other, and each comes to the result that is recorded for it. -/
inductive Ran (source : ItemSource) : Progress Event → List CommandRun → Progress Event → Prop where
  | none {p : Progress Event} : Ran source p [] p
  | more {p p' q : Progress Event} {c : CommandRun} {later : List CommandRun} :
      showCommand source p (String.ofList c.call) = (c.result, p') → Ran source p' later q →
        Ran source p (c :: later) q

theorem ran_of_expandParts {parts : List BodyPart} {r : Except RunError (List String)}
    (h : Recorded.expandParts source s p parts = (runs, r, q)) : Ran source p runs q := by
  induction parts generalizing p runs r with
  | nil =>
    cases h
    exact .none
  | cons part rest ih =>
    cases part with
    | plain text =>
      obtain ⟨r', hrest⟩ := Recorded.expandParts_plain_eq h
      exact ih hrest
    | command call =>
      obtain ⟨result, p', later, hcall, rfl, ⟨rfl, rfl, _⟩ | ⟨r', hrest⟩⟩ :=
        Recorded.expandParts_command_eq h
      · exact .more hcall .none
      · exact .more hcall (ih hrest)

theorem ran_of_expandBody {body : List Char} {r : Except RunError String}
    (h : Recorded.expandBody source s p body = (runs, r, q)) :
    Ran source p runs q ∧ runs.map (·.call) <+: bodyCalls body ∧
      (q.cancelled = false → runs.map (·.call) = bodyCalls body) := by
  rw [Recorded.expandBody] at h
  split at h <;>
  · rename_i hparts
    cases h
    exact ⟨ran_of_expandParts hparts, calls_of_expandParts hparts⟩

end Dispatch

/-- What the scan of a body takes as a command is a call that the dispatcher reads as it is written,
and so never refuses as no call. What is written like a command on one line is taken, unless it
begins inside a command in front of it. What is taken is run in order, each command to the result
that takes its place, and all of it unless the run is cancelled. -/
theorem scan_agrees_with_dispatcher (body : List Char) :
    (∀ before call, Recognized body before call → ∃ word raw after,
      body = before ++ commandMark ++ call ++ after ∧ call = word ++ '(' :: (raw ++ [')']) ∧
      IsWord word ∧ ')' ∉ raw ∧ '\n' ∉ raw ∧
      Call.find? (String.ofList call) = some ⟨String.ofList word, Call.argumentsOf raw⟩ ∧
      ∀ source p text, (runCommand source p (String.ofList call)).1 ≠ .error (.malformed text)) ∧
    (∀ before word line after,
      body = before ++ commandMark ++ word ++ '(' :: (line ++ ')' :: after) → IsWord word →
      '\n' ∉ line → (∃ raw, raw <+: line ∧ Recognized body before (word ++ '(' :: (raw ++ [')']))) ∨
        InsideCommand body before) ∧
    (∀ call, call ∈ bodyCalls body ↔ ∃ before, Recognized body before call) ∧
    ∀ source s p,
      (Recorded.expandBody source s p body).2 = expandBody source s p body ∧
      Ran source p (Recorded.expandBody source s p body).1
        (Recorded.expandBody source s p body).2.2 ∧
      (Recorded.expandBody source s p body).1.map (·.call) <+: bodyCalls body ∧
      ((Recorded.expandBody source s p body).2.2.cancelled = false →
        (Recorded.expandBody source s p body).1.map (·.call) = bodyCalls body) := by
  refine ⟨fun before call h => ?_, fun _ _ _ _ h hword hline =>
    recognized_or_inside_of_line hword hline h, fun _ => mem_bodyCalls_iff,
    fun source s p => ⟨Recorded.expandBody_snd source s p body, ran_of_expandBody rfl⟩⟩
  obtain ⟨word, raw, hcall, hword, hclose, hline, hfound⟩ := h.find?_eq
  obtain ⟨after, hbody⟩ := h.eq
  refine ⟨word, raw, after, ?_, hcall, hword, hclose, hline, hfound, fun _ _ _ hrefused => ?_⟩
  · rw [hbody, BodyPart.written, ← List.append_assoc before]
  · rw [(runCommand_eq_malformed_iff.1 hrefused).1] at hfound
    cases hfound

end Commands

theorem scan_agrees_with_dispatcher_later_close :
    ∃ raw, raw <+: "a) b".toList ∧
      Recognized "@file-func:f(a) b)".toList [] (['f'] ++ '(' :: (raw ++ [')'])) := by
  rcases (scan_agrees_with_dispatcher "@file-func:f(a) b)".toList).2.1 [] ['f'] "a) b".toList []
    (by decide +kernel) ⟨by decide, List.forall_mem_singleton.2 (by decide)⟩ (by decide +kernel)
    with h | ⟨_, _, _, hlt, _⟩
  · exact h
  · exact absurd hlt (Nat.not_lt_zero _)

example :
    (bodyCalls "@file-func:f(@file-func:g(x)) @file-func:h(y\n) @file-func:k()".toList).map
      String.ofList = ["f(@file-func:g(x)", "k()"] := by
  decide +kernel

end PromptScript
