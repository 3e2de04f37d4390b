import Mathlib.Logic.Relation
import PromptScript.Agent.Stream
import PromptScript.Proofs.FixedAnswers
import PromptScript.Proofs.TextLines

/-!
# Proofs.Streaming

Streams from agents, in any interleaving of their steps. What is printed, what is in the channel and
what is still to be sent stay the reply of the agent (`Stream.Intact`), no stream gets stuck before
its reader has seen the end, and every stream comes to the run of the agent
(`streaming_keeps_chunks`). The echo agent sends the lines of its prompt.
-/

namespace PromptScript

namespace Stream

/-- Any number of steps. -/
abbrev Steps (capacity : Nat) (ending : Except AgentError Unit) : Stream → Stream → Prop :=
  Relation.ReflTransGen (Step capacity ending)

/-! ## What every step keeps -/

/-- The chunks are the reply of the agent, in its order, and so is the end. -/
structure Intact (chunks : List String) (ending : Except AgentError Unit) (s : Stream) : Prop where
  chunks : s.printed ++ s.buffer ++ s.unsent = chunks
  response : s.response = String.join s.printed
  ending : ∀ e ∈ s.ending?, e = ending ∧ s.unsent = []
  drained : s.drained = true → s.ending?.isSome = true ∧ s.buffer = []

variable {capacity : Nat} {chunks : List String} {ending : Except AgentError Unit} {s s' : Stream}

theorem intact_start : Intact chunks ending { unsent := chunks } :=
  ⟨rfl, rfl, nofun, nofun⟩

theorem Intact.step (h : Intact chunks ending s) (hstep : Step capacity ending s s') :
    Intact chunks ending s' := by
  obtain ⟨hchunks, hresponse, hending, hdrained⟩ := h
  cases hstep with
  | send hunsent _ =>
    -- an agent that still has something to send has not ended
    have hrunning : s.ending? = none := by
      refine Option.eq_none_iff_forall_not_mem.2 fun e he => ?_
      rw [(hending e he).2] at hunsent
      cases hunsent
    refine ⟨?_, hresponse, ?_, ?_⟩
    · rw [← hchunks, hunsent]
      simp
    · simp [hrunning]
    · intro hseen
      have hended := (hdrained hseen).1
      rw [hrunning] at hended
      cases hended
  | finish hunsent _ =>
    refine ⟨hchunks, hresponse, ?_, fun hseen => ⟨rfl, (hdrained hseen).2⟩⟩
    rintro e ⟨⟩
    exact ⟨rfl, hunsent⟩
  | receive hbuffer =>
    refine ⟨?_, ?_, hending, fun hseen => ?_⟩
    · rw [← hchunks, hbuffer]
      simp
    · simp [hresponse, String.join_append]
    · rw [(hdrained hseen).2] at hbuffer
      cases hbuffer
  | drain hbuffer hended _ => exact ⟨hchunks, hresponse, hending, fun _ => ⟨hended, hbuffer⟩⟩

theorem intact_of_steps (h : Steps capacity ending { unsent := chunks } s) :
    Intact chunks ending s := by
  induction h with
  | refl => exact intact_start
  | tail _ hstep ih => exact ih.step hstep

/-- At the end everything has been printed. -/
theorem Intact.of_drained (h : Intact chunks ending s) (hdrained : s.drained = true) :
    s.printed = chunks ∧ s.answer? = some (ending.map fun _ => String.join chunks) := by
  obtain ⟨hended, hbuffer⟩ := h.drained hdrained
  obtain ⟨e, he⟩ := Option.isSome_iff_exists.1 hended
  obtain ⟨rfl, hunsent⟩ := h.ending e he
  have hprinted : s.printed = chunks := by
    have hchunks := h.chunks
    rwa [hbuffer, hunsent, List.append_nil, List.append_nil] at hchunks
  refine ⟨hprinted, ?_⟩
  rw [answer?, if_pos hdrained, he, h.response, hprinted]
  rfl

/-! ## Steps to the end -/

/-- A stream that is not at its end can go on: the reader, if there is something to take out, and
else the agent, for which there is room. -/
theorem exists_step (hcapacity : 0 < capacity) (hdrained : s.drained = false) :
    ∃ s', Step capacity ending s s' := by
  cases hbuffer : s.buffer with
  | cons chunk buffer => exact ⟨_, .receive hbuffer⟩
  | nil =>
    cases hended : s.ending? with
    | some e => exact ⟨_, .drain hbuffer (by rw [hended]; rfl) hdrained⟩
    | none =>
      cases hunsent : s.unsent with
      | nil => exact ⟨_, .finish hunsent hended⟩
      | cons chunk unsent =>
        exact ⟨_, .send hunsent (by rw [hbuffer]; exact hcapacity)⟩

theorem not_step_of_drained (h : Intact chunks ending s) (hdrained : s.drained = true) :
    ¬ Step capacity ending s s' := by
  obtain ⟨hended, hbuffer⟩ := h.drained hdrained
  obtain ⟨e, he⟩ := Option.isSome_iff_exists.1 hended
  rintro (⟨hunsent, _⟩ | ⟨_, hrunning⟩ | hmore | ⟨_, _, hnot⟩)
  · rw [(h.ending e he).2] at hunsent
    cases hunsent
  · rw [he] at hrunning
    cases hrunning
  · rw [hbuffer] at hmore
    cases hmore
  · rw [hdrained] at hnot
    cases hnot

/-- How many steps are left: each chunk is sent and received, and then both sides end. -/
def left (s : Stream) : Nat :=
  2 * s.unsent.length + s.buffer.length + (if s.ending?.isSome then 0 else 1) +
    (if s.drained then 0 else 1)

theorem Step.left_lt (h : Step capacity ending s s') : s'.left < s.left := by
  cases h with
  | send hunsent _ =>
    simp only [left, hunsent, List.length_append, List.length_cons, List.length_nil]
    omega
  | finish _ hrunning => simp [left, hrunning]
  | receive hbuffer =>
    simp only [left, hbuffer, List.length_cons]
    omega
  | drain _ _ hnot => simp [left, hnot]

theorem acc_step (s : Stream) : Acc (fun after before => Step capacity ending before after) s :=
  Subrelation.accessible (fun h => Step.left_lt h) ((measure left).wf.apply s)

/-- Every stream can come to its end. -/
theorem exists_drained (hcapacity : 0 < capacity) (ending : Except AgentError Unit) (s : Stream) :
    ∃ s', Steps capacity ending s s' ∧ s'.drained = true := by
  have hends : Acc (fun after before => Step capacity ending before after) s := acc_step s
  induction hends with
  | intro s _ ih =>
    cases hdrained : s.drained with
    | true => exact ⟨s, .refl, hdrained⟩
    | false =>
      obtain ⟨s₁, hstep⟩ : ∃ s₁, Step capacity ending s s₁ := exists_step hcapacity hdrained
      obtain ⟨s', hsteps, hs'⟩ := ih s₁ hstep
      exact ⟨s', .head hstep hsteps, hs'⟩

end Stream

/-! ## Runs of agents -/

theorem Agent.run_of_ending {p : Progress Event} (hp : p.cancelled = false) {name prompt : String}
    {agent : Agent} {ending : Except AgentError Unit}
    (h : (agent prompt).ending.result? = some ending) :
    Agent.run p name agent prompt =
      (some (ending.map fun _ => String.join (agent prompt).chunks),
        ⟨(agent prompt).ending.cancels,
          p.log ++ .started name prompt :: (agent prompt).chunks.map .printed⟩) := by
  have hcancels : (Agent.response (agent prompt)).cancels = (agent prompt).ending.cancels := by
    rw [Agent.response]
    cases (agent prompt).ending <;> rfl
  rw [Agent.run, Progress.attempt, if_neg (Bool.eq_false_iff.1 hp)]
  dsimp only
  rw [hcancels, Agent.response, Work.result?_map, h, Option.map_some]

theorem newline_not_mem_dropLast {lines : List (List Char)} (h : Lines lines) :
    ∀ line ∈ lines, line ≠ [] ∧ '\n' ∉ line.dropLast := by
  induction h with
  | nil => nofun
  | last hne hline =>
    intro line hmem
    obtain rfl := List.mem_singleton.1 hmem
    exact ⟨hne, fun hlast => hline ((List.dropLast_sublist _).mem hlast)⟩
  | cons hline _ ih =>
    refine List.forall_mem_cons.2 ⟨⟨by simp, ?_⟩, ih⟩
    rwa [List.dropLast_concat]

/-- The echo agent sends the lines of its prompt, which make it up again. -/
theorem echo_chunks (prompt : String) :
    String.join (Agent.echo prompt).chunks = prompt ∧
      ∀ chunk ∈ (Agent.echo prompt).chunks, chunk ≠ "" ∧ '\n' ∉ chunk.toList.dropLast := by
  constructor
  · rw [← String.toList_inj, String.toList_join, Agent.echo, List.flatMap_map]
    simp only [String.toList_ofList, List.flatMap_id', flatten_linesWithEnds]
  · intro chunk hchunk
    obtain ⟨line, hline, rfl⟩ := List.mem_map.1 hchunk
    obtain ⟨hne, hnewline⟩ :=
      newline_not_mem_dropLast (lines_linesWithEnds prompt.toList) line hline
    rw [String.toList_ofList]
    exact ⟨mt String.ofList_eq_empty_iff.1 hne, hnewline⟩

/-- A response reaches the console as it was sent, whatever the room in the channel. Every stream of
a reply ends, and only when its reader has seen the end; then the chunks that are printed are those
of the reply in their order, and what the stream comes to is what the run of the agent does. The
response of the echo agent is its prompt, in chunks that are lines. -/
theorem streaming_keeps_chunks {capacity : Nat} (hcapacity : 0 < capacity) {p : Progress Event}
    (hp : p.cancelled = false) (name prompt : String) (agent : Agent)
    {ending : Except AgentError Unit} (hending : (agent prompt).ending.result? = some ending) :
    Acc (fun after before => Stream.Step capacity ending before after)
        { unsent := (agent prompt).chunks } ∧
      (∀ s, Stream.Steps capacity ending { unsent := (agent prompt).chunks } s →
        (s.drained = false ∧ ∃ s', Stream.Step capacity ending s s') ∨
        (s.drained = true ∧ (∀ s', ¬ Stream.Step capacity ending s s') ∧
          s.printed = (agent prompt).chunks ∧
          s.answer? = some (ending.map fun _ => String.join (agent prompt).chunks) ∧
          Agent.run p name agent prompt = (s.answer?, ⟨(agent prompt).ending.cancels,
            p.log ++ .started name prompt :: s.printed.map .printed⟩))) ∧
      ∀ text, (Agent.run p Agent.echoName Agent.echo text).1 = some (.ok text) ∧
        ∀ chunk ∈ (Agent.echo text).chunks, chunk ≠ "" ∧ '\n' ∉ chunk.toList.dropLast := by
  refine ⟨Stream.acc_step _, fun s hs => ?_, fun text => ?_⟩
  · have hintact := Stream.intact_of_steps hs
    cases hdrained : s.drained with
    | false => exact .inl ⟨rfl, Stream.exists_step hcapacity hdrained⟩
    | true =>
      obtain ⟨hprinted, hanswer⟩ := hintact.of_drained hdrained
      refine .inr ⟨rfl, fun _ => Stream.not_step_of_drained hintact hdrained, hprinted, hanswer, ?_⟩
      rw [hanswer, hprinted, Agent.run_of_ending hp hending]
  · obtain ⟨hjoin, hlines⟩ := echo_chunks text
    have hends : (Agent.echo text).ending.result? = some (.ok ()) := rfl
    refine ⟨?_, hlines⟩
    rw [Agent.run_of_ending hp hends, hjoin]
    rfl

/-- An agent that fails after three chunks, over a channel with room for two. -/
def breakingOff : Agent := fun _ => ⟨["a", "", "b"], .finishes (.error (.failed "x" "limit"))⟩

theorem streaming_keeps_chunks_breakingOff :
    (∃ s, Stream.Steps 2 (.error (.failed "x" "limit")) { unsent := ["a", "", "b"] } s ∧
      s.printed = ["a", "", "b"] ∧ s.answer? = some (.error (.failed "x" "limit"))) ∧
    (Agent.run {} Agent.echoName Agent.echo "one\ntwo").1 = some (.ok "one\ntwo") := by
  have hroom : 0 < 2 := by decide
  have hending : (breakingOff "hi").ending.result? = some (.error (.failed "x" "limit")) := rfl
  obtain ⟨_, hstream, hecho⟩ :=
    streaming_keeps_chunks hroom (p := {}) rfl "x" "hi" breakingOff hending
  refine ⟨?_, (hecho "one\ntwo").1⟩
  obtain ⟨s, hs, hdrained⟩ := Stream.exists_drained hroom (.error (.failed "x" "limit"))
    { unsent := ["a", "", "b"] }
  rcases hstream s hs with ⟨hnot, _⟩ | ⟨_, _, hprinted, hanswer, _⟩
  · rw [hdrained] at hnot
    cases hnot
  · exact ⟨s, hs, hprinted, hanswer⟩

end PromptScript
