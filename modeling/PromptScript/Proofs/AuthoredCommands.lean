import PromptScript.Proofs.BodyParts
import PromptScript.Proofs.FixedAnswers

/-!
# Proofs.AuthoredCommands

The commands that a run dispatches are those that its author wrote into the body. `Recorded.run` is
the run with a record of the commands of its body and their results (`run_snd`). The record does not
depend on the values that are filled in, and the text of the body is the authored text with each
command replaced by its result and each stretch between two commands filled in once
(`commands_are_authored`).
-/

namespace PromptScript

/-- A command that was dispatched, with its result. -/
structure CommandRun where
  call : List Char
  result : String
  deriving DecidableEq, Repr

namespace Recorded

section Bodies

variable [PatternLibrary]

/-- The parts of a body, with a record of the commands that are run for it. -/
def expandParts (source : ItemSource) (s : Scene) (p : Progress Event) :
    List BodyPart → List CommandRun × Except RunError (List String) × Progress Event
  | [] => ([], .ok [], p)
  | .plain text :: rest =>
    match expandParts source s p rest with
    | (runs, .error e, p) => (runs, .error e, p)
    | (runs, .ok texts, p) => (runs, .ok (s.fill (String.ofList text) :: texts), p)
  | .command call :: rest =>
    match showCommand source p (String.ofList call) with
    | (result, p) =>
      if p.cancelled then ([⟨call, result⟩], .error .cancelled, p)
      else
        match expandParts source s p rest with
        | (runs, .error e, p) => (⟨call, result⟩ :: runs, .error e, p)
        | (runs, .ok texts, p) => (⟨call, result⟩ :: runs, .ok (result :: texts), p)

def expandBody (source : ItemSource) (s : Scene) (p : Progress Event) (body : List Char) :
    List CommandRun × Except RunError String × Progress Event :=
  match expandParts source s p (bodyParts body) with
  | (runs, .error e, p) => (runs, .error e, p)
  | (runs, .ok texts, p) => (runs, .ok (String.join texts), p)

end Bodies

/-- The run of a document, with a record of the commands that are run for its body. -/
def run (host : Host) (script : String) (d : Document) (context : Context) (cache : ResponseCache)
    (p : Progress Event) :
    List CommandRun × Except RunError RunOutput × ResponseCache × Progress Event :=
  match renderVariables host.source { scene := ⟨context, .empty⟩, progress := p }
      d.header.declarations with
  | (.error e, s) => ([], .error e, cache, s.progress)
  | (.ok (), s) =>
    match expandBody host.source s.scene s.progress d.body with
    | (runs, .error e, p) => (runs, .error e, cache, p)
    | (runs, .ok text, p) =>
      match handOffTo? host script d.header.agent text cache p with
      | (.error e, cache, p) => (runs, .error e, cache, p)
      | (.ok response, cache, p) =>
        (runs, .ok ⟨s.scene.rendered, text, s.failures, response⟩, cache, p)

/-! ## Without the record -/

theorem expandParts_snd [PatternLibrary] (source : ItemSource) (s : Scene) (p : Progress Event)
    (parts : List BodyPart) :
    (expandParts source s p parts).2 = PromptScript.expandParts source s p parts := by
  induction parts generalizing p with
  | nil => rfl
  | cons part rest ih =>
    cases part with
    | plain text =>
      rw [expandParts, PromptScript.expandParts, ← ih]
      rcases expandParts source s p rest with ⟨runs, e | texts, q⟩ <;> rfl
    | command call =>
      rw [expandParts, PromptScript.expandParts]
      rcases showCommand source p (String.ofList call) with ⟨result, p₁⟩
      dsimp only
      split
      · rfl
      · rw [← ih]
        rcases expandParts source s p₁ rest with ⟨runs, e | texts, q⟩ <;> rfl

theorem expandBody_snd [PatternLibrary] (source : ItemSource) (s : Scene) (p : Progress Event)
    (body : List Char) :
    (expandBody source s p body).2 = PromptScript.expandBody source s p body := by
  rw [expandBody, PromptScript.expandBody, ← expandParts_snd]
  rcases expandParts source s p (bodyParts body) with ⟨runs, e | texts, q⟩ <;> rfl

/-- Forgetting the record gives the run. -/
theorem run_snd (host : Host) (script : String) (d : Document) (context : Context)
    (cache : ResponseCache) (p : Progress Event) :
    (run host script d context cache p).2 = d.run host script context cache p := by
  rw [run, Document.run]
  rcases renderVariables host.source { scene := ⟨context, .empty⟩, progress := p }
    d.header.declarations with ⟨e | u, s⟩
  · rfl
  · dsimp only
    rw [← expandBody_snd]
    rcases expandBody host.source s.scene s.progress d.body with ⟨runs, e | text, q⟩
    · rfl
    · dsimp only
      rcases handOffTo? host script d.header.agent text cache q with ⟨e | response, cache', q'⟩ <;>
        rfl

end Recorded

/-! ## Cutting a body at its commands -/

/-- The text before the first command, and each command with the text after it. -/
def cutAtCommands : List BodyPart → List Char × List (List Char × List Char)
  | [] => ([], [])
  | .plain text :: rest => (text ++ (cutAtCommands rest).1, (cutAtCommands rest).2)
  | .command call :: rest => ([], (call, (cutAtCommands rest).1) :: (cutAtCommands rest).2)

/-- The cut loses nothing. -/
theorem written_cutAtCommands (parts : List BodyPart) :
    (cutAtCommands parts).1 ++
        (cutAtCommands parts).2.flatMap (fun x => (BodyPart.command x.1).written ++ x.2) =
      parts.flatMap BodyPart.written := by
  induction parts with
  | nil => rfl
  | cons part rest ih =>
    cases part with
    | plain text =>
      rw [cutAtCommands, List.flatMap_cons, ← ih, List.append_assoc]
      rfl
    | command call =>
      rw [cutAtCommands, List.flatMap_cons, List.flatMap_cons, ← ih, List.append_assoc]
      rfl

theorem isCall_of_mem_cutAtCommands {parts : List BodyPart} (h : WellParted parts)
    {x : List Char × List Char} (hx : x ∈ (cutAtCommands parts).2) : IsCall x.1 := by
  induction h with
  | nil => cases hx
  | last text => cases hx
  | command hcall _ ih =>
    rcases List.mem_cons.1 hx with rfl | hx
    · exact hcall
    · exact ih hx
  | plain text _ ih => exact ih hx

/-! ## What is recorded -/

/-- A text with its references replaced. The pieces are those of the authored text, and a value that
takes the place of a reference is taken as it is. -/
def Scene.filled (s : Scene) (text : List Char) : List Char :=
  (pieces text).flatMap (Piece.resolved s.find?)

/-- A text cut at its commands, the commands replaced by their results. -/
def Scene.expansion (s : Scene) (first : List Char) (rest : List (CommandRun × List Char)) :
    List Char :=
  s.filled first ++ rest.flatMap fun x => x.1.result.toList ++ s.filled x.2

/-- This is the result of the command, whenever it is run. -/
def CommandRun.Settled (source : ItemSource) (c : CommandRun) : Prop :=
  ∀ p q result, showCommand source p (String.ofList c.call) = (result, q) → q.cancelled = false →
    result = c.result

section Recording

variable {source : ItemSource} {s s' : Scene} {p p' q q' : Progress Event}
  {parts : List BodyPart} {runs runs' : List CommandRun} {texts : List String}

/-- A body whose first part is a command: it runs, and unless that is cancelled so do the others. -/
theorem Recorded.expandParts_command_eq_ok {call : List Char}
    (h : Recorded.expandParts source s p (.command call :: parts) = (runs, .ok texts, q)) :
    ∃ result p₁ runs₁ texts₁, showCommand source p (String.ofList call) = (result, p₁) ∧
      p₁.cancelled = false ∧
      Recorded.expandParts source s p₁ parts = (runs₁, .ok texts₁, q) ∧
      runs = ⟨call, result⟩ :: runs₁ ∧ texts = result :: texts₁ := by
  rw [Recorded.expandParts] at h
  rcases hcall : showCommand source p (String.ofList call) with ⟨result, p₁⟩
  rw [hcall] at h
  dsimp only at h
  split at h
  · cases h
  · rename_i hp₁
    split at h
    · cases h
    · rename_i runs₁ texts₁ p₂ hrest
      cases h
      exact ⟨result, p₁, runs₁, texts₁, rfl, Bool.eq_false_iff.2 hp₁, hrest, rfl, rfl⟩

theorem Recorded.expandParts_plain_eq_ok {text : List Char}
    (h : Recorded.expandParts source s p (.plain text :: parts) = (runs, .ok texts, q)) :
    ∃ texts₁, Recorded.expandParts source s p parts = (runs, .ok texts₁, q) ∧
      texts = s.fill (String.ofList text) :: texts₁ := by
  rw [Recorded.expandParts] at h
  split at h
  · cases h
  · rename_i runs₁ texts₁ p₁ hrest
    cases h
    exact ⟨texts₁, hrest, rfl⟩

/-- The record holds the commands of the body in order, each with its result. -/
theorem settled_of_expandParts (hfixed : source.Fixed)
    (h : Recorded.expandParts source s p parts = (runs, .ok texts, q)) :
    runs.map (·.call) = (cutAtCommands parts).2.map (·.1) ∧ ∀ c ∈ runs, c.Settled source := by
  induction parts generalizing p runs texts with
  | nil => cases h; exact ⟨rfl, fun _ hc => absurd hc List.not_mem_nil⟩
  | cons part rest ih =>
    cases part with
    | plain text =>
      obtain ⟨texts₁, hrest, rfl⟩ := Recorded.expandParts_plain_eq_ok h
      exact ih hrest
    | command call =>
      obtain ⟨result, p₁, runs₁, texts₁, hcall, hp₁, hrest, rfl, rfl⟩ :=
        Recorded.expandParts_command_eq_ok h
      obtain ⟨hcalls, hsettled⟩ := ih hrest
      refine ⟨congrArg _ hcalls, ?_⟩
      intro c hc
      rcases List.mem_cons.1 hc with rfl | hc
      · intro p' q' result' hcall' hq'
        exact showCommand_eq_of_fixed hfixed hcall' hcall hq' hp₁
      · exact hsettled c hc

/-- The record does not depend on the scene, nor on what happened before. -/
theorem runs_eq_of_fixed (hfixed : source.Fixed) {texts' : List String}
    (h : Recorded.expandParts source s p parts = (runs, .ok texts, q))
    (h' : Recorded.expandParts source s' p' parts = (runs', .ok texts', q')) : runs = runs' := by
  induction parts generalizing p p' runs runs' texts texts' with
  | nil => cases h; cases h'; rfl
  | cons part rest ih =>
    cases part with
    | plain text =>
      obtain ⟨texts₁, hrest, _⟩ := Recorded.expandParts_plain_eq_ok h
      obtain ⟨texts₁', hrest', _⟩ := Recorded.expandParts_plain_eq_ok h'
      exact ih hrest hrest'
    | command call =>
      obtain ⟨result, p₁, runs₁, texts₁, hcall, hp₁, hrest, rfl, _⟩ :=
        Recorded.expandParts_command_eq_ok h
      obtain ⟨result', p₁', runs₁', texts₁', hcall', hp₁', hrest', rfl, _⟩ :=
        Recorded.expandParts_command_eq_ok h'
      rw [showCommand_eq_of_fixed hfixed hcall hcall' hp₁ hp₁', ih hrest hrest']

theorem toList_fill (s : Scene) (text : List Char) :
    (s.fill (String.ofList text)).toList = s.filled text := by
  rw [Scene.fill, interpolate, String.toList_ofList, String.toList_ofList, Scene.filled]

/-- The text of a body is its expansion by the recorded results. -/
theorem join_of_expandParts (hparts : WellParted parts)
    (h : Recorded.expandParts source s p parts = (runs, .ok texts, q)) :
    (String.join texts).toList = s.expansion (cutAtCommands parts).1
      (runs.zip ((cutAtCommands parts).2.map (·.2))) := by
  induction hparts generalizing p runs texts with
  | nil => cases h; rfl
  | last text =>
    obtain ⟨texts₁, hrest, rfl⟩ := Recorded.expandParts_plain_eq_ok h
    cases hrest
    simp [cutAtCommands, Scene.expansion, toList_fill]
  | @command call rest _ _ ih =>
    obtain ⟨result, p₁, runs₁, texts₁, _, _, hrest, rfl, rfl⟩ :=
      Recorded.expandParts_command_eq_ok h
    have hjoin := ih hrest
    rw [String.join_cons, String.toList_append, hjoin]
    simp only [cutAtCommands, Scene.expansion, Scene.filled, pieces_nil, List.flatMap_nil,
      List.nil_append, List.map_cons, List.zip_cons_cons, List.flatMap_cons, List.append_assoc]
  | @plain text call rest _ ih =>
    -- the text stands before a command, so nothing is joined to it
    obtain ⟨texts₁, hrest, rfl⟩ := Recorded.expandParts_plain_eq_ok h
    have hjoin := ih hrest
    rw [String.join_cons, String.toList_append, hjoin, toList_fill]
    simp only [cutAtCommands, Scene.expansion, Scene.filled, pieces_nil, List.flatMap_nil,
      List.nil_append, List.append_nil]

/-! ## Whole runs -/

theorem map_fst_zip_snd {stretches : List (List Char × List Char)}
    (h : runs.map (·.call) = stretches.map (·.1)) :
    (runs.zip (stretches.map (·.2))).map (·.1) = runs := by
  have hlength := congrArg List.length h
  simp only [List.length_map] at hlength
  exact List.map_fst_zip (by simp [hlength])

theorem map_zip_snd {stretches : List (List Char × List Char)}
    (h : runs.map (·.call) = stretches.map (·.1)) :
    (runs.zip (stretches.map (·.2))).map (fun x => (x.1.call, x.2)) = stretches := by
  have hzip : (runs.zip (stretches.map (·.2))).map (fun x => (x.1.call, x.2)) =
      (runs.map (·.call)).zip (stretches.map (·.2)) := by
    rw [List.zip_map_left]; rfl
  rw [hzip, h]
  exact (List.zip_of_prod rfl rfl).symm

/-- One run: what is recorded, and the text of the body. -/
theorem expansion_of_run {host : Host} {script : String} {d : Document} {context : Context}
    {cache cache' : ResponseCache} {p q : Progress Event} {out : RunOutput}
    (h : d.run host script context cache p = (.ok out, cache', q)) :
    ∃ runs texts p₁ p₂, (Recorded.run host script d context cache p).1 = runs ∧
      Recorded.expandParts host.source ⟨context, out.rendered⟩ p₁ (bodyParts d.body) =
        (runs, .ok texts, p₂) ∧
      out.text.toList = Scene.expansion ⟨context, out.rendered⟩ (cutAtCommands (bodyParts d.body)).1
        (runs.zip ((cutAtCommands (bodyParts d.body)).2.map (·.2))) := by
  obtain ⟨s, p₁, text, hvars, hbody, hhand, hout⟩ := run_eq_ok h
  have hcontext : s.scene.context = context :=
    (holds_renderVariables (Scene.holds_nil context) hvars).2
  have hscene : s.scene = ⟨context, out.rendered⟩ := by
    rw [hout, ← hcontext]
  rcases hrecord : Recorded.expandBody host.source s.scene s.progress d.body with ⟨runs, r, p₂⟩
  have hsnd := Recorded.expandBody_snd host.source s.scene s.progress d.body
  rw [hrecord, hbody] at hsnd
  cases hsnd
  have hrun : (Recorded.run host script d context cache p).1 = runs := by
    rw [Recorded.run, hvars]
    dsimp only
    rw [hrecord]
    dsimp only
    rw [hhand]
  rw [Recorded.expandBody] at hrecord
  split at hrecord
  · cases hrecord
  · rename_i runs texts p₂ hparts
    cases hrecord
    have htext : out.text = String.join texts := by rw [hout]
    rw [hscene] at hparts
    refine ⟨runs, texts, s.progress, p₁, hrun, hparts, ?_⟩
    rw [htext]
    exact join_of_expandParts (wellParted_bodyParts d.body) hparts

end Recording

/-- Two runs of a document on one source dispatch the same commands of its body with the same
results, whatever the host gives. The commands are cut out of the authored body, and the text is the
body with each command replaced by its result and the stretches between them filled in once. -/
theorem commands_are_authored (d : Document) {host : Host} (hfixed : host.source.Fixed)
    (script : String) (context context' : Context) (cache : ResponseCache) (p : Progress Event)
    (h : (d.run host script context cache p).2.2.cancelled = false)
    (h' : (d.run host script context' cache p).2.2.cancelled = false) :
    ∃ (out out' : RunOutput) (first : List Char) (rest : List (CommandRun × List Char)),
      (d.run host script context cache p).1 = .ok out ∧
      (d.run host script context' cache p).1 = .ok out' ∧
      Recorded.run host script d context cache p =
        (rest.map (·.1), d.run host script context cache p) ∧
      Recorded.run host script d context' cache p =
        (rest.map (·.1), d.run host script context' cache p) ∧
      d.body = first ++ rest.flatMap (fun x => (BodyPart.command x.1.call).written ++ x.2) ∧
      (∀ x ∈ rest, IsCall x.1.call ∧ x.1.Settled host.source) ∧
      out.text.toList = Scene.expansion ⟨context, out.rendered⟩ first rest ∧
      out'.text.toList = Scene.expansion ⟨context', out'.rendered⟩ first rest := by
  obtain ⟨out, cache₁, q, hrun, _⟩ := run_completes h
  obtain ⟨out', cache₁', q', hrun', _⟩ := run_completes h'
  obtain ⟨runs, texts, p₁, p₂, hrecord, hparts, htext⟩ := expansion_of_run hrun
  obtain ⟨runs', texts', p₁', p₂', hrecord', hparts', htext'⟩ := expansion_of_run hrun'
  cases runs_eq_of_fixed hfixed hparts hparts'
  obtain ⟨hcalls, hsettled⟩ := settled_of_expandParts hfixed hparts
  have hfst := map_fst_zip_snd hcalls
  have hcut := map_zip_snd hcalls
  refine ⟨out, out', (cutAtCommands (bodyParts d.body)).1,
    runs.zip ((cutAtCommands (bodyParts d.body)).2.map (·.2)), ?_, ?_, ?_, ?_, ?_, ?_, htext,
    htext'⟩
  · rw [hrun]
  · rw [hrun']
  · rw [hfst]
    exact Prod.ext hrecord (Recorded.run_snd host script d context cache p)
  · rw [hfst]
    exact Prod.ext hrecord' (Recorded.run_snd host script d context' cache p)
  · conv => lhs; rw [← flatMap_written_bodyParts d.body, ← written_cutAtCommands, ← hcut]
    rw [List.flatMap_map]
  · intro x hx
    have hmem : (x.1.call, x.2) ∈ (cutAtCommands (bodyParts d.body)).2 := by
      rw [← hcut]
      exact List.mem_map_of_mem hx
    exact ⟨isCall_of_mem_cutAtCommands (wellParted_bodyParts d.body) hmem,
      hsettled x.1 (List.of_mem_zip hx).1⟩

/-- A host with two files. -/
def twoFiles : Host := { source := .ofList ["a.kt", "b.py"] }

theorem fixed_ofList (items : List String) : (ItemSource.ofList items).Fixed :=
  ⟨fun _ _ => rfl, fun _ _ _ => rfl⟩

/-- A command between two names of the host. -/
def regexText : String := "$selection @file-func:regex(\".*\\.kt\") $language\n"

/-- The values of a host that look like a command and a reference. -/
def commandLike : Context :=
  .ofList [("selection", "@file-func:regex(\".*\")"), ("language", "$selection")]

theorem commands_are_authored_commandLike :
    ∃ (d : Document) (out out' : RunOutput) (first : List Char)
      (rest : List (CommandRun × List Char)), Document.compile regexText = .ok d ∧
      (d.run twoFiles "s" commandLike .empty {}).1 = .ok out ∧
      (d.run twoFiles "s" {} .empty {}).1 = .ok out' ∧
      rest.map (·.1) = [⟨"regex(\".*\\.kt\")".toList, "a.kt"⟩] ∧
      d.body = first ++ rest.flatMap (fun x => (BodyPart.command x.1.call).written ++ x.2) ∧
      out.text = "@file-func:regex(\".*\") a.kt $selection\n" ∧
      out.text.toList = Scene.expansion ⟨commandLike, out.rendered⟩ first rest ∧
      out'.text = "$selection a.kt $language\n" ∧
      out'.text.toList = Scene.expansion ⟨{}, out'.rendered⟩ first rest := by
  have hruns : (Document.compile regexText).toOption.map (fun d =>
      let r := Recorded.run twoFiles "s" d commandLike .empty {}
      let r' := Recorded.run twoFiles "s" d {} .empty {}
      (r.1, r.2.1.toOption.map (·.text), r'.2.1.toOption.map (·.text),
        (d.run twoFiles "s" commandLike .empty {}).2.2.cancelled,
        (d.run twoFiles "s" {} .empty {}).2.2.cancelled)) =
      some ([⟨"regex(\".*\\.kt\")".toList, "a.kt"⟩],
        some "@file-func:regex(\".*\") a.kt $selection\n", some "$selection a.kt $language\n",
        false, false) := by decide +kernel
  cases hd : Document.compile regexText with
  | error e => rw [hd] at hruns; cases hruns
  | ok d =>
    rw [hd] at hruns
    simp only [Except.toOption, Option.map_some, Option.some.injEq, Prod.mk.injEq] at hruns
    obtain ⟨hrecord, htext, htext', hcancelled, hcancelled'⟩ := hruns
    obtain ⟨out, out', first, rest, hrun, hrun', hrest, hrest', hbody, _, hout, hout'⟩ :=
      commands_are_authored d (fixed_ofList ["a.kt", "b.py"]) "s" commandLike {} .empty {}
        hcancelled hcancelled'
    rw [hrest] at hrecord htext
    rw [hrest'] at htext'
    simp only [hrun, Option.map_some, Option.some.injEq] at htext
    simp only [hrun', Option.map_some, Option.some.injEq] at htext'
    exact ⟨d, out, out', first, rest, rfl, hrun, hrun', hrecord, hbody, htext, hout, htext', hout'⟩

end PromptScript
