import PromptScript.CommandLine.Basic

/-!
# Proofs.ResultMark

The mark that tells diagnostics from results. A command that fails is shown with the mark. One that
succeeds shows the paths that it finds as the source gives them, so its text begins with the mark
too if the first path does. Apart from that the mark tells failure from success, and so does the
exit code of the command line (`mark_tells_failure_iff`).
-/

namespace PromptScript

/-! ## The mark in a text -/

/-- A character that a text does not hold ends the look for it at the start of another. -/
theorem isPrefixOf_append_cons {mark : List Char} {c : Char} (hc : c ∉ mark) (a b : List Char) :
    mark.isPrefixOf (a ++ c :: b) = mark.isPrefixOf a := by
  induction mark generalizing a with
  | nil => rfl
  | cons m rest ih =>
    rw [List.mem_cons, not_or] at hc
    cases a with
    | nil =>
      have hm : (m == c) = false := beq_false_of_ne (Ne.symm hc.1)
      rw [List.nil_append, List.isPrefixOf_cons_cons, hm]
      rfl
    | cons x a =>
      rw [List.cons_append, List.isPrefixOf_cons_cons, List.isPrefixOf_cons_cons, ih hc.2]

theorem isDiagnostic_diagnostic (detail : String) : isDiagnostic (diagnostic detail) = true := by
  rw [isDiagnostic, diagnostic, String.toList_append, String.toList_append, List.append_assoc]
  exact List.isPrefixOf_iff_prefix.2 (List.prefix_append _ _)

/-- Joined paths begin with the mark if the first of them does. -/
theorem isDiagnostic_joinTexts_cons (path : String) (rest : List String) :
    isDiagnostic (joinTexts pathSeparator (path :: rest)) = isDiagnostic path := by
  rw [isDiagnostic, isDiagnostic, joinTexts, String.toList_ofList]
  cases rest with
  | nil => rfl
  | cons next rest =>
    have hcomma : ',' ∉ diagnosticMark.toList := by decide
    have hjoined : joinFields pathSeparator.toList ((path :: next :: rest).map String.toList) =
        path.toList ++ ',' ::
          (' ' :: joinFields pathSeparator.toList ((next :: rest).map String.toList)) :=
      List.append_assoc _ _ _
    rw [hjoined, isPrefixOf_append_cons hcomma]

/-! ## The outcome of a command -/

section Commands

variable {source : ItemSource} {p : Progress Event} {text : String}

/-- The command lists these items of the source: those that its pattern matches as a whole. -/
inductive Finds (source : ItemSource) (p : Progress Event) (text : String) :
    List String → Prop where
  | intro {c : Call} {argument : String} {more items : List String} {whole : Pattern} :
      Call.find? text = some c → FileFunction.ofName? c.function = some .regex →
      c.arguments = argument :: more → Pattern.read (wholePath (unquoted argument)) = .ok whole →
      (source.list p).1 = some (.ok items) → Finds source p text (items.filter whole.found)

/-- The command comes to an error. -/
def CommandFails (source : ItemSource) (p : Progress Event) (text : String) : Prop :=
  ∃ e, (runCommand source p text).1 = .error e

/-- The first path that the command finds begins with the mark. -/
def FindsMarked (source : ItemSource) (p : Progress Event) (text : String) : Prop :=
  ∃ path rest, Finds source p text (path :: rest) ∧ isDiagnostic path = true

theorem findPaths_of_list {pattern : String} {whole : Pattern} {items : List String}
    (hread : Pattern.read (wholePath pattern) = .ok whole)
    (hlist : (source.list p).1 = some (.ok items)) :
    (findPaths source p pattern).1 = .ok (joinTexts pathSeparator (items.filter whole.found)) := by
  rcases hrun : source.list p with ⟨answer, q⟩
  rw [hrun] at hlist
  cases hlist
  rw [findPaths, PatternLibrary.compile_eq_ok_iff.2 ⟨whole, hread, rfl⟩]
  simp only [hrun]

theorem runCommand_of_finds {paths : List String} (h : Finds source p text paths) :
    (runCommand source p text).1 = .ok (joinTexts pathSeparator paths) := by
  cases h with
  | intro hcall hfunction harguments hread hlist =>
    rw [runCommand, hcall]
    simp only [Call.run, hfunction, harguments]
    exact findPaths_of_list hread hlist

theorem finds_of_runCommand {result : String} (h : (runCommand source p text).1 = .ok result) :
    ∃ paths, Finds source p text paths ∧ result = joinTexts pathSeparator paths := by
  rw [runCommand] at h
  split at h
  · cases h
  · rename_i c hcall
    rw [Call.run] at h
    split at h
    · cases h
    · rename_i hfunction
      split at h
      · cases h
      · rename_i argument more harguments
        rw [findPaths] at h
        split at h
        · cases h
        · rename_i found hcompile
          obtain ⟨whole, hread, rfl⟩ := PatternLibrary.compile_eq_ok_iff.1 hcompile
          split at h
          · cases h
          · cases h
          · rename_i items q hlist
            cases h
            exact ⟨_, .intro hcall hfunction harguments hread (by rw [hlist]), rfl⟩

theorem not_fails_of_findsMarked (h : FindsMarked source p text) :
    ¬ CommandFails source p text := by
  obtain ⟨path, rest, hfinds, _⟩ := h
  rintro ⟨e, he⟩
  rw [runCommand_of_finds hfinds] at he
  cases he

theorem showCommand_fst_eq (source : ItemSource) (p : Progress Event) (text : String) :
    (showCommand source p text).1 =
      match (runCommand source p text).1 with
      | .ok result => result
      | .error e => diagnostic e.message := by
  rw [showCommand]
  rcases runCommand source p text with ⟨e | result, q⟩ <;> rfl

/-- What a command shows looks like a diagnostic if it failed, or if it found a marked path
first. -/
theorem isDiagnostic_showCommand_iff :
    isDiagnostic (showCommand source p text).1 = true ↔
      CommandFails source p text ∨ FindsMarked source p text := by
  rw [showCommand_fst_eq]
  cases hrun : (runCommand source p text).1 with
  | error e => exact ⟨fun _ => .inl ⟨e, hrun⟩, fun _ => isDiagnostic_diagnostic _⟩
  | ok result =>
    obtain ⟨paths, hfinds, rfl⟩ := finds_of_runCommand hrun
    constructor
    · intro h
      cases paths with
      | nil => cases h
      | cons path rest =>
        rw [isDiagnostic_joinTexts_cons] at h
        exact .inr ⟨path, rest, hfinds, h⟩
    · rintro (⟨e, he⟩ | ⟨path, rest, hmarked, hpath⟩)
      · rw [hrun] at he
        cases he
      · have hsame := (runCommand_of_finds hmarked).symm.trans hrun
        rw [← Except.ok.inj hsame, isDiagnostic_joinTexts_cons]
        exact hpath

end Commands

/-! ## The exit code -/

theorem code_execCommand (w : Workspace) (call : String) :
    (execCommand w call).code =
      if isDiagnostic (showCommand w.source.toItemSource {} call).1 then 1 else 0 := by
  rw [execCommand]

/-- For a command the mark tells failure from success, and so does the exit code, if and only if it
does not find a path first that begins with the mark. -/
theorem mark_tells_failure_iff (source : ItemSource) (p : Progress Event) (text : String) :
    ((isDiagnostic (showCommand source p text).1 = true ↔ CommandFails source p text) ↔
        ¬ FindsMarked source p text) ∧
      ∀ w : Workspace,
        ((execCommand w text).code = 1 ↔ CommandFails w.source.toItemSource {} text) ↔
          ¬ FindsMarked w.source.toItemSource {} text := by
  have hmark : ∀ (source : ItemSource) (p : Progress Event),
      (isDiagnostic (showCommand source p text).1 = true ↔ CommandFails source p text) ↔
        ¬ FindsMarked source p text := by
    intro source p
    rw [isDiagnostic_showCommand_iff]
    constructor
    · intro h hmarked
      exact not_fails_of_findsMarked hmarked (h.1 (.inr hmarked))
    · intro hmarked
      exact ⟨fun h => h.resolve_right hmarked, .inl⟩
  refine ⟨hmark source p, ?_⟩
  intro w
  rw [← hmark, code_execCommand]
  cases isDiagnostic (showCommand w.source.toItemSource {} text).1 <;> simp

/-- A path that begins with the mark makes a command look failed that has succeeded. -/
theorem marked_path_looks_failed :
    let source : ItemSource := .ofList ["<SHIRE_ERROR>.txt"]
    (runCommand source {} "regex(\".*\")").1 = .ok "<SHIRE_ERROR>.txt" ∧
      isDiagnostic (showCommand source {} "regex(\".*\")").1 = true := by
  intro source
  refine ⟨?_, by decide +kernel⟩
  have hresult : (runCommand source {} "regex(\".*\")").1.toOption =
      some "<SHIRE_ERROR>.txt" := by decide +kernel
  cases hrun : (runCommand source {} "regex(\".*\")").1 with
  | error e => rw [hrun] at hresult; cases hresult
  | ok result => rw [hrun] at hresult; cases hresult; rfl

end PromptScript
