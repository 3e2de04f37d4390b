import PromptScript.Command.Dispatch
import PromptScript.Proofs.FirstCall
import PromptScript.Proofs.WrappedPatterns

/-!
# Proofs.CommandOutcome

What a command comes to, in every state of its token and for every answer of the source. The rules
of `CommandOutcome` are the ways in which a command ends, and there are no others
(`runCommand_eq_iff`): errors of the text come first, then those of the pattern, then cancellation,
then those of the source. A command that succeeds lists, in the order of the source, the items that
its pattern describes as a whole. Of the library of patterns it is only used that it follows the
usual rules (`PatternLibrary.Standard`); the reader of `Pattern` does.
-/

namespace PromptScript

open PatternLibrary (compile)

/-! ## The pattern of a command -/

theorem mem_joinFields_of_mem {α : Type} {sep : List α} {pieces : List (List α)} {piece : List α}
    {x : α} (hpiece : piece ∈ pieces) (hx : x ∈ piece) : x ∈ joinFields sep pieces := by
  induction pieces with
  | nil => cases hpiece
  | cons first rest ih =>
    cases rest with
    | nil =>
      obtain rfl := List.mem_singleton.1 hpiece
      exact hx
    | cons next rest =>
      rw [joinFields]
      · rcases List.mem_cons.1 hpiece with rfl | hpiece
        · simp [hx]
        · exact List.mem_append_right _ (ih hpiece)
      · exact List.cons_ne_nil _ _

namespace Call

theorem PiecesOf.exists_of_mem {pieces : List (List Char)} {args : List String}
    (h : PiecesOf pieces args) {arg : String} (harg : arg ∈ args) :
    ∃ piece ∈ pieces, Padded piece arg.toList := by
  induction h with
  | nil => cases harg
  | cons hpiece _ ih =>
    rcases List.mem_cons.1 harg with rfl | harg
    · exact ⟨_, List.mem_cons_self, hpiece⟩
    · obtain ⟨piece, hmem, hpadded⟩ := ih harg
      exact ⟨piece, List.mem_cons_of_mem _ hmem, hpadded⟩

/-- Arguments hold no character that the text between the parentheses does not. -/
theorem IsArguments.not_mem {raw : List Char} {args : List String} (h : IsArguments raw args)
    {c : Char} (hc : c ∉ raw) : ∀ arg ∈ args, c ∉ arg.toList := by
  cases h with
  | none => nofun
  | some _ hraw _ _ hpieces _ =>
    subst hraw
    intro arg harg hmem
    obtain ⟨piece, hpiece, left, right, hpadded, _⟩ := hpieces.exists_of_mem harg
    exact hc (mem_joinFields_of_mem hpiece (by simp [hpadded, hmem]))

theorem close_not_mem_of_find? [PatternLibrary] {text : String} {c : Call}
    (h : find? text = some c) :
    ∀ arg ∈ c.arguments, ')' ∉ arg.toList := by
  obtain ⟨_, _, raw, _, _, hraw, _, hargs⟩ := find?_eq_some_iff.1 h
  exact hargs.not_mem hraw

end Call

/-- One pair of equal quotation marks is taken off an argument that has one around it; any other
argument stays as it is. -/
inductive Unquotes : String → String → Prop where
  | pair {argument inner : String} (quote : Char) : quote = '"' ∨ quote = '\'' →
      argument.toList = quote :: (inner.toList ++ [quote]) → Unquotes argument inner
  | bare {argument : String} : (∀ quote inner, quote = '"' ∨ quote = '\'' →
      argument.toList ≠ quote :: (inner ++ [quote])) → Unquotes argument argument

theorem between?_eq_some_iff {quote : Char} {cs inner : List Char} :
    between? quote cs = some inner ↔ cs = quote :: (inner ++ [quote]) := by
  constructor
  · intro h
    cases cs with
    | nil => cases h
    | cons c rest =>
      rw [between?] at h
      split at h
      · rename_i hquote
        obtain ⟨rfl, hlast⟩ := hquote
        obtain ⟨body, rfl⟩ := List.getLast?_eq_some_iff.1 hlast
        rw [List.dropLast_concat] at h
        cases h
        rfl
      · cases h
  · rintro rfl
    rw [between?, if_pos ⟨rfl, by simp⟩, List.dropLast_concat]

theorem between?_eq_none_iff {quote : Char} {cs : List Char} :
    between? quote cs = none ↔ ∀ inner, cs ≠ quote :: (inner ++ [quote]) := by
  rw [Option.eq_none_iff_forall_ne_some]
  exact forall_congr' fun inner => not_congr between?_eq_some_iff

theorem unquotes_unquoted (argument : String) : Unquotes argument (unquoted argument) := by
  rw [unquoted]
  cases hdouble : between? '"' argument.toList with
  | some inner =>
    refine .pair '"' (.inl rfl) ?_
    dsimp only [Option.some_or]
    rw [String.toList_ofList]
    exact between?_eq_some_iff.1 hdouble
  | none =>
    rw [Option.none_or]
    cases hsingle : between? '\'' argument.toList with
    | some inner =>
      refine .pair '\'' (.inr rfl) ?_
      rw [String.toList_ofList]
      exact between?_eq_some_iff.1 hsingle
    | none =>
      refine .bare ?_
      rintro quote inner (rfl | rfl)
      · exact between?_eq_none_iff.1 hdouble inner
      · exact between?_eq_none_iff.1 hsingle inner

theorem Unquotes.unique {argument inner inner' : String} (h : Unquotes argument inner)
    (h' : Unquotes argument inner') : inner = inner' := by
  cases h with
  | pair quote hquote hpair =>
    cases h' with
    | pair quote' hquote' hpair' =>
      rw [hpair] at hpair'
      obtain ⟨rfl, hrest⟩ := List.cons.inj hpair'
      exact String.toList_inj.1 (List.append_cancel_right hrest)
    | bare hbare => exact absurd hpair (hbare quote inner.toList hquote)
  | bare hbare =>
    cases h' with
    | pair quote hquote hpair => exact absurd hpair (hbare quote inner'.toList hquote)
    | bare _ => rfl

theorem unquoted_eq_iff {argument inner : String} :
    unquoted argument = inner ↔ Unquotes argument inner :=
  ⟨fun h => h ▸ unquotes_unquoted argument, fun h => (unquotes_unquoted argument).unique h⟩

theorem Unquotes.not_mem {argument inner : String} (h : Unquotes argument inner) {c : Char}
    (hc : c ∉ argument.toList) : c ∉ inner.toList := by
  cases h with
  | pair quote _ hpair =>
    rw [hpair] at hc
    exact fun hmem => hc (by simp [hmem])
  | bare _ => exact hc

/-- The text is a call that asks for the paths of this pattern. -/
def AsksFor [PatternLibrary] (text pattern : String) : Prop :=
  ∃ c argument rest, Call.find? text = some c ∧ c.function = "regex" ∧
    c.arguments = argument :: rest ∧ Unquotes argument pattern

/-- No pattern that a command asks for could close the group around it. -/
theorem AsksFor.close_not_mem [PatternLibrary] {text pattern : String} (h : AsksFor text pattern) :
    ')' ∉ pattern.toList := by
  obtain ⟨c, argument, rest, hfind, _, harguments, hquotes⟩ := h
  exact hquotes.not_mem (Call.close_not_mem_of_find? hfind argument (by simp [harguments]))

/-! ## The library -/

/-- Which texts a pattern describes, given the characters that stand before and after. -/
abbrev Description : Type := String → Option Char → List Char → Option Char → Prop

/-- A library that follows the usual rules for what its patterns describe. -/
structure PatternLibrary.Standard [PatternLibrary] (describes : Description) : Prop where
  /-- A pattern is found in a text if it describes a stretch of it. -/
  found_iff {pattern : String} {found : String → Bool} : compile pattern = .ok found →
    ∀ text, found text = true ↔ ∃ front middle back, text.toList = front ++ middle ++ back ∧
      describes pattern (Pattern.lastOr none front) middle (Pattern.firstOr none back)
  start_iff {before after : Option Char} {text : List Char} :
    describes "^" before text after ↔ before = none ∧ text = []
  end_iff {before after : Option Char} {text : List Char} :
    describes "$" before text after ↔ after = none ∧ text = []
  /-- What stands one after the other describes stretches that follow each other. A pattern that
  closes no group stays together inside of one. -/
  group_iff {pattern : String} {found : String → Bool} {before after : Option Char}
    {text : List Char} : ')' ∉ pattern.toList → compile (wholePath pattern) = .ok found →
    (describes (wholePath pattern) before text after ↔ ∃ u v w, text = u ++ v ++ w ∧
      describes "^" before u (Pattern.firstOr after (v ++ w)) ∧
      describes pattern (Pattern.lastOr before u) v (Pattern.firstOr after w) ∧
      describes "$" (Pattern.lastOr before (u ++ v)) w after)

/-- The pattern describes the item from its first character to its last. -/
def Description.Whole (describes : Description) (pattern item : String) : Prop :=
  describes pattern none item.toList none

/-- The pattern that is written around another is found in what the other describes as a whole. -/
theorem PatternLibrary.Standard.found_wholePath_iff [PatternLibrary] {describes : Description}
    (h : Standard describes) {pattern : String} {found : String → Bool}
    (hpattern : ')' ∉ pattern.toList) (hcompile : compile (wholePath pattern) = .ok found)
    (item : String) : found item = true ↔ describes.Whole pattern item := by
  rw [h.found_iff hcompile]
  constructor
  · rintro ⟨front, middle, back, hitem, hmiddle⟩
    obtain ⟨u, v, w, rfl, hu, hv, hw⟩ := (h.group_iff hpattern hcompile).1 hmiddle
    obtain ⟨hfront, rfl⟩ := h.start_iff.1 hu
    obtain ⟨hback, rfl⟩ := h.end_iff.1 hw
    obtain rfl := Pattern.eq_nil_of_lastOr hfront
    obtain rfl := Pattern.eq_nil_of_firstOr hback
    simp only [List.nil_append, List.append_nil] at hitem hv
    rw [Description.Whole, hitem]
    exact hv
  · intro hwhole
    refine ⟨[], item.toList, [], by simp, (h.group_iff hpattern hcompile).2 ?_⟩
    exact ⟨[], item.toList, [], by simp, h.start_iff.2 ⟨rfl, rfl⟩, hwhole, h.end_iff.2 ⟨rfl, rfl⟩⟩

/-! ## The paths of a pattern -/

/-- The items with a property, in their order. -/
inductive Chosen (chosen : String → Prop) : List String → List String → Prop where
  | nil : Chosen chosen [] []
  | keep {item : String} {items paths : List String} :
      chosen item → Chosen chosen items paths → Chosen chosen (item :: items) (item :: paths)
  | drop {item : String} {items paths : List String} :
      ¬ chosen item → Chosen chosen items paths → Chosen chosen (item :: items) paths

theorem chosen_iff {chosen : String → Prop} {found : String → Bool}
    (h : ∀ item, found item = true ↔ chosen item) {items paths : List String} :
    Chosen chosen items paths ↔ items.filter found = paths := by
  constructor
  · intro hchosen
    induction hchosen with
    | nil => rfl
    | keep hitem _ ih => rw [List.filter_cons_of_pos ((h _).2 hitem), ih]
    | drop hitem _ ih => rw [List.filter_cons_of_neg (mt (h _).1 hitem), ih]
  · rintro rfl
    induction items with
    | nil => exact .nil
    | cons item rest ih =>
      by_cases hitem : found item = true
      · rw [List.filter_cons_of_pos hitem]
        exact .keep ((h item).1 hitem) ih
      · rw [List.filter_cons_of_neg hitem]
        exact .drop (mt (h item).2 hitem) ih

/-! ## Outcomes -/

/-- The token and the log after the source was asked for its items. -/
def ItemSource.afterListing (source : ItemSource) (p : Progress Event) : Progress Event :=
  ⟨(source.enumerate p.log).cancels, p.log ++ [.enumerated]⟩

section Commands

variable [PatternLibrary]

/-- How a command ends, with the token and the log after it. -/
inductive CommandOutcome (describes : Description) (source : ItemSource) (p : Progress Event)
    (text : String) : Except CommandError String → Progress Event → Prop where
  | malformed : Call.find? text = none →
      CommandOutcome describes source p text (.error (.malformed text)) p
  | unknownFunction {c : Call} : Call.find? text = some c → c.function ≠ "regex" →
      CommandOutcome describes source p text (.error (.unknownFunction c.function)) p
  | missingArgument {c : Call} : Call.find? text = some c → c.function = "regex" →
      c.arguments = [] →
        CommandOutcome describes source p text (.error (.missingArgument .regex 0)) p
  | invalidPattern {pattern : String} {fault : PatternFault} : AsksFor text pattern →
      compile (wholePath pattern) = .error fault →
        CommandOutcome describes source p text (.error (.invalidPattern pattern fault)) p
  | cancelledBefore {pattern : String} {found : String → Bool} : AsksFor text pattern →
      compile (wholePath pattern) = .ok found → p.cancelled = true →
        CommandOutcome describes source p text (.error .cancelled) p
  | givenUp {pattern : String} {found : String → Bool} : AsksFor text pattern →
      compile (wholePath pattern) = .ok found → p.cancelled = false →
        source.enumerate p.log = .cancelsAndHangs →
          CommandOutcome describes source p text (.error .cancelled) (source.afterListing p)
  | sourceFails {pattern : String} {found : String → Bool} {e : SourceError} :
      AsksFor text pattern → compile (wholePath pattern) = .ok found → p.cancelled = false →
        (source.enumerate p.log).result? = some (.error e) →
          CommandOutcome describes source p text (.error (.source e)) (source.afterListing p)
  | lists {pattern : String} {found : String → Bool} {items paths : List String} :
      AsksFor text pattern → compile (wholePath pattern) = .ok found → p.cancelled = false →
        (source.enumerate p.log).result? = some (.ok items) →
          Chosen (describes.Whole pattern) items paths →
            CommandOutcome describes source p text (.ok (joinTexts ", " paths))
              (source.afterListing p)

theorem asksFor_iff_of_find? {text pattern : String} {c : Call} (h : Call.find? text = some c) :
    AsksFor text pattern ↔ c.function = "regex" ∧
      ∃ argument rest, c.arguments = argument :: rest ∧ unquoted argument = pattern := by
  constructor
  · rintro ⟨c', argument, rest, hfind, hfunction, harguments, hquotes⟩
    obtain rfl := Option.some.inj (h.symm.trans hfind)
    exact ⟨hfunction, argument, rest, harguments, unquoted_eq_iff.2 hquotes⟩
  · rintro ⟨hfunction, argument, rest, harguments, hquotes⟩
    exact ⟨c, argument, rest, h, hfunction, harguments, unquoted_eq_iff.1 hquotes⟩

/-- A command with a pattern is the search for it. -/
theorem runCommand_of_asksFor {text pattern : String} (h : AsksFor text pattern)
    (source : ItemSource) (p : Progress Event) :
    runCommand source p text = findPaths source p pattern := by
  obtain ⟨c, argument, rest, hfind, hfunction, harguments, hquotes⟩ := h
  rw [runCommand, hfind]
  simp only [Call.run, hfunction, harguments, unquoted_eq_iff.2 hquotes]
  rfl

omit [PatternLibrary] in
theorem ItemSource.list_of_not_cancelled {source : ItemSource} {p : Progress Event}
    (h : p.cancelled = false) :
    source.list p = ((source.enumerate p.log).result?, source.afterListing p) := by
  rw [ItemSource.list, Progress.attempt, if_neg (Bool.eq_false_iff.1 h)]
  rfl

section Outcome

variable {describes : Description} {source : ItemSource} {p q : Progress Event} {text : String}
  {result : Except CommandError String}

theorem runCommand_of_outcome (hstandard : PatternLibrary.Standard describes)
    (h : CommandOutcome describes source p text result q) :
    runCommand source p text = (result, q) := by
  cases h with
  | malformed hfind => rw [runCommand, hfind]
  | unknownFunction hfind hfunction =>
    rw [runCommand, hfind]
    dsimp only
    rw [Call.run, FileFunction.ofName?, FileFunction.name, if_neg hfunction]
  | missingArgument hfind hfunction harguments =>
    rw [runCommand, hfind]
    simp only [Call.run, hfunction, harguments]
    rfl
  | invalidPattern hasks hcompile => rw [runCommand_of_asksFor hasks, findPaths, hcompile]
  | cancelledBefore hasks hcompile hcancelled =>
    rw [runCommand_of_asksFor hasks, findPaths, hcompile, ItemSource.list,
      Progress.attempt_of_cancelled hcancelled]
  | givenUp hasks hcompile hcancelled hwork =>
    rw [runCommand_of_asksFor hasks, findPaths, hcompile,
      ItemSource.list_of_not_cancelled hcancelled, hwork]
    rfl
  | sourceFails hasks hcompile hcancelled hresult =>
    rw [runCommand_of_asksFor hasks, findPaths, hcompile,
      ItemSource.list_of_not_cancelled hcancelled, hresult]
  | lists hasks hcompile hcancelled hresult hchosen =>
    have hwhole := hstandard.found_wholePath_iff hasks.close_not_mem hcompile
    rw [runCommand_of_asksFor hasks, findPaths, hcompile,
      ItemSource.list_of_not_cancelled hcancelled, hresult, ← (chosen_iff hwhole).1 hchosen]
    rfl

theorem outcome_of_asksFor (hstandard : PatternLibrary.Standard describes) {pattern : String}
    (h : AsksFor text pattern) :
    CommandOutcome describes source p text (findPaths source p pattern).1
      (findPaths source p pattern).2 := by
  rw [findPaths]
  cases hcompile : compile (wholePath pattern) with
  | error fault => exact .invalidPattern h hcompile
  | ok found =>
    cases hcancelled : p.cancelled with
    | true =>
      rw [ItemSource.list, Progress.attempt_of_cancelled hcancelled]
      exact .cancelledBefore h hcompile hcancelled
    | false =>
      rw [ItemSource.list_of_not_cancelled hcancelled]
      cases hresult : (source.enumerate p.log).result? with
      | none =>
        refine .givenUp h hcompile hcancelled ?_
        cases hwork : source.enumerate p.log with
        | cancelsAndHangs => rfl
        | finishes answer => simp [hwork, Work.result?] at hresult
        | cancelsAndFinishes answer => simp [hwork, Work.result?] at hresult
      | some answer =>
        cases answer with
        | error e => exact .sourceFails h hcompile hcancelled hresult
        | ok items =>
          have hwhole := hstandard.found_wholePath_iff h.close_not_mem hcompile
          exact .lists h hcompile hcancelled hresult ((chosen_iff hwhole).2 rfl)

theorem outcome_runCommand (hstandard : PatternLibrary.Standard describes) (source : ItemSource)
    (p : Progress Event) (text : String) :
    CommandOutcome describes source p text (runCommand source p text).1
      (runCommand source p text).2 := by
  cases hfind : Call.find? text with
  | none =>
    rw [runCommand, hfind]
    exact .malformed hfind
  | some c =>
    by_cases hfunction : c.function = "regex"
    · cases harguments : c.arguments with
      | nil =>
        have hmissing :
            CommandOutcome describes source p text (.error (.missingArgument .regex 0)) p :=
          .missingArgument hfind hfunction harguments
        rw [runCommand_of_outcome hstandard hmissing]
        exact hmissing
      | cons argument rest =>
        have hasks : AsksFor text (unquoted argument) :=
          (asksFor_iff_of_find? hfind).2 ⟨hfunction, argument, rest, harguments, rfl⟩
        rw [runCommand_of_asksFor hasks]
        exact outcome_of_asksFor hstandard hasks
    · have hunknown :
          CommandOutcome describes source p text (.error (.unknownFunction c.function)) p :=
        .unknownFunction hfind hfunction
      rw [runCommand_of_outcome hstandard hunknown]
      exact hunknown

theorem runCommand_eq_iff (hstandard : PatternLibrary.Standard describes) :
    runCommand source p text = (result, q) ↔
      CommandOutcome describes source p text result q := by
  refine ⟨fun h => ?_, runCommand_of_outcome hstandard⟩
  have houtcome := outcome_runCommand hstandard source p text
  rwa [h] at houtcome

end Outcome

/-- The command gets as far as its pattern, under a token that is not cancelled. -/
def Enumerates (p : Progress Event) (text : String) : Prop :=
  p.cancelled = false ∧
    ∃ pattern found, AsksFor text pattern ∧ compile (wholePath pattern) = .ok found

theorem AsksFor.unique {text pattern pattern' : String} (h : AsksFor text pattern)
    (h' : AsksFor text pattern') : pattern = pattern' := by
  obtain ⟨c, argument, rest, hfind, _, harguments, hquotes⟩ := h
  obtain ⟨_, argument', rest', harguments', hquotes'⟩ := (asksFor_iff_of_find? hfind).1 h'
  obtain ⟨rfl, _⟩ := List.cons.inj (harguments.symm.trans harguments')
  exact (unquoted_eq_iff.2 hquotes).symm.trans hquotes'

/-- A command ends as `CommandOutcome` says, and in no other way. It asks the source for its items
once if it gets as far as that, and otherwise leaves token and log as they are. -/
theorem command_outcome_is_exact {describes : Description}
    (hstandard : PatternLibrary.Standard describes) (source : ItemSource) (p : Progress Event)
    (text : String) :
    (∀ result q, runCommand source p text = (result, q) ↔
      CommandOutcome describes source p text result q) ∧
    (Enumerates p text ∧ (runCommand source p text).2 = source.afterListing p ∨
      ¬ Enumerates p text ∧ (runCommand source p text).2 = p) := by
  refine ⟨fun _ _ => runCommand_eq_iff hstandard, ?_⟩
  have houtcome := outcome_runCommand hstandard source p text
  generalize runCommand source p text = ended at houtcome ⊢
  obtain ⟨result, q⟩ := ended
  cases houtcome with
  | malformed hfind =>
    refine .inr ⟨?_, rfl⟩
    rintro ⟨_, pattern, found, ⟨c, _, _, hfind', _⟩, _⟩
    cases hfind.symm.trans hfind'
  | unknownFunction hfind hfunction =>
    refine .inr ⟨?_, rfl⟩
    rintro ⟨_, pattern, found, hasks, _⟩
    exact hfunction ((asksFor_iff_of_find? hfind).1 hasks).1
  | missingArgument hfind _ hnone =>
    refine .inr ⟨?_, rfl⟩
    rintro ⟨_, pattern, found, hasks, _⟩
    obtain ⟨_, argument, rest, hsome, _⟩ := (asksFor_iff_of_find? hfind).1 hasks
    cases hnone.symm.trans hsome
  | invalidPattern hasks hcompile =>
    refine .inr ⟨?_, rfl⟩
    rintro ⟨_, pattern, found, hasks', hcompile'⟩
    obtain rfl := hasks.unique hasks'
    cases hcompile.symm.trans hcompile'
  | cancelledBefore _ _ hcancelled =>
    refine .inr ⟨?_, rfl⟩
    rintro ⟨hnot, _⟩
    cases hcancelled.symm.trans hnot
  | givenUp hasks hcompile hnot => exact .inl ⟨⟨hnot, _, _, hasks, hcompile⟩, rfl⟩
  | sourceFails hasks hcompile hnot => exact .inl ⟨⟨hnot, _, _, hasks, hcompile⟩, rfl⟩
  | lists hasks hcompile hnot => exact .inl ⟨⟨hnot, _, _, hasks, hcompile⟩, rfl⟩

end Commands

/-! ## The reader of patterns -/

namespace Pattern

/-- What the pattern that is read from a text describes. -/
def describes : Description := fun text before cs after =>
  ∃ p, read text = .ok p ∧ Matches p before cs after

theorem describes_iff {text : String} {p : Pattern} (h : read text = .ok p)
    {before after : Option Char} {cs : List Char} :
    describes text before cs after ↔ Matches p before cs after := by
  rw [describes, h]
  simp

theorem read_start : read "^" = .ok (.look .textStart) := rfl

theorem read_end : read "$" = .ok (.look .textEnd) := rfl

/-- The reader of patterns is a library that follows the usual rules. -/
theorem standard_describes : PatternLibrary.Standard describes where
  found_iff hcompile text := by
    obtain ⟨p, hread, rfl⟩ := PatternLibrary.compile_eq_ok_iff.1 hcompile
    simp only [describes_iff hread]
    exact Pattern.found_iff (ordered_of_read hread)
  start_iff := by
    intro before after text
    rw [describes_iff read_start, matches_look_iff, and_comm]
    exact and_congr_left fun _ => Option.isNone_iff_eq_none
  end_iff := by
    intro before after text
    rw [describes_iff read_end, matches_look_iff, and_comm]
    exact and_congr_left fun _ => Option.isNone_iff_eq_none
  group_iff := by
    intro pattern found before after text hpattern hcompile
    obtain ⟨whole, hwhole, _⟩ := PatternLibrary.compile_eq_ok_iff.1 hcompile
    obtain ⟨p, hp, rfl⟩ := read_of_wholePath hpattern hwhole
    simp only [describes_iff hwhole, describes_iff hp, describes_iff read_start,
      describes_iff read_end, lastOr_append]
    constructor
    · intro h
      obtain ⟨u, rest, rfl, hu, h⟩ := matches_seq_iff.1 h
      obtain ⟨v, w, rfl, hv, hw⟩ := matches_seq_iff.1 h
      exact ⟨u, v, w, (List.append_assoc u v w).symm, hu, hv, hw⟩
    · rintro ⟨u, v, w, rfl, hu, hv, hw⟩
      rw [List.append_assoc]
      exact .seq hu (.seq hv hw)

end Pattern

/-- An alternative at the top of a pattern describes a whole path, not a part of one. -/
theorem command_outcome_is_exact_alternatives :
    PatternLibrary.Standard Pattern.describes ∧
      runCommand (.ofList ["a.kt", "b", "xb"]) {} "regex(\"a.*|b\")" =
        (.ok "a.kt, b", ⟨false, [.enumerated]⟩) ∧
      CommandOutcome Pattern.describes (.ofList ["a.kt", "b", "xb"]) {} "regex(\"a.*|b\")"
        (.ok "a.kt, b") ⟨false, [.enumerated]⟩ := by
  have hrun : runCommand (.ofList ["a.kt", "b", "xb"]) {} "regex(\"a.*|b\")" =
      (.ok "a.kt, b", ⟨false, [.enumerated]⟩) := by
    decide
  exact ⟨Pattern.standard_describes, hrun,
    ((command_outcome_is_exact Pattern.standard_describes _ _ _).1 _ _).1 hrun⟩

end PromptScript
