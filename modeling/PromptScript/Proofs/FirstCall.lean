import Mathlib.Data.List.Forall2
import PromptScript.Command.Call

/-!
# Proofs.FirstCall

The first call of a text. A call opens with a run of word characters that a parenthesis follows. The
search takes the first opening, whether it is closed or not, and what it finds ends at the first
closing parenthesis after it (`finds_first_call`). A call that is printed with blanks around its
arguments is found again as it was (`find?_of_printedAt`). Of the word characters it is only used
that an opening parenthesis is none.
-/

namespace PromptScript

open PatternLibrary (isWord isWord_open)

/-- At least one character, and all of them word characters. -/
structure IsWord [PatternLibrary] (word : List Char) : Prop where
  nonempty : word ≠ []
  chars : ∀ c ∈ word, isWord c = true

/-- The first character that is not of the kind ends the run. -/
theorem takeWhile_append_cons {kind : Char → Bool} {run rest : List Char} {c : Char}
    (hrun : ∀ x ∈ run, kind x = true) (hc : kind c = false) :
    (run ++ c :: rest).takeWhile kind = run := by
  rw [List.takeWhile_append_of_pos hrun, List.takeWhile_cons_of_neg (by simp [hc]), List.append_nil]

theorem append_cons_inj_of_wordChars [PatternLibrary] {word word' rest rest' : List Char}
    {c c' : Char}
    (hword : ∀ x ∈ word, isWord x = true) (hword' : ∀ x ∈ word', isWord x = true)
    (hc : isWord c = false) (hc' : isWord c' = false)
    (h : word ++ c :: rest = word' ++ c' :: rest') : word = word' ∧ c = c' ∧ rest = rest' := by
  have heq : word = word' := by
    have htake := congrArg (List.takeWhile isWord) h
    rwa [takeWhile_append_cons hword hc, takeWhile_append_cons hword' hc'] at htake
  subst heq
  exact ⟨rfl, List.cons.inj (List.append_cancel_left h)⟩

namespace Call

/-! ## Arguments -/

/-- Each piece is an argument with blanks around it. -/
def PiecesOf (pieces : List (List Char)) (args : List String) : Prop :=
  List.Forall₂ (fun piece arg => Padded piece (String.toList arg)) pieces args

/-- The arguments in a text between two parentheses. Blanks alone hold none; any other text is split
at every comma, and each piece trimmed. -/
inductive IsArguments (raw : List Char) : List String → Prop where
  | none : Blanks raw → IsArguments raw []
  | some {pieces : List (List Char)} {args : List String} :
      ¬ Blanks raw → raw = joinFields [','] pieces → pieces ≠ [] →
      (∀ piece ∈ pieces, ',' ∉ piece) → PiecesOf pieces args →
      (∀ arg ∈ args, Trimmed arg.toList) → IsArguments raw args

/-- The arguments joined by commas, with any blanks around each. -/
inductive Prints : List String → List Char → Prop where
  | none {raw : List Char} : Blanks raw → Prints [] raw
  | some {args : List String} {pieces : List (List Char)} :
      args ≠ [] → PiecesOf pieces args → Prints args (joinFields [','] pieces)

/-- An argument that can be read back: it ends neither itself nor the call, and has no blanks around
it. -/
structure IsArgument (arg : List Char) : Prop where
  trimmed : Trimmed arg
  comma : ',' ∉ arg
  close : ')' ∉ arg

theorem argumentsOf_of_blanks {raw : List Char} (h : Blanks raw) : argumentsOf raw = [] :=
  if_pos (trim_eq_nil_iff.2 h)

theorem argumentsOf_of_not_blanks {raw : List Char} (h : ¬ Blanks raw) :
    argumentsOf raw = (fields ',' raw).map fun a => String.ofList (trim a) :=
  if_neg (mt trim_eq_nil_iff.1 h)

theorem PiecesOf.map_trim {pieces : List (List Char)} {args : List String}
    (h : PiecesOf pieces args) (hargs : ∀ arg ∈ args, Trimmed arg.toList) :
    pieces.map (fun piece => String.ofList (trim piece)) = args := by
  induction h with
  | nil => rfl
  | cons hpiece _ ih =>
    obtain ⟨harg, hargs⟩ := List.forall_mem_cons.1 hargs
    rw [List.map_cons, ih hargs, trim_of_padded hpiece harg, String.ofList_toList]

theorem argumentsOf_eq_iff {raw : List Char} {args : List String} :
    argumentsOf raw = args ↔ IsArguments raw args := by
  constructor
  · rintro rfl
    by_cases hblank : Blanks raw
    · rw [argumentsOf_of_blanks hblank]
      exact .none hblank
    · rw [argumentsOf_of_not_blanks hblank]
      refine .some hblank (joinFields_fields ',' raw).symm (fields_ne_nil ',' raw)
        (fun _ => notMem_of_mem_fields) (List.forall₂_map_right_iff.2 (List.forall₂_same.2 ?_)) ?_
      · intro piece _
        rw [String.toList_ofList]
        exact padded_trim piece
      · intro arg harg
        obtain ⟨piece, _, rfl⟩ := List.mem_map.1 harg
        rw [String.toList_ofList]
        exact trimmed_trim piece
  · rintro (hblank | ⟨hblank, hwhole, hne, hcommas, hpieces, htrimmed⟩)
    · exact argumentsOf_of_blanks hblank
    · rw [argumentsOf_of_not_blanks hblank, hwhole, fields_joinFields hne hcommas,
        hpieces.map_trim htrimmed]

theorem not_mem_of_padded {piece inner : List Char} (h : Padded piece inner) {c : Char}
    (hc : isBlank c = false) (hinner : c ∉ inner) : c ∉ piece := by
  have hnot : ∀ {blanks}, Blanks blanks → c ∉ blanks := fun hblanks hmem =>
    Bool.false_ne_true (hc.symm.trans (hblanks c hmem))
  obtain ⟨left, right, rfl, hleft, hright⟩ := h
  simp only [List.mem_append, not_or]
  exact ⟨⟨hnot hleft, hinner⟩, hnot hright⟩

theorem PiecesOf.not_mem {pieces : List (List Char)} {args : List String} (h : PiecesOf pieces args)
    {c : Char} (hc : isBlank c = false) (hargs : ∀ arg ∈ args, c ∉ arg.toList) :
    ∀ piece ∈ pieces, c ∉ piece := by
  induction h with
  | nil => exact fun _ hpiece => absurd hpiece List.not_mem_nil
  | cons hpiece _ ih =>
    obtain ⟨harg, hargs⟩ := List.forall_mem_cons.1 hargs
    exact List.forall_mem_cons.2 ⟨not_mem_of_padded hpiece hc harg, ih hargs⟩

/-- A printed call is not closed among its arguments. -/
theorem Prints.close_not_mem {args : List String} {raw : List Char} (h : Prints args raw)
    (hargs : ∀ arg ∈ args, IsArgument arg.toList) : ')' ∉ raw := by
  cases h with
  | none hblank => exact fun hmem => absurd (hblank ')' hmem) (by decide)
  | some _ hpieces =>
    intro hmem
    rcases mem_joinFields hmem with hmem | ⟨piece, hpiece, hmem⟩
    · exact absurd hmem (by decide)
    · exact hpieces.not_mem (by decide) (fun arg harg => (hargs arg harg).close) piece hpiece hmem

/-- One empty argument is all that can be lost among the blanks. -/
theorem PiecesOf.not_blanks {pieces : List (List Char)} {args : List String}
    (h : PiecesOf pieces args) (htrimmed : ∀ arg ∈ args, Trimmed arg.toList) (hne : args ≠ [])
    (hempty : args ≠ [""]) : ¬ Blanks (joinFields [','] pieces) := by
  intro hblank
  rcases h with _ | ⟨hpiece, _ | ⟨_, _⟩⟩
  · exact hne rfl
  · rename_i piece arg
    have harg : arg.toList = [] := by
      rw [← trim_of_padded hpiece (htrimmed arg List.mem_cons_self)]
      exact trim_eq_nil_iff.2 hblank
    exact hempty (by rw [String.toList_eq_nil_iff.1 harg])
  · exact absurd (hblank ',' (by simp [joinFields])) (by decide)

/-- Arguments are read back as they were printed. -/
theorem argumentsOf_of_prints {args : List String} {raw : List Char} (h : Prints args raw)
    (hargs : ∀ arg ∈ args, IsArgument arg.toList) (hempty : args ≠ [""]) :
    argumentsOf raw = args := by
  cases h with
  | none hblank => exact argumentsOf_of_blanks hblank
  | @some args pieces hne hpieces =>
    have htrimmed := fun arg harg => (hargs arg harg).trimmed
    have hcommas := hpieces.not_mem (by decide) fun arg harg => (hargs arg harg).comma
    refine argumentsOf_eq_iff.2 (.some (hpieces.not_blanks htrimmed hne hempty) rfl ?_ hcommas
      hpieces htrimmed)
    rintro rfl
    cases hpieces
    exact hne rfl

/-! ## The closing parenthesis -/

theorem untilClose?_eq_some_iff {cs raw : List Char} :
    untilClose? cs = some raw ↔ ∃ after, cs = raw ++ ')' :: after ∧ ')' ∉ raw := by
  constructor
  · intro h
    have hcs := List.takeWhile_append_dropWhile (p := fun c => decide (c ≠ ')')) (l := cs)
    have hclose := List.head?_dropWhile_not (fun c => decide (c ≠ ')')) cs
    rw [untilClose?] at h
    split at h
    · cases h
    · rename_i c after hdrop
      cases h
      rw [hdrop] at hcs hclose
      obtain rfl : c = ')' := by simpa using hclose
      refine ⟨after, hcs.symm, fun hmem => ?_⟩
      simpa using List.all_eq_true.1 List.all_takeWhile _ hmem
  · rintro ⟨after, rfl, hraw⟩
    have hne : ∀ c ∈ raw, decide (c ≠ ')') = true := by
      intro c hc
      exact decide_eq_true fun heq => hraw (by rwa [heq] at hc)
    rw [untilClose?, List.dropWhile_append_of_pos hne, List.dropWhile_cons_of_neg (by simp),
      takeWhile_append_cons hne (by simp)]

theorem exists_untilClose?_iff {cs : List Char} :
    (∃ raw, untilClose? cs = some raw) ↔ ')' ∈ cs := by
  constructor
  · rintro ⟨raw, hraw⟩
    obtain ⟨after, rfl, _⟩ := untilClose?_eq_some_iff.1 hraw
    simp
  · intro hmem
    obtain ⟨raw, after, heq, hraw⟩ := List.eq_append_cons_of_mem hmem
    exact ⟨raw, untilClose?_eq_some_iff.2 ⟨after, heq, hraw⟩⟩

/-! ## The first opening -/

section Openings

variable [PatternLibrary]

/-- A run of word characters, as long as it can be, with an opening parenthesis after it. -/
structure Opens (text before word rest : List Char) : Prop where
  whole : text = before ++ word ++ '(' :: rest
  isWord : IsWord word
  starts : ∀ c ∈ before.getLast?, PatternLibrary.isWord c = false

/-- No other opening of the text is in front of this one. -/
structure FirstOpening (text before word rest : List Char) : Prop
    extends Opens text before word rest where
  first : ∀ before' word' rest', Opens text before' word' rest' →
    (before ++ word).length ≤ (before' ++ word').length

theorem eq_nil_of_starts {before more : List Char}
    (hstarts : ∀ c ∈ (before ++ more).getLast?, isWord c = false)
    (hmore : ∀ c ∈ more, isWord c = true) : more = [] := by
  rcases List.eq_nil_or_concat more with rfl | ⟨more, c, rfl⟩
  · rfl
  · have hword := hmore c (by simp)
    rw [hstarts c (by simp)] at hword
    cases hword

/-- There are no two openings at one parenthesis. -/
theorem Opens.unique {text before before' word word' rest rest' : List Char}
    (h : Opens text before word rest) (h' : Opens text before' word' rest')
    (hlength : (before ++ word).length = (before' ++ word').length) :
    before = before' ∧ word = word' ∧ rest = rest' := by
  obtain ⟨hfront, hrest⟩ := List.append_inj (h.whole.symm.trans h'.whole) hlength
  -- what one word takes more than the other is at the end of the text before the other
  rcases List.append_eq_append_iff.1 hfront with ⟨more, rfl, hword⟩ | ⟨more, rfl, hword⟩
  · have hnil := eq_nil_of_starts h'.starts fun c hc => h.isWord.chars c (by simp [hword, hc])
    subst hnil
    exact ⟨(List.append_nil _).symm, hword, (List.cons.inj hrest).2⟩
  · have hnil := eq_nil_of_starts h.starts fun c hc => h'.isWord.chars c (by simp [hword, hc])
    subst hnil
    exact ⟨List.append_nil _, hword.symm, (List.cons.inj hrest).2⟩

theorem FirstOpening.unique {text before before' word word' rest rest' : List Char}
    (h : FirstOpening text before word rest) (h' : FirstOpening text before' word' rest') :
    before = before' ∧ word = word' ∧ rest = rest' :=
  h.toOpens.unique h'.toOpens
    (Nat.le_antisymm (h.first _ _ _ h'.toOpens) (h'.first _ _ _ h.toOpens))

/-! ## The search -/

section Search

variable {word rest : List Char} {c : Char}

theorem starts_skip_iff (hc : isWord c = false) {before : List Char} :
    (∀ x ∈ (word ++ c :: before).getLast?, isWord x = false) ↔
      ∀ x ∈ before.getLast?, isWord x = false := by
  rw [List.getLast?_append, List.getLast?_cons]
  cases before.getLast? <;> simp [hc]

/-- A run of word characters that no parenthesis follows is part of the text before any opening. -/
theorem opens_skip_iff (hword : ∀ x ∈ word, isWord x = true) (hc : isWord c = false)
    (hopen : ¬ (c = '(' ∧ word ≠ [])) {before w r : List Char} :
    Opens (word ++ c :: rest) before w r ↔
      ∃ before', before = word ++ c :: before' ∧ Opens rest before' w r := by
  constructor
  · rintro ⟨hwhole, hw, hstarts⟩
    rw [List.append_assoc] at hwhole
    rcases List.append_eq_append_iff.1 hwhole with ⟨more, rfl, hmore⟩ | ⟨more, hsplit, hmore⟩
    · cases more with
      | nil =>
        obtain ⟨d, w, rfl⟩ := List.exists_cons_of_ne_nil hw.nonempty
        have hd := hw.chars d List.mem_cons_self
        obtain ⟨rfl, _⟩ := List.cons.inj hmore
        rw [hc] at hd
        cases hd
      | cons d before' =>
        obtain ⟨rfl, hrest⟩ := List.cons.inj hmore
        refine ⟨before', rfl, hrest.trans (List.append_assoc before' w _).symm, hw, ?_⟩
        exact (starts_skip_iff hc).1 hstarts
    · -- the opening begins inside the run, and ends with it
      have hmoreWord : ∀ x ∈ more, isWord x = true := fun x hx => hword x (by simp [hsplit, hx])
      obtain ⟨rfl, hparen, _⟩ :=
        append_cons_inj_of_wordChars hw.chars hmoreWord isWord_open hc hmore
      exact absurd ⟨hparen.symm, by simp [hsplit, hw.nonempty]⟩ hopen
  · rintro ⟨before', rfl, hwhole, hw, hstarts⟩
    exact ⟨by simp [hwhole], hw, (starts_skip_iff hc).2 hstarts⟩

theorem firstOpening_skip (hword : ∀ x ∈ word, isWord x = true) (hc : isWord c = false)
    (hopen : ¬ (c = '(' ∧ word ≠ [])) {before w r : List Char} (h : FirstOpening rest before w r) :
    FirstOpening (word ++ c :: rest) (word ++ c :: before) w r := by
  refine ⟨(opens_skip_iff hword hc hopen).2 ⟨before, rfl, h.toOpens⟩, ?_⟩
  intro before' w' r' hopens
  obtain ⟨before', rfl, hrest⟩ := (opens_skip_iff hword hc hopen).1 hopens
  have hle := h.first _ _ _ hrest
  simp only [List.length_append, List.length_cons] at hle ⊢
  omega

theorem open_not_mem (hword : ∀ x ∈ word, isWord x = true) : '(' ∉ word := fun hmem =>
  Bool.false_ne_true (isWord_open.symm.trans (hword '(' hmem))

theorem firstOpening_here (hword : IsWord word) :
    FirstOpening (word ++ '(' :: rest) [] word rest := by
  refine ⟨⟨rfl, hword, nofun⟩, ?_⟩
  intro before w r h
  rw [List.nil_append]
  rcases List.append_eq_append_iff.1 h.whole with ⟨more, hmore, _⟩ | ⟨more, rfl, hmore⟩
  · simp [hmore]
  · -- a parenthesis in front of this one would be in the word
    cases more with
    | nil => simp
    | cons x more =>
      obtain ⟨rfl, _⟩ := List.cons.inj hmore
      exact absurd (by simp) (open_not_mem hword.chars)

end Search

/-- The search behind a run of word characters: it finds the first opening, and the call that begins
there if it is closed; or there is no opening. -/
theorem findAfter?_cases (word cs : List Char)
    (hword : ∀ x ∈ word, isWord x = true) :
    (∃ before w rest, FirstOpening (word ++ cs) before w rest ∧ findAfter? word cs =
      (untilClose? rest).map fun raw => ⟨String.ofList w, argumentsOf raw⟩) ∨
    (∀ before w rest, ¬ Opens (word ++ cs) before w rest) ∧ findAfter? word cs = none := by
  induction cs generalizing word with
  | nil =>
    refine .inr ⟨fun before w rest h => open_not_mem hword ?_, rfl⟩
    rw [← List.append_nil word, h.whole]
    simp
  | cons c rest ih =>
    rw [findAfter?]
    by_cases hc : isWord c = true
    · rw [if_pos hc, List.append_cons]
      refine ih _ fun x hx => ?_
      rcases List.mem_append.1 hx with hx | hx
      · exact hword x hx
      · rwa [List.mem_singleton.1 hx]
    · rw [if_neg hc]
      by_cases hopen : c = '(' ∧ word ≠ []
      · rw [if_pos hopen, hopen.1]
        exact .inl ⟨[], word, rest, firstOpening_here ⟨hopen.2, hword⟩, rfl⟩
      · rw [if_neg hopen]
        have hc := Bool.eq_false_iff.2 hc
        rcases ih [] nofun with ⟨before, w, r, hfirst, hfound⟩ | ⟨hnone, hfound⟩
        · exact .inl ⟨_, w, r, firstOpening_skip hword hc hopen hfirst, hfound⟩
        · refine .inr ⟨fun before w r h => ?_, hfound⟩
          obtain ⟨before', _, h⟩ := (opens_skip_iff hword hc hopen).1 h
          exact hnone before' w r h

theorem find?_cases (text : String) :
    (∃ before word rest, FirstOpening text.toList before word rest ∧ find? text =
      (untilClose? rest).map fun raw => ⟨String.ofList word, argumentsOf raw⟩) ∨
    (∀ before word rest, ¬ Opens text.toList before word rest) ∧ find? text = none :=
  findAfter?_cases [] text.toList nofun

theorem find?_of_firstOpening {text : String} {before word rest : List Char}
    (h : FirstOpening text.toList before word rest) :
    find? text = (untilClose? rest).map fun raw => ⟨String.ofList word, argumentsOf raw⟩ := by
  rcases find?_cases text with ⟨before', word', rest', hfirst, hfound⟩ | ⟨hnone, _⟩
  · obtain ⟨rfl, rfl, rfl⟩ := h.unique hfirst
    exact hfound
  · exact absurd h.toOpens (hnone before word rest)

theorem find?_eq_some_iff {text : String} {call : Call} :
    find? text = some call ↔ ∃ before word raw after,
      FirstOpening text.toList before word (raw ++ ')' :: after) ∧ ')' ∉ raw ∧
        call.function = String.ofList word ∧ IsArguments raw call.arguments := by
  constructor
  · intro h
    rcases find?_cases text with ⟨before, word, rest, hfirst, hfound⟩ | ⟨_, hfound⟩
    · rw [h] at hfound
      obtain ⟨raw, hclose, rfl⟩ := Option.map_eq_some_iff.1 hfound.symm
      obtain ⟨after, rfl, hraw⟩ := untilClose?_eq_some_iff.1 hclose
      exact ⟨before, word, raw, after, hfirst, hraw, rfl, argumentsOf_eq_iff.1 rfl⟩
    · rw [h] at hfound
      cases hfound
  · rintro ⟨before, word, raw, after, hfirst, hraw, hword, hargs⟩
    rw [find?_of_firstOpening hfirst, untilClose?_eq_some_iff.2 ⟨after, rfl, hraw⟩,
      Option.map_some, argumentsOf_eq_iff.2 hargs, ← hword]

theorem exists_find?_iff {text : String} :
    (∃ call, find? text = some call) ↔
      ∃ before word rest, FirstOpening text.toList before word rest ∧ ')' ∈ rest := by
  constructor
  · rintro ⟨call, h⟩
    obtain ⟨before, word, raw, after, hfirst, _⟩ := find?_eq_some_iff.1 h
    exact ⟨before, word, _, hfirst, by simp⟩
  · rintro ⟨before, word, rest, hfirst, hclose⟩
    obtain ⟨raw, hraw⟩ := exists_untilClose?_iff.2 hclose
    exact ⟨_, by rw [find?_of_firstOpening hfirst, hraw, Option.map_some]⟩

/-- A word and a parenthesis at the very start of a text are its first opening. -/
theorem find?_of_leading {word raw after : List Char} (hword : IsWord word) (hraw : ')' ∉ raw) :
    find? (String.ofList (word ++ '(' :: (raw ++ ')' :: after))) =
      some ⟨String.ofList word, argumentsOf raw⟩ := by
  have hfirst : FirstOpening (String.ofList (word ++ '(' :: (raw ++ ')' :: after))).toList []
      word (raw ++ ')' :: after) := by
    rw [String.toList_ofList]
    exact firstOpening_here hword
  rw [find?_of_firstOpening hfirst, untilClose?_eq_some_iff.2 ⟨after, rfl, hraw⟩, Option.map_some]

/-- A call at the start of a text, with these arguments in print. -/
structure PrintedAt (call : Call) (text : List Char) : Prop where
  form : ∃ word raw after, text = word ++ '(' :: (raw ++ ')' :: after) ∧
    call.function = String.ofList word ∧ IsWord word ∧ Prints call.arguments raw
  arguments : ∀ arg ∈ call.arguments, IsArgument arg.toList
  nonempty : call.arguments ≠ [""]

theorem find?_of_printedAt {text : String} {call : Call} (h : call.PrintedAt text.toList) :
    find? text = some call := by
  obtain ⟨⟨word, raw, after, htext, hfunction, hword, hprints⟩, hargs, hne⟩ := h
  rw [← String.ofList_toList (s := text), htext,
    find?_of_leading hword (hprints.close_not_mem hargs),
    argumentsOf_of_prints hprints hargs hne, ← hfunction]

/-- A text has a call if its first opening is closed. The call is named by the word that opens there
and holds the arguments in the text up to the first closing parenthesis. So a call that is printed
at the start of a text is read back. -/
theorem finds_first_call (text : String) :
    ((∃ call, find? text = some call) ↔
      ∃ before word rest, FirstOpening text.toList before word rest ∧ ')' ∈ rest) ∧
    (∀ call : Call, find? text = some call ↔ ∃ before word raw after,
      FirstOpening text.toList before word (raw ++ ')' :: after) ∧ ')' ∉ raw ∧
        call.function = String.ofList word ∧ IsArguments raw call.arguments) ∧
    ∀ call : Call, call.PrintedAt text.toList → find? text = some call :=
  ⟨exists_find?_iff, fun _ => find?_eq_some_iff, fun _ => find?_of_printedAt⟩

end Openings

theorem finds_first_call_spaced :
    find? "f( a.kt ,, \"b\" ) g(x)" = some ⟨"f", ["a.kt", "", "\"b\""]⟩ := by
  have hpieces : PiecesOf [" a.kt ".toList, [], " \"b\" ".toList] ["a.kt", "", "\"b\""] := by
    refine .cons ⟨[' '], [' '], ?_⟩ (.cons ⟨[], [], ?_⟩ (.cons ⟨[' '], [' '], ?_⟩ .nil)) <;>
      decide +kernel
  have hword : IsWord ['f'] := ⟨by decide, List.forall_mem_singleton.2 (by decide)⟩
  have hargs : ∀ arg ∈ ["a.kt", "", "\"b\""], IsArgument arg.toList := by
    simp only [List.forall_mem_cons]
    refine ⟨?_, ?_, ?_, nofun⟩ <;> constructor <;> decide +kernel
  exact (finds_first_call _).2.2 _ ⟨⟨['f'], _, " g(x)".toList, by decide +kernel, by decide +kernel,
    hword, .some (by decide) hpieces⟩, hargs, by decide⟩

example : find? "list g(a, (b) h(c)" = some ⟨"g", ["a", "(b"]⟩ ∧ find? "(x) f(a g(b" = none := by
  decide +kernel

end Call

end PromptScript
