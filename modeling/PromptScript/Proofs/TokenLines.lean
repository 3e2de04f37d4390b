import PromptScript.Proofs.Grammar
import PromptScript.Proofs.TextLines

/-!
# Proofs.TokenLines

The lines that the tokens of a text are on. A text falls into tokens and blanks, and each token has
a place: what stands in front of it, and what of that belongs to other tokens. A newline between
tokens begins a new line. A newline that a token holds does not: a text in quotes may hold one,
after a backslash. So the line of a token is short by the newlines inside the tokens before it
(`Token.line_of_place`).

* `Spells`: the characters that spell a token.
* `Places`: the tokens of a text with their places.
* `Completes`: what is left of a text completes the token that has begun.
-/

namespace PromptScript

namespace Token

/-! ## Spelling -/

/-- Characters between quotes, and the text that they stand for. After a backslash every character
is let through, a newline too. -/
inductive InQuotes : List Char → List Char → Prop where
  | nil : InQuotes [] []
  | plain {c : Char} {cs value : List Char} :
      c ≠ '"' → c ≠ '\\' → c ≠ '\n' → InQuotes cs value → InQuotes (c :: cs) (c :: value)
  | escaped (c : Char) {cs value : List Char} :
      InQuotes cs value → InQuotes ('\\' :: c :: cs) (unescaped c ++ value)

/-- Characters between slashes, and the pattern that they stand for. Only a slash is escaped; a
backslash before any other character stays. -/
inductive InSlashes : List Char → List Char → Prop where
  | nil : InSlashes [] []
  | plain {c : Char} {cs value : List Char} :
      c ≠ '/' → c ≠ '\\' → c ≠ '\n' → InSlashes cs value → InSlashes (c :: cs) (c :: value)
  | escaped {cs value : List Char} :
      InSlashes cs value → InSlashes ('\\' :: '/' :: cs) ('/' :: value)
  | backslash {c : Char} {cs value : List Char} :
      c ≠ '/' → InSlashes (c :: cs) value → InSlashes ('\\' :: c :: cs) ('\\' :: value)

/-- The characters that a token is written with. -/
inductive Spells : List Char → Token → Prop where
  | word {c : Char} {cs : List Char} :
      startsWord c = true → (∀ x ∈ cs, continuesWord x = true) →
        Spells (c :: cs) (.word (String.ofList (c :: cs)))
  | text {cs value : List Char} :
      InQuotes cs value → Spells ('"' :: cs ++ ['"']) (.text (String.ofList value))
  | pattern {cs value : List Char} :
      InSlashes cs value → Spells ('/' :: cs ++ ['/']) (.pattern (String.ofList value))
  | openBrace : Spells ['\x7b'] .openBrace
  | closeBrace : Spells ['\x7d'] .closeBrace
  | openParen : Spells ['('] .openParen
  | closeParen : Spells [')'] .closeParen
  | comma : Spells [','] .comma
  | bar : Spells ['|'] .bar

theorem newline_not_mem_of_inSlashes {cs value : List Char} (h : InSlashes cs value) :
    '\n' ∉ cs := by
  induction h with
  | nil => exact List.not_mem_nil
  | plain _ _ hbreak _ ih => simp [Ne.symm hbreak, ih]
  | escaped _ ih => simp [ih]
  | backslash _ _ ih => simpa using ih

/-- Only a text in quotes may hold a newline. -/
theorem text_of_newline_mem {cs : List Char} {t : Token} (h : Spells cs t) (hbreak : '\n' ∈ cs) :
    ∃ value, t = .text value := by
  cases h with
  | text => exact ⟨_, rfl⟩
  | word hstart hrest =>
    rcases List.mem_cons.1 hbreak with rfl | hmem
    · exact absurd hstart (by decide)
    · exact absurd (hrest _ hmem) (by decide)
  | pattern hinside =>
    have hnone := newline_not_mem_of_inSlashes hinside
    simp [hnone] at hbreak
  | openBrace | closeBrace | openParen | closeParen | comma | bar => simp at hbreak

/-! ## Places -/

/-- A token in its text. -/
structure Place where
  /-- The text in front of the token. -/
  before : List Char
  /-- What of it belongs to the tokens before; all else are blanks. -/
  taken : List Char
  spelling : List Char
  token : PlacedToken

/-- The tokens of the text that comes after `before`, of which `taken` belongs to tokens. -/
inductive Places : List Char → List Char → List Char → List Place → Prop where
  | done {before taken : List Char} (line : Nat) :
      Places before taken [] [⟨before, taken, [], ⟨.done, line⟩⟩]
  | blank {before taken rest : List Char} {c : Char} {places : List Place} :
      isBlank c = true → Places (before ++ [c]) taken rest places →
        Places before taken (c :: rest) places
  | token {before taken spelling rest : List Char} {p : PlacedToken} {places : List Place} :
      Spells spelling p.token → Places (before ++ spelling) (taken ++ spelling) rest places →
        Places before taken (spelling ++ rest) (⟨before, taken, spelling, p⟩ :: places)

/-- Only a text in quotes holds a newline. -/
theorem text_of_newline_mem_spelling {before taken rest : List Char} {places : List Place}
    (h : Places before taken rest places) {l : Place} (hl : l ∈ places)
    (hbreak : '\n' ∈ l.spelling) : ∃ value, l.token.token = .text value := by
  induction h with
  | done line =>
    cases List.mem_singleton.1 hl
    cases hbreak
  | blank _ _ ih => exact ih hl
  | token hspells _ ih =>
    rcases List.mem_cons.1 hl with rfl | hl
    · exact text_of_newline_mem hspells hbreak
    · exact ih hl

/-- The mark of the end has the whole text in front of it. -/
theorem Places.exists_before_eq {before taken rest : List Char} {places : List Place}
    (h : Places before taken rest places) : ∃ l ∈ places, l.before = before ++ rest := by
  induction h with
  | done line => exact ⟨_, List.mem_cons_self, by simp⟩
  | blank _ _ ih => simpa using ih
  | token _ _ ih =>
    obtain ⟨l, hl, hbefore⟩ := ih
    exact ⟨l, List.mem_cons_of_mem _ hl, by simpa using hbefore⟩

/-! ## Completing a token -/

theorem scan_cons_eq_ok_iff {mode : Mode} {line : Nat} {c : Char} {rest : List Char}
    {ts : List PlacedToken} :
    scan mode line (c :: rest) = .ok ts ↔
      ∃ made mode' others, advance mode c = .ok (made, mode') ∧
        scan mode' (lineAfter line c mode') rest = .ok others ∧
          ts = (made.map fun t => ⟨t, line⟩) ++ others := by
  rw [scan]
  constructor
  · intro h
    split at h
    · cases h
    · rename_i made mode' hadvance
      split at h
      · cases h
      · rename_i others hothers
        cases h
        exact ⟨made, mode', others, hadvance, hothers, rfl⟩
  · rintro ⟨made, mode', others, hadvance, hothers, rfl⟩
    rw [hadvance]
    dsimp only
    rw [hothers]

/-- Inside a token no newline counts. -/
theorem lineAfter_of_ne {mode : Mode} (h : mode ≠ .between) (line : Nat) (c : Char) :
    lineAfter line c mode = line := if_neg fun hand => h hand.2

/-- The text `cs` goes on with `more`, which completes the token `t` on the line that it began on,
and then with `rest`. -/
structure Completes (line : Nat) (cs : List Char) (ts : List PlacedToken) (more rest : List Char)
    (t : Token) : Prop where
  split : cs = more ++ rest
  tokens : ∃ others, scan .between line rest = .ok others ∧ ts = ⟨t, line⟩ :: others

theorem Completes.cons {line : Nat} {cs more rest : List Char} {ts : List PlacedToken} {t : Token}
    (h : Completes line cs ts more rest t) (c : Char) :
    Completes line (c :: cs) ts (c :: more) rest t where
  split := by rw [h.split, List.cons_append]
  tokens := h.tokens

section Modes

variable {read cs : List Char} {line : Nat} {ts : List PlacedToken}

theorem completes_word (h : scan (.word read) line cs = .ok ts) :
    ∃ more rest, (∀ x ∈ more, continuesWord x = true) ∧
      Completes line cs ts more rest (.word (textOf (more.reverse ++ read))) := by
  induction cs generalizing read ts with
  | nil =>
    cases h
    exact ⟨[], [], nofun, rfl, [⟨.done, line⟩], rfl, rfl⟩
  | cons c cs ih =>
    obtain ⟨made, mode, others, hadvance, hothers, rfl⟩ := scan_cons_eq_ok_iff.1 h
    rw [advance] at hadvance
    split at hadvance
    · rename_i hc
      cases hadvance
      rw [lineAfter_of_ne (by simp)] at hothers
      obtain ⟨more, rest, hmore, hrest⟩ := ih hothers
      exact ⟨c :: more, rest, List.forall_mem_cons.2 ⟨hc, hmore⟩, by simpa using hrest.cons c⟩
    · -- the word ends before the character, which is then read between tokens
      cases hstart : start c with
      | error f => rw [hstart] at hadvance; cases hadvance
      | ok r =>
        rw [hstart] at hadvance
        cases hadvance
        refine ⟨[], c :: cs, nofun, rfl, _, ?_, rfl⟩
        exact scan_cons_eq_ok_iff.2 ⟨_, _, others, hstart, hothers, rfl⟩

/-- The text completes a token in quotes of which `read` has been read. -/
def CompletesText (line : Nat) (cs : List Char) : Prop :=
  ∀ read ts, scan (.text read) line cs = .ok ts →
    ∃ inside value rest, InQuotes inside value ∧
      Completes line cs ts (inside ++ ['"']) rest (.text (textOf (value.reverse ++ read)))

/-- The same of one in which a backslash has just been read. -/
def CompletesEscape (line : Nat) (cs : List Char) : Prop :=
  ∀ read ts, scan (.escape read) line cs = .ok ts →
    ∃ inside value rest, InQuotes ('\\' :: inside) value ∧
      Completes line cs ts (inside ++ ['"']) rest (.text (textOf (value.reverse ++ read)))

theorem completesText_cons (htext : CompletesText line cs) (hescape : CompletesEscape line cs)
    (c : Char) : CompletesText line (c :: cs) := by
  intro read ts h
  obtain ⟨made, mode, others, hadvance, hothers, rfl⟩ := scan_cons_eq_ok_iff.1 h
  rw [advance] at hadvance
  split at hadvance
  · rename_i hc
    cases hadvance
    subst hc
    exact ⟨[], [], cs, .nil, rfl, others, hothers, rfl⟩
  · rename_i hquote
    split at hadvance
    · rename_i hc
      cases hadvance
      subst hc
      obtain ⟨inside, value, rest, hinside, hrest⟩ := hescape _ _ hothers
      exact ⟨'\\' :: inside, value, rest, hinside, hrest.cons '\\'⟩
    · rename_i hslash
      split at hadvance
      · cases hadvance
      · rename_i hbreak
        cases hadvance
        rw [lineAfter_of_ne (by simp)] at hothers
        obtain ⟨inside, value, rest, hinside, hrest⟩ := htext _ _ hothers
        exact ⟨c :: inside, c :: value, rest, .plain hquote hslash hbreak hinside,
          by simpa using hrest.cons c⟩

theorem completesEscape_cons (htext : CompletesText line cs) (c : Char) :
    CompletesEscape line (c :: cs) := by
  intro read ts h
  obtain ⟨made, mode, others, hadvance, hothers, rfl⟩ := scan_cons_eq_ok_iff.1 h
  cases hadvance
  rw [lineAfter_of_ne (by simp)] at hothers
  obtain ⟨inside, value, rest, hinside, hrest⟩ := htext _ _ hothers
  exact ⟨c :: inside, unescaped c ++ value, rest, .escaped c hinside, by simpa using hrest.cons c⟩

theorem completes_text_and_escape (cs : List Char) :
    CompletesText line cs ∧ CompletesEscape line cs := by
  induction cs with
  | nil => exact ⟨nofun, nofun⟩
  | cons c cs ih => exact ⟨completesText_cons ih.1 ih.2 c, completesEscape_cons ih.1 c⟩

/-- The text completes a pattern of which `read` has been read. -/
def CompletesPattern (line : Nat) (cs : List Char) : Prop :=
  ∀ read ts, scan (.pattern read) line cs = .ok ts →
    ∃ inside value rest, InSlashes inside value ∧
      Completes line cs ts (inside ++ ['/']) rest (.pattern (textOf (value.reverse ++ read)))

/-- The same of one in which a backslash has just been read. -/
def CompletesSlash (line : Nat) (cs : List Char) : Prop :=
  ∀ read ts, scan (.slash read) line cs = .ok ts →
    ∃ inside value rest, InSlashes ('\\' :: inside) value ∧
      Completes line cs ts (inside ++ ['/']) rest (.pattern (textOf (value.reverse ++ read)))

theorem completesPattern_cons (hpattern : CompletesPattern line cs)
    (hslash : CompletesSlash line cs) (c : Char) : CompletesPattern line (c :: cs) := by
  intro read ts h
  obtain ⟨made, mode, others, hadvance, hothers, rfl⟩ := scan_cons_eq_ok_iff.1 h
  rw [advance] at hadvance
  split at hadvance
  · rename_i hc
    cases hadvance
    subst hc
    exact ⟨[], [], cs, .nil, rfl, others, hothers, rfl⟩
  · rename_i hend
    split at hadvance
    · cases hadvance
    · rename_i hbreak
      split at hadvance
      · rename_i hc
        cases hadvance
        subst hc
        obtain ⟨inside, value, rest, hinside, hrest⟩ := hslash _ _ hothers
        exact ⟨'\\' :: inside, value, rest, hinside, hrest.cons '\\'⟩
      · rename_i hback
        cases hadvance
        rw [lineAfter_of_ne (by simp)] at hothers
        obtain ⟨inside, value, rest, hinside, hrest⟩ := hpattern _ _ hothers
        exact ⟨c :: inside, c :: value, rest, .plain hend hback hbreak hinside,
          by simpa using hrest.cons c⟩

/-- After a backslash a slash stands for itself, and anything else has the backslash in front. -/
theorem completesSlash_cons (hpattern : CompletesPattern line cs)
    (hslash : CompletesSlash line cs) (c : Char) : CompletesSlash line (c :: cs) := by
  intro read ts h
  obtain ⟨made, mode, others, hadvance, hothers, rfl⟩ := scan_cons_eq_ok_iff.1 h
  rw [advance] at hadvance
  split at hadvance
  · rename_i hc
    cases hadvance
    subst hc
    obtain ⟨inside, value, rest, hinside, hrest⟩ := hpattern _ _ hothers
    exact ⟨'/' :: inside, '/' :: value, rest, .escaped hinside, by simpa using hrest.cons '/'⟩
  · rename_i hend
    split at hadvance
    · cases hadvance
    · rename_i hbreak
      split at hadvance
      · rename_i hc
        cases hadvance
        subst hc
        obtain ⟨inside, value, rest, hinside, hrest⟩ := hslash _ _ hothers
        exact ⟨'\\' :: inside, '\\' :: value, rest, .backslash hend hinside,
          by simpa using hrest.cons '\\'⟩
      · rename_i hback
        cases hadvance
        rw [lineAfter_of_ne (by simp)] at hothers
        obtain ⟨inside, value, rest, hinside, hrest⟩ := hpattern _ _ hothers
        exact ⟨c :: inside, '\\' :: c :: value, rest,
          .backslash hend (.plain hend hback hbreak hinside), by simpa using hrest.cons c⟩

theorem completes_pattern_and_slash (cs : List Char) :
    CompletesPattern line cs ∧ CompletesSlash line cs := by
  induction cs with
  | nil => exact ⟨nofun, nofun⟩
  | cons c cs ih => exact ⟨completesPattern_cons ih.1 ih.2 c, completesSlash_cons ih.1 ih.2 c⟩

end Modes

/-- What a character begins when it comes between tokens. -/
inductive Begins (c : Char) : List Token → Mode → Prop where
  | nothing : isBlank c = true → Begins c [] .between
  | pattern : c = '/' → Begins c [] (.pattern [])
  | text : c = '"' → Begins c [] (.text [])
  | sign {t : Token} : Spells [c] t → c ≠ '\n' → Begins c [t] .between
  | word : startsWord c = true → Begins c [] (.word [c])

theorem begins_of_start {c : Char} {made : List Token} {mode : Mode}
    (h : start c = .ok (made, mode)) : Begins c made mode := by
  unfold start at h
  split at h
  · rename_i hblank
    cases h
    exact .nothing hblank
  · split at h
    case h_9 =>
      split at h
      · rename_i hword
        cases h
        exact .word hword
      · cases h
    case h_1 => cases h; exact .pattern rfl
    case h_2 => cases h; exact .text rfl
    case h_3 => cases h; exact .sign .openBrace (by decide)
    case h_4 => cases h; exact .sign .closeBrace (by decide)
    case h_5 => cases h; exact .sign .openParen (by decide)
    case h_6 => cases h; exact .sign .closeParen (by decide)
    case h_7 => cases h; exact .sign .comma (by decide)
    case h_8 => cases h; exact .sign .bar (by decide)

/-- A character that is no blank begins a token, and the rest of the text completes it. -/
theorem completes_of_not_blank {line : Nat} {c : Char} {cs : List Char} {ts : List PlacedToken}
    (hc : isBlank c = false) (h : scan .between line (c :: cs) = .ok ts) :
    ∃ more rest t, Spells (c :: more) t ∧ Completes line cs ts more rest t := by
  obtain ⟨made, mode, others, hstart, hothers, rfl⟩ := scan_cons_eq_ok_iff.1 h
  rw [advance] at hstart
  cases begins_of_start hstart with
  | nothing hblank => rw [hc] at hblank; cases hblank
  | pattern hslash =>
    subst hslash
    rw [lineAfter_of_ne (by simp)] at hothers
    obtain ⟨inside, value, rest, hinside, hrest⟩ := (completes_pattern_and_slash cs).1 _ _ hothers
    exact ⟨inside ++ ['/'], rest, _, .pattern hinside, by simpa [textOf] using hrest⟩
  | text hquote =>
    subst hquote
    rw [lineAfter_of_ne (by simp)] at hothers
    obtain ⟨inside, value, rest, hinside, hrest⟩ := (completes_text_and_escape cs).1 _ _ hothers
    exact ⟨inside ++ ['"'], rest, _, .text hinside, by simpa [textOf] using hrest⟩
  | @sign t hspells hbreak =>
    rw [lineAfter, if_neg fun hand => hbreak hand.1] at hothers
    exact ⟨[], cs, t, hspells, rfl, others, hothers, rfl⟩
  | word hword =>
    rw [lineAfter_of_ne (by simp)] at hothers
    obtain ⟨more, rest, hmore, hrest⟩ := completes_word hothers
    exact ⟨more, rest, _, .word hword hmore, by simpa [textOf] using hrest⟩

theorem start_of_blank {c : Char} (hc : isBlank c = true) : start c = .ok ([], .between) := by
  unfold start
  exact if_pos hc

/-- A blank begins nothing, but a newline moves on to the next line. -/
theorem scan_of_blank {line : Nat} {c : Char} {cs : List Char} {ts : List PlacedToken}
    (hc : isBlank c = true) (h : scan .between line (c :: cs) = .ok ts) :
    scan .between (line + newlines [c]) cs = .ok ts := by
  obtain ⟨made, mode, others, hstart, hothers, rfl⟩ := scan_cons_eq_ok_iff.1 h
  rw [advance, start_of_blank hc] at hstart
  cases hstart
  have hline : lineAfter line c .between = line + newlines [c] := by
    by_cases hbreak : c = '\n' <;> simp [lineAfter, hbreak]
  rw [hline] at hothers
  exact hothers

/-! ## Lines -/

/-- The line of a token is short by the newlines inside the tokens before it. -/
def Place.Short (first : Nat) (l : Place) : Prop :=
  l.token.line + newlines l.taken = first + newlines l.before

/-- The tokens of the rest of a text have places. The line that is reached is short in the same way,
and stays so: a newline between tokens adds to it and to the text before, one inside a token to what
is taken and to the text before. -/
theorem places_of_scan {first : Nat} (cs : List Char) {line : Nat} {before taken : List Char}
    {ts : List PlacedToken} (hline : line + newlines taken = first + newlines before)
    (h : scan .between line cs = .ok ts) :
    ∃ places, Places before taken cs places ∧ places.map (·.token) = ts ∧
      ∀ l ∈ places, l.Short first := by
  induction hn : cs.length using Nat.strongRecOn generalizing cs line before taken ts with
  | _ n ih =>
    cases cs with
    | nil =>
      cases h
      exact ⟨_, .done line, rfl, by simpa [Place.Short] using hline⟩
    | cons c cs =>
      rw [List.length_cons] at hn
      by_cases hc : isBlank c = true
      · have hnext : line + newlines [c] + newlines taken = first + newlines (before ++ [c]) := by
          rw [newlines_append]
          omega
        obtain ⟨places, hplaces, htokens, hshort⟩ :=
          ih cs.length (by omega) cs hnext (scan_of_blank hc h) rfl
        exact ⟨places, .blank hc hplaces, htokens, hshort⟩
      · rw [Bool.not_eq_true] at hc
        obtain ⟨more, rest, t, hspells, rfl, others, hothers, rfl⟩ := completes_of_not_blank hc h
        have hnext : line + newlines (taken ++ c :: more) =
            first + newlines (before ++ c :: more) := by
          rw [newlines_append, newlines_append]
          omega
        have hlen : rest.length < n := by
          rw [← hn, List.length_append]
          omega
        obtain ⟨places, hplaces, htokens, hshort⟩ := ih rest.length hlen rest hnext hothers rfl
        refine ⟨_, .token (p := ⟨t, line⟩) hspells hplaces, ?_, ?_⟩
        · rw [List.map_cons, htokens]
        · exact List.forall_mem_cons.2 ⟨hline, hshort⟩

/-- Every token has its place in the text. Its line counts the newlines in front of it that are not
inside another token; so it is the line of its first character unless a token before it holds a
newline, as only a text in quotes may. -/
theorem line_of_place {text : String} {line : Nat} {ts : List PlacedToken}
    (h : ofText text line = .ok ts) :
    ∃ places, Places [] [] text.toList places ∧ places.map (·.token) = ts ∧
      ∀ l ∈ places,
        l.token.line + newlines l.taken = line + newlines l.before ∧
        (l.token.line = line + newlines l.before ↔ '\n' ∉ l.taken) ∧
        ('\n' ∈ l.spelling → ∃ value, l.token.token = .text value) := by
  have hstart : line + newlines [] = line + newlines [] := rfl
  obtain ⟨places, hplaces, htokens, hshort⟩ := places_of_scan text.toList hstart h
  refine ⟨places, hplaces, htokens, fun l hl => ?_⟩
  have hline : l.token.line + newlines l.taken = line + newlines l.before := hshort l hl
  refine ⟨hline, ?_, text_of_newline_mem_spelling hplaces hl⟩
  rw [← newlines_eq_zero_iff]
  omega

/-- Lines in front of a text in quotes, inside it, and after it. -/
def threeLines : String := "case\n\"a\\\nb\"\n/x/"

def threeLinesTokens : List PlacedToken :=
  [⟨.word "case", 7⟩, ⟨.text "a\\\nb", 8⟩, ⟨.pattern "x", 9⟩, ⟨.done, 9⟩]

theorem line_of_place_threeLines :
    ofText threeLines 7 = .ok threeLinesTokens ∧
      ∃ places, Places [] [] threeLines.toList places ∧
        places.map (·.token) = threeLinesTokens ∧
        ∀ l ∈ places,
          l.token.line + newlines l.taken = 7 + newlines l.before ∧
          (l.token.line = 7 + newlines l.before ↔ '\n' ∉ l.taken) ∧
          ('\n' ∈ l.spelling → ∃ value, l.token.token = .text value) := by
  have htokens : ofText threeLines 7 = .ok threeLinesTokens := rfl
  exact ⟨htokens, line_of_place htokens⟩

/-- A newline inside a text in quotes, and a word on the line that it begins. -/
def brokenText : String := "\"\\\n\" x"

def brokenTextTokens : List PlacedToken := [⟨.text "\\\n", 1⟩, ⟨.word "x", 1⟩, ⟨.done, 1⟩]

/-- The text ends on line 2, but the mark of its end is on line 1. -/
theorem brokenText_short :
    ofText brokenText 1 = .ok brokenTextTokens ∧
      ¬ ∃ places, Places [] [] brokenText.toList places ∧
        places.map (·.token) = brokenTextTokens ∧
        ∀ l ∈ places, l.token.line = 1 + newlines l.before := by
  refine ⟨rfl, ?_⟩
  rintro ⟨places, hplaces, htokens, hexact⟩
  obtain ⟨l, hl, hend⟩ := hplaces.exists_before_eq
  have hline : ∀ p ∈ brokenTextTokens, p.line = 1 := by decide
  have hshort := hline l.token (htokens ▸ List.mem_map_of_mem hl)
  rw [hexact l hl, hend] at hshort
  exact absurd hshort (by decide)

end Token

end PromptScript
