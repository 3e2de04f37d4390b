import PromptScript.Proofs.CheckedValues

/-!
# Proofs.PatternLiterals

Patterns between slashes. Written with its own slashes escaped, a pattern is read as it was, unless
it has a newline or ends in a backslash. That backslash would take the closing slash for an escaped
one, also where it is itself escaped, so that no text at all has the pattern
(`ofText_patternLiteral`).

* `Reads`: what characters in a row are read as, within one line; it composes.
* `enclosable_of_scan`: which patterns a text can have, from what one character does.
-/

namespace PromptScript

namespace Token

/-! ## Characters in a row -/

/-- What characters do one after the other: the tokens they complete, and the mode after them. -/
def advances (mode : Mode) : List Char → Except LexicalFault (List Token × Mode)
  | [] => .ok ([], mode)
  | c :: rest =>
    match advance mode c with
    | .error f => .error f
    | .ok (made, mode) =>
      match advances mode rest with
      | .error f => .error f
      | .ok (others, mode) => .ok (made ++ others, mode)

theorem advances_cons_eq_ok_iff {mode mode' : Mode} {c : Char} {rest : List Char}
    {made : List Token} :
    advances mode (c :: rest) = .ok (made, mode') ↔
      ∃ first mode₁ others, advance mode c = .ok (first, mode₁) ∧
        advances mode₁ rest = .ok (others, mode') ∧ made = first ++ others := by
  rw [advances]
  constructor
  · intro h
    split at h
    · cases h
    · rename_i first mode₁ hfirst
      split at h
      · cases h
      · rename_i others _ hrest
        cases h
        exact ⟨first, mode₁, others, hfirst, hrest, rfl⟩
  · rintro ⟨first, mode₁, others, hfirst, hrest, rfl⟩
    rw [hfirst]
    dsimp only
    rw [hrest]

/-- Characters of one line are read as tokens, from one mode to another. -/
structure Reads (mode : Mode) (cs : List Char) (made : List Token) (mode' : Mode) : Prop where
  inline : '\n' ∉ cs
  result : advances mode cs = .ok (made, mode')

namespace Reads

variable {mode mode₁ mode' : Mode} {cs ds : List Char} {made more : List Token}

theorem nil (mode : Mode) : Reads mode [] [] mode := ⟨List.not_mem_nil, rfl⟩

theorem cons {c : Char} (hc : c ≠ '\n') (hfirst : advance mode c = .ok (made, mode₁))
    (hrest : Reads mode₁ cs more mode') : Reads mode (c :: cs) (made ++ more) mode' where
  inline := by simp [hrest.inline, hc.symm]
  result := advances_cons_eq_ok_iff.2 ⟨made, mode₁, more, hfirst, hrest.result, rfl⟩

theorem append (h : Reads mode cs made mode₁) (hrest : Reads mode₁ ds more mode') :
    Reads mode (cs ++ ds) (made ++ more) mode' := by
  obtain ⟨hinline, hresult⟩ := h
  induction cs generalizing mode made with
  | nil =>
    cases hresult
    exact hrest
  | cons c cs ih =>
    obtain ⟨first, mode₂, others, hfirst, hothers, rfl⟩ := advances_cons_eq_ok_iff.1 hresult
    rw [List.mem_cons, not_or] at hinline
    rw [List.cons_append, List.append_assoc]
    exact .cons (Ne.symm hinline.1) hfirst (ih hinline.2 hothers)

theorem scan (h : Reads mode cs made mode') (line : Nat) (rest : List Char) :
    Token.scan mode line (cs ++ rest) =
      match Token.scan mode' line rest with
      | .error e => .error e
      | .ok others => .ok ((made.map fun t => ⟨t, line⟩) ++ others) := by
  obtain ⟨hinline, hresult⟩ := h
  induction cs generalizing mode made with
  | nil =>
    cases hresult
    rw [List.nil_append]
    cases Token.scan mode' line rest with
    | error e => rfl
    | ok others => rfl
  | cons c cs ih =>
    obtain ⟨first, mode₁, others, hfirst, hothers, rfl⟩ := advances_cons_eq_ok_iff.1 hresult
    rw [List.mem_cons, not_or] at hinline
    have hline : lineAfter line c mode₁ = line := if_neg fun h => hinline.1 h.1.symm
    rw [List.cons_append, Token.scan, hfirst]
    dsimp only
    rw [hline, ih hinline.2 hothers]
    cases Token.scan mode' line rest <;> simp

/-- A text that is read to its end. -/
theorem ofText {text : String} (h : Reads .between text.toList made .between) (line : Nat) :
    Token.ofText text line = .ok ((made.map fun t => ⟨t, line⟩) ++ [⟨.done, line⟩]) := by
  rw [Token.ofText, ← List.append_nil text.toList, h.scan]
  rfl

end Reads

/-! ## Patterns between slashes -/

/-- A character of a pattern as it is written between slashes. -/
def slashed (c : Char) : List Char := if c = '/' then ['\\', '/'] else [c]

/-- A pattern between slashes, with its own slashes escaped. -/
def patternLiteral (pattern : String) : String :=
  String.ofList ('/' :: pattern.toList.flatMap slashed ++ ['/'])

/-- A pattern that can stand between slashes. -/
def Enclosable (pattern : String) : Prop :=
  '\n' ∉ pattern.toList ∧ pattern.toList.getLast? ≠ some '\\'

instance (pattern : String) : Decidable (Enclosable pattern) :=
  inferInstanceAs (Decidable (_ ∧ _))

/-- The mode after these characters of a pattern. A backslash that comes last is held back. -/
def inPattern : List Char → Mode
  | '\\' :: read => .slash read
  | read => .pattern read

theorem inPattern_of_ne {read : List Char} (h : read.head? ≠ some '\\') :
    inPattern read = .pattern read := by
  unfold inPattern
  split
  · exact absurd rfl h
  · rfl

theorem advance_inPattern {c : Char} (hslash : c ≠ '/') (hbreak : c ≠ '\n') (read : List Char) :
    advance (inPattern read) c = .ok ([], inPattern (c :: read)) := by
  have hnext : c ≠ '\\' → inPattern (c :: read) = .pattern (c :: read) := fun hc =>
    inPattern_of_ne fun h => hc (Option.some.inj h)
  by_cases hc : c = '\\'
  · subst hc
    unfold inPattern
    split <;> rfl
  · rw [hnext hc]
    unfold inPattern
    split <;> simp [advance, hslash, hbreak, hc]

theorem reads_slashed {cs : List Char} (hinline : '\n' ∉ cs) (read : List Char) :
    Reads (inPattern read) (cs.flatMap slashed) [] (inPattern (cs.reverse ++ read)) := by
  induction cs generalizing read with
  | nil => exact .nil _
  | cons c cs ih =>
    rw [List.mem_cons, not_or] at hinline
    have hrest := ih hinline.2 (c :: read)
    have hread : (c :: cs).reverse ++ read = cs.reverse ++ c :: read := by simp
    rw [List.flatMap_cons, hread, slashed]
    split
    · rename_i hc
      subst hc
      -- whatever was read before the backslash, the slash after it takes its place
      have hescape : advance (inPattern read) '\\' = .ok ([], inPattern ('\\' :: read)) :=
        advance_inPattern (by decide) (by decide) read
      have hstays : advance (.slash read) '/' = .ok ([], inPattern ('/' :: read)) := rfl
      exact .cons (by decide) hescape (.cons (by decide) hstays hrest)
    · rename_i hc
      exact .cons (Ne.symm hinline.1) (advance_inPattern hc (Ne.symm hinline.1) read) hrest

theorem reads_patternLiteral {pattern : String} (h : Enclosable pattern) :
    Reads .between (patternLiteral pattern).toList [.pattern pattern] .between := by
  have hlast : pattern.toList.reverse.head? ≠ some '\\' := by
    rw [List.head?_reverse]
    exact h.2
  have hbody := reads_slashed h.1 []
  rw [List.append_nil, inPattern_of_ne hlast] at hbody
  have hclose : Reads (.pattern pattern.toList.reverse) ['/'] [.pattern pattern] .between := by
    refine ⟨by decide, ?_⟩
    simp [advances, advance, textOf]
  have hopen : Reads .between ['/'] [] (inPattern []) := ⟨by decide, rfl⟩
  rw [patternLiteral, String.toList_ofList]
  exact hopen.append (hbody.append hclose)

/-- Otherwise the pattern is never closed: it ends at its newline, or its closing slash is taken
for an escaped one. -/
theorem unterminated_patternLiteral {pattern : String} (h : ¬ Enclosable pattern) (line : Nat) :
    ofText (patternLiteral pattern) line = .error ⟨line, .unterminatedPattern⟩ := by
  have hopen : Reads .between ['/'] [] (inPattern []) := ⟨by decide, rfl⟩
  rw [ofText, patternLiteral, String.toList_ofList]
  by_cases hbreak : '\n' ∈ pattern.toList
  · obtain ⟨before, after, hsplit, hbefore⟩ := List.eq_append_cons_of_mem hbreak
    have hread := hopen.append (reads_slashed hbefore [])
    have hfault : advance (inPattern (before.reverse ++ [])) '\n' =
        .error .unterminatedPattern := by
      unfold inPattern
      split <;> rfl
    have htext : '/' :: pattern.toList.flatMap slashed ++ ['/'] =
        (['/'] ++ before.flatMap slashed) ++ '\n' :: (after.flatMap slashed ++ ['/']) := by
      simp [hsplit, slashed]
    rw [htext, hread.scan, scan, hfault]
  · have hlast : pattern.toList.getLast? = some '\\' :=
      Decidable.byContradiction fun hlast => h ⟨hbreak, hlast⟩
    obtain ⟨before, hsplit⟩ := List.getLast?_eq_some_iff.1 hlast
    have hread := hopen.append (reads_slashed hbreak [])
    have hmode : inPattern (pattern.toList.reverse ++ []) = .slash before.reverse := by
      rw [hsplit]
      simp [inPattern]
    rw [hmode] at hread
    have htext : '/' :: pattern.toList.flatMap slashed ++ ['/'] =
        (['/'] ++ pattern.toList.flatMap slashed) ++ ['/'] := rfl
    rw [htext, hread.scan]
    rfl

/-! ## Patterns of a text -/

/-- The characters of a pattern so far could all be its characters. -/
def Mode.Enclosed : Mode → Prop
  | .pattern read => '\n' ∉ read ∧ read.head? ≠ some '\\'
  | .slash read => '\n' ∉ read
  | _ => True

theorem enclosed_start {c : Char} {made : List Token} {mode : Mode}
    (h : start c = .ok (made, mode)) : mode.Enclosed ∧ ∀ s, .pattern s ∉ made := by
  unfold start at h
  split at h
  · cases h; simp [Mode.Enclosed]
  · split at h
    case h_9 => split at h <;> cases h; simp [Mode.Enclosed]
    all_goals cases h; simp [Mode.Enclosed]

/-- One character: patterns stay enclosable, and so is the one that it completes. -/
theorem enclosable_of_advance {mode mode' : Mode} {c : Char} {made : List Token}
    (hmode : mode.Enclosed) (h : advance mode c = .ok (made, mode')) :
    mode'.Enclosed ∧ ∀ s, .pattern s ∈ made → Enclosable s := by
  have hnone : (∀ s, .pattern s ∉ made) → ∀ s, .pattern s ∈ made → Enclosable s :=
    fun hnone s hs => absurd hs (hnone s)
  cases mode with
  | between =>
    obtain ⟨hmode', hmade⟩ := enclosed_start h
    exact ⟨hmode', hnone hmade⟩
  | word read =>
    rw [advance] at h
    split at h
    · cases h
      exact ⟨trivial, by simp⟩
    · cases hstart : start c with
      | error f => rw [hstart] at h; cases h
      | ok r =>
        rw [hstart] at h
        cases h
        obtain ⟨hmode', hmade⟩ := enclosed_start hstart
        exact ⟨hmode', by simp [hmade]⟩
  | text read =>
    rw [advance] at h
    split at h
    · cases h; simp [Mode.Enclosed]
    · split at h
      · cases h; simp [Mode.Enclosed]
      · split at h <;> cases h
        simp [Mode.Enclosed]
  | escape read =>
    cases h
    simp [Mode.Enclosed]
  | pattern read =>
    obtain ⟨hinline, hlast⟩ := hmode
    rw [advance] at h
    split at h
    · cases h
      refine ⟨trivial, fun s hs => ?_⟩
      obtain rfl : s = textOf read := by simpa using hs
      simp [Enclosable, textOf, hinline, hlast]
    · split at h
      · cases h
      · split at h <;> cases h
        · exact ⟨hinline, by simp⟩
        · rename_i hbreak hescape
          exact ⟨⟨by simp [hinline, Ne.symm hbreak], by simp [hescape]⟩, by simp⟩
  | slash read =>
    rw [advance] at h
    split at h
    · cases h
      exact ⟨⟨by simpa [Mode.Enclosed] using hmode, by simp⟩, by simp⟩
    · split at h
      · cases h
      · split at h <;> cases h
        · exact ⟨by simpa [Mode.Enclosed] using hmode, by simp⟩
        · rename_i hbreak hescape
          exact ⟨⟨by simp [Ne.symm hbreak]; exact hmode, by simp [hescape]⟩, by simp⟩

theorem enclosable_of_scan {mode : Mode} {line : Nat} {cs : List Char} {ts : List PlacedToken}
    (hmode : mode.Enclosed) (h : scan mode line cs = .ok ts) {s : String}
    (hs : .pattern s ∈ tokens ts) : Enclosable s := by
  induction cs generalizing mode line ts with
  | nil =>
    rw [scan] at h
    cases mode with
    | between => cases h; simp [tokens] at hs
    | word read => cases h; simp [tokens] at hs
    | text | escape | pattern | slash => cases h
  | cons c rest ih =>
    rw [scan] at h
    split at h
    · cases h
    · rename_i made mode' hadvance
      obtain ⟨hmode', hmade⟩ := enclosable_of_advance hmode hadvance
      split at h
      · cases h
      · rename_i others hrest
        cases h
        rw [tokens_append, tokens_placed, List.mem_append] at hs
        rcases hs with hs | hs
        · exact hmade s hs
        · exact ih hmode' hrest hs

/-- A pattern without newlines that does not end in a backslash is what it reads back as when its
slashes are escaped; any other is left unterminated, and no text at all has it as a pattern. -/
theorem ofText_patternLiteral (pattern : String) (line : Nat) :
    (ofText (patternLiteral pattern) line =
      if Enclosable pattern then .ok [⟨.pattern pattern, line⟩, ⟨.done, line⟩]
      else .error ⟨line, .unterminatedPattern⟩) ∧
      ((∃ text ts, ofText text line = .ok ts ∧ .pattern pattern ∈ tokens ts) ↔
        Enclosable pattern) := by
  constructor
  · split
    · rename_i h
      exact (reads_patternLiteral h).ofText line
    · rename_i h
      exact unterminated_patternLiteral h line
  · constructor
    · rintro ⟨text, ts, htext, hmem⟩
      have hstart : Mode.between.Enclosed := trivial
      exact enclosable_of_scan hstart htext hmem
    · intro h
      exact ⟨patternLiteral pattern, _, (reads_patternLiteral h).ofText line, by simp⟩

/-- Two backslashes are a pattern, but not when they stand between slashes. -/
theorem escapedBackslash_unterminated :
    IsPattern "\\\\" ∧ '\n' ∉ "\\\\".toList ∧ patternLiteral "\\\\" = "/\\\\/" ∧
      ofText (patternLiteral "\\\\") 1 = .error ⟨1, .unterminatedPattern⟩ :=
  ⟨by decide +kernel, by decide, by decide, rfl⟩

end Token

end PromptScript
