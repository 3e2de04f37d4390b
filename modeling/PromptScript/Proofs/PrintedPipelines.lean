import PromptScript.Proofs.PatternLiterals

/-!
# Proofs.PrintedPipelines

Printing an action and reading it back. Each piece of the print is read on its own, from the mode
that the piece before it leaves (`Reads`): the trigger between slashes, the arguments in quotes, a
verb with the blank after it. The tokens in a row are what the grammar derives the action from, so
that the print reads back as the action (`ofText_render`).
-/

namespace PromptScript

/-- An action as a text: its trigger between slashes, and its verbs between braces. -/
def Action.render (a : Action) : String :=
  Token.patternLiteral a.trigger ++ " \x7b " ++ joinTexts " | " (a.verbs.map Verb.render) ++ " \x7d"

/-- A character that quotes show as it is, or by an escape that the reader of texts resolves. -/
def Readable (c : Char) : Prop :=
  quotedChar c ∈ [[c], ['\\', '"'], ['\\', '\\'], ['\\', 'n'], ['\\', 't']]

/-- All characters of the arguments are readable. -/
def Verb.Readable (v : Verb) : Prop :=
  ∀ argument ∈ v.arguments, ∀ c ∈ argument.toList, PromptScript.Readable c

namespace Token

open Grammar

/-! ## Texts in quotes -/

theorem readable_of_ascii {c : Char}
    (h : 32 ≤ c.toNat ∧ c.toNat < 127 ∨ c = '\n' ∨ c = '\t') : Readable c := by
  rcases h with ⟨hleast, hmost⟩ | rfl | rfl
  · have hprintable : isPrintable c = true := by
      rw [isPrintable, if_pos hmost]
      exact decide_eq_true hleast
    have hreturn : c ≠ '\r' := by rintro rfl; exact absurd hleast (by decide)
    have hnull : c ≠ '\x00' := by rintro rfl; exact absurd hleast (by decide)
    rw [Readable, quotedChar, if_neg hreturn, if_neg hnull, if_pos hprintable]
    repeat' split
    all_goals simp
  · simp [Readable, quotedChar]
  · simp [Readable, quotedChar]

/-- A readable character without an escape of its own is shown as it is. -/
theorem readable_cases {c : Char} (h : Readable c) :
    c = '"' ∨ c = '\\' ∨ c = '\n' ∨ c = '\t' ∨ quotedChar c = [c] := by
  refine Decidable.byContradiction fun hnone => ?_
  simp only [not_or] at hnone
  obtain ⟨hquote, hslash, hbreak, htab, hself⟩ := hnone
  simp only [Readable, List.mem_cons, List.not_mem_nil, or_false, hself, false_or] at h
  rw [quotedChar, if_neg hquote, if_neg hslash, if_neg hbreak, if_neg htab] at h
  -- what is left is shown by another escape, or as it is
  repeat' split at h
  all_goals simp at h

theorem reads_quotedChar {c : Char} (h : Readable c) (read : List Char) :
    Reads (.text read) (quotedChar c) [] (.text (c :: read)) := by
  rcases readable_cases h with rfl | rfl | rfl | rfl | hself
  · exact ⟨by decide, rfl⟩
  · exact ⟨by decide, rfl⟩
  · exact ⟨by decide, rfl⟩
  · exact ⟨by decide, rfl⟩
  · have hquote : c ≠ '"' := by rintro rfl; exact absurd hself (by decide)
    have hslash : c ≠ '\\' := by rintro rfl; exact absurd hself (by decide)
    have hbreak : c ≠ '\n' := by rintro rfl; exact absurd hself (by decide)
    have hadvance : advance (.text read) c = .ok ([], .text (c :: read)) := by
      rw [advance, if_neg hquote, if_neg hslash, if_neg hbreak]
    rw [hself]
    exact .cons hbreak hadvance (.nil _)

theorem reads_quotedChars {cs : List Char} (h : ∀ c ∈ cs, Readable c) (read : List Char) :
    Reads (.text read) (cs.flatMap quotedChar) [] (.text (cs.reverse ++ read)) := by
  induction cs generalizing read with
  | nil => exact .nil _
  | cons c cs ih =>
    obtain ⟨hc, hcs⟩ := List.forall_mem_cons.1 h
    have hread : (c :: cs).reverse ++ read = cs.reverse ++ c :: read := by simp
    rw [List.flatMap_cons, hread]
    exact (reads_quotedChar hc read).append (ih hcs (c :: read))

theorem reads_quoted {s : String} (h : ∀ c ∈ s.toList, Readable c) :
    Reads .between (quoted s).toList [.text s] .between := by
  have hopen : Reads .between ['"'] [] (.text []) := ⟨by decide, rfl⟩
  have hclose : Reads (.text (s.toList.reverse ++ [])) ['"'] [.text s] .between := by
    refine ⟨by decide, ?_⟩
    simp [advances, advance, textOf]
  rw [quoted, String.toList_ofList]
  exact hopen.append ((reads_quotedChars h []).append hclose)

theorem reads_arguments {first : String} {rest : List String}
    (h : ∀ argument ∈ first :: rest, ∀ c ∈ argument.toList, Readable c) :
    Reads .between (joinTexts ", " ((first :: rest).map quoted)).toList
      (listedTexts (first :: rest)) .between := by
  rw [joinTexts, String.toList_ofList]
  induction rest generalizing first with
  | nil => exact reads_quoted (h first List.mem_cons_self)
  | cons second rest ih =>
    obtain ⟨hfirst, hrest⟩ := List.forall_mem_cons.1 h
    have hcomma : Reads .between ", ".toList [.comma] .between := ⟨by decide, rfl⟩
    exact ((reads_quoted hfirst).append hcomma).append (ih hrest)

/-! ## Verbs -/

theorem reads_word (v : Verb) : Reads .between v.word.toList [] (.word v.word.toList.reverse) := by
  refine ⟨?_, ?_⟩
  · cases v <;> simp [Verb.word]
  · cases v <;> simp [Verb.word] <;> rfl

/-- The character after a word completes it. -/
theorem reads_afterWord {c : Char} {made : List Token} (v : Verb)
    (hc : c ≠ '\n') (hstop : continuesWord c = false) (hstart : start c = .ok (made, .between)) :
    Reads .between (v.word.toList ++ [c]) (.word v.word :: made) .between := by
  have hadvance : advance (.word v.word.toList.reverse) c =
      .ok (.word v.word :: made, .between) := by
    rw [advance, hstop, hstart]
    simp [textOf, Except.map]
  simpa using (reads_word v).append (.cons hc hadvance (.nil _))

/-- A verb, with the blank that stands after it. -/
theorem reads_render {v : Verb} (h : v.Readable) :
    ∃ ts, ArgumentTokens ts v.arguments ∧
      Reads .between (v.render.toList ++ [' ']) (.word v.word :: ts) .between := by
  rw [Verb.render]
  split
  · rename_i hnone
    rw [hnone]
    exact ⟨[], .absent, reads_afterWord v (by decide) (by decide) rfl⟩
  · rename_i hsome
    cases harguments : v.arguments with
    | nil => exact absurd harguments hsome
    | cons first rest =>
      have hopen : Reads .between (v.word.toList ++ ['(']) [.word v.word, .openParen] .between :=
        reads_afterWord v (by decide) (by decide) rfl
      rw [Verb.Readable, harguments] at h
      have hlist := reads_arguments h
      have hclose : Reads .between ")".toList [.closeParen] .between := ⟨by decide, rfl⟩
      have hblank : Reads .between [' '] [] .between := ⟨by decide, rfl⟩
      refine ⟨_, .given (first :: rest), ?_⟩
      simpa [String.toList_append] using ((hopen.append hlist).append hclose).append hblank

end Token

namespace Expression

open Grammar Token

theorem passes_of_isPattern {pattern : String} (h : IsPattern pattern) :
    Passes checkPattern pattern := by
  obtain ⟨p, hread⟩ := h
  rw [Passes, checkPattern, hread]

theorem isVerb_of_checked {v : Verb} (h : v.Checked) :
    IsVerb (Passes checkPattern) v.word v.arguments v := by
  cases v with
  | prompt message => exact .prompt message
  | grep patterns =>
    exact .grep (List.length_pos_iff.2 h.1) fun p hp => passes_of_isPattern (h.2 p hp)
  | sort arguments => exact .sort arguments
  | xargs names => exact .xargs h.1 h.2

theorem reads_verbs {v : Verb} {rest : List Verb}
    (h : ∀ w ∈ v :: rest, w.Checked ∧ w.Readable) :
    ∃ ts, PipelineTokens (Passes checkPattern) ts (v :: rest) ∧
      Reads .between ((joinTexts " | " ((v :: rest).map Verb.render)).toList ++ [' ']) ts
        .between := by
  rw [joinTexts, String.toList_ofList]
  induction rest generalizing v with
  | nil =>
    obtain ⟨hchecked, hreadable⟩ := h v List.mem_cons_self
    obtain ⟨ts, harguments, hreads⟩ := reads_render hreadable
    have hcall : CallTokens (Passes checkPattern) (.word v.word :: ts) v :=
      .mk harguments (isVerb_of_checked hchecked)
    exact ⟨_, .mk hcall .nil, by simpa [joinFields] using hreads⟩
  | cons w rest ih =>
    obtain ⟨⟨hchecked, hreadable⟩, hrest⟩ := List.forall_mem_cons.1 h
    obtain ⟨ts, harguments, hreads⟩ := reads_render hreadable
    have hcall : CallTokens (Passes checkPattern) (.word v.word :: ts) v :=
      .mk harguments (isVerb_of_checked hchecked)
    obtain ⟨_, ⟨hnext, hcalls⟩, hlater⟩ := ih hrest
    have hbar : Reads .between "| ".toList [.bar] .between := ⟨by decide, rfl⟩
    refine ⟨_, .mk hcall (.cons hnext hcalls), ?_⟩
    simpa [joinFields] using (hreads.append hbar).append hlater

/-! ## Actions -/

/-- A checked action whose trigger can stand between slashes, and all of whose arguments are
readable, is what its text reads as. -/
theorem ofText_render {a : Action} (hchecked : a.Checked) (htrigger : Enclosable a.trigger)
    (hreadable : ∀ v ∈ a.verbs, v.Readable) (line : Nat) :
    ofText a.render line = .ok (.action a) := by
  obtain ⟨trigger, verbs, hne⟩ := a
  cases verbs with
  | nil => exact absurd rfl hne
  | cons v rest =>
    obtain ⟨ts, hpipeline, hverbs⟩ := reads_verbs fun w hw => ⟨hchecked.verbs w hw, hreadable w hw⟩
    have hopen : Reads .between " \x7b ".toList [.openBrace] .between := ⟨by decide, rfl⟩
    have hclose : Reads .between ['\x7d'] [.closeBrace] .between := ⟨by decide, rfl⟩
    have hreads : Reads .between (Action.render ⟨trigger, v :: rest, hne⟩).toList
        (.pattern trigger :: .openBrace :: ts ++ [.closeBrace]) .between := by
      simpa [Action.render, String.toList_append] using
        (((reads_patternLiteral htrigger).append hopen).append hverbs).append hclose
    have hderives : ExpressionTokens (Passes checkPattern)
        (.pattern trigger :: .openBrace :: ts ++ [.closeBrace])
          (.action ⟨trigger, v :: rest, hne⟩) :=
      .action (.mk (passes_of_isPattern hchecked.trigger) hpipeline)
    rw [ofText, ofTextWith, hreads.ofText line]
    dsimp only
    refine (ofTokens_eq_ok_iff ?_ (done_not_mem_expression hderives)).2 hderives
    rw [tokens_append, tokens_placed]
    rfl

/-- Slashes and a backslash in the trigger, and in the arguments what else has a meaning in the
language. -/
def escapedAction : Action :=
  ⟨"^src/.*\\.rs$",
    [.grep ["a/b", "\"\\\\|, [(\x7d]"], .sort [], .xargs ["f"], .prompt "one\n\ttwo \x7bit\x7d"],
    List.cons_ne_nil _ _⟩

theorem ofText_render_escaped :
    escapedAction.Checked ∧ Enclosable escapedAction.trigger ∧
      (∀ v ∈ escapedAction.verbs, v.Readable) ∧
      escapedAction.render =
        "/^src\\/.*\\.rs$/ \x7b grep(\"a/b\", \"\\\"\\\\\\\\|, [(\x7d]\") | sort | " ++
          "xargs(\"f\") | prompt(\"one\\n\\ttwo \x7bit\x7d\") \x7d" ∧
      ofText escapedAction.render 1 = .ok (.action escapedAction) := by
  have hpatterns : ∀ pattern ∈ escapedAction.trigger :: ["a/b", "\"\\\\|, [(\x7d]"],
      IsPattern pattern := by decide +kernel
  obtain ⟨htrigger, harguments⟩ := List.forall_mem_cons.1 hpatterns
  have hchecked : escapedAction.Checked := by
    refine ⟨escapedAction.verbs_ne_nil, htrigger, ?_⟩
    intro v hv
    simp only [escapedAction, List.mem_cons, List.not_mem_nil, or_false] at hv
    rcases hv with rfl | rfl | rfl | rfl
    · exact ⟨List.cons_ne_nil _ _, harguments⟩
    · exact trivial
    · exact ⟨by decide, by decide⟩
    · exact trivial
  have hascii : ∀ v ∈ escapedAction.verbs, ∀ argument ∈ v.arguments, ∀ c ∈ argument.toList,
      32 ≤ c.toNat ∧ c.toNat < 127 ∨ c = '\n' ∨ c = '\t' := by
    simp [escapedAction, Verb.arguments]
  have hreadable : ∀ v ∈ escapedAction.verbs, v.Readable := fun v hv argument hargument c hc =>
    readable_of_ascii (hascii v hv argument hargument c hc)
  exact ⟨hchecked, by decide, hreadable, by decide +kernel,
    ofText_render hchecked (by decide) hreadable 1⟩

end Expression

end PromptScript
