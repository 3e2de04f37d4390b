import PromptScript.Proofs.Grammar

/-!
# Proofs.ExpressionLines

The lines that faults of the pattern language are reported on. A text is read from a first line on,
and each newline moves on by at most one line, so tokens and faults stay between the first line and
as many lines further as the text has newlines. A reader reports the line of a token. Past the last
token it would report no line at all; it never gets there, since no reader takes the mark of the
end.

* `Token.within_ofText`, `Token.between_of_fault`: the tokens of a text and the fault that it ends
  with.
* `Expression.keeps_call` and its like: what a reader does to tokens on certain lines.
* `Expression.between_of_fault`: the fault of a text.
-/

namespace PromptScript

/-- The lines of a text with `breaks` newlines that starts on line `first`. -/
def Between (first breaks line : Nat) : Prop := first ≤ line ∧ line ≤ first + breaks

theorem Between.first (line breaks : Nat) : Between line breaks line :=
  ⟨Nat.le_refl line, Nat.le_add_right line breaks⟩

/-- The tokens stand on certain lines, and the mark of the end is among them. -/
structure Within (on : Nat → Prop) (ts : List PlacedToken) : Prop where
  line : ∀ p ∈ ts, on p.line
  ended : Token.done ∈ tokens ts

namespace Within

variable {on : Nat → Prop} {p : PlacedToken} {ts : List PlacedToken}

theorem head (h : Within on (p :: ts)) : on p.line := h.line p List.mem_cons_self

/-- The mark of the end stays as long as only other tokens are taken. -/
theorem tail (h : Within on (p :: ts)) (hp : p.token ≠ .done) : Within on ts where
  line := fun q hq => h.line q (List.mem_cons_of_mem p hq)
  ended := (List.mem_cons.1 h.ended).resolve_left (Ne.symm hp)

theorem next (h : Within on ts) : on (Expression.next ts).line := by
  cases ts with
  | nil => exact absurd h.ended List.not_mem_nil
  | cons p rest => exact h.head

end Within

namespace Token

/-! ## Tokens -/

/-- What stands on a line of the rest of a text stands on a line of the text. -/
theorem between_of_lineAfter {line n : Nat} {c : Char} {rest : List Char} {mode : Mode}
    (h : Between (lineAfter line c mode) (newlines rest) n) :
    Between line (newlines (c :: rest)) n := by
  obtain ⟨hfirst, hlast⟩ := h
  rw [Between, newlines, List.count_cons]
  rw [newlines] at hlast
  unfold lineAfter at hfirst hlast
  split at hfirst
  · rename_i hbreak
    rw [if_pos hbreak] at hlast
    rw [hbreak.1, if_pos (beq_self_eq_true _)]
    omega
  · rename_i hplain
    rw [if_neg hplain] at hlast
    omega

/-- The tokens of a text stand on its lines, and so does the fault of a text without tokens. -/
theorem between_scan (mode : Mode) (line : Nat) (cs : List Char) :
    match scan mode line cs with
    | .ok ts => ∀ p ∈ ts, Between line (newlines cs) p.line
    | .error e => Between line (newlines cs) e.line := by
  -- what is left is scanned in another mode, and on the next line after a newline
  induction cs generalizing mode line with
  | nil =>
    rw [scan]
    cases finish mode with
    | error f => exact .first line _
    | ok made =>
      intro p hp
      obtain ⟨t, _, rfl⟩ := List.mem_map.1 hp
      exact .first line _
  | cons c rest ih =>
    rw [scan]
    cases advance mode c with
    | error f => exact .first line _
    | ok r =>
      obtain ⟨made, mode'⟩ := r
      have hrest := ih mode' (lineAfter line c mode')
      dsimp only
      cases hscan : scan mode' (lineAfter line c mode') rest with
      | error e =>
        rw [hscan] at hrest
        exact between_of_lineAfter hrest
      | ok others =>
        rw [hscan] at hrest
        intro p hp
        rcases List.mem_append.1 hp with hmade | hothers
        · obtain ⟨t, _, rfl⟩ := List.mem_map.1 hmade
          exact .first line _
        · exact between_of_lineAfter (hrest p hothers)

theorem within_ofText {text : String} {line : Nat} {ts : List PlacedToken}
    (h : ofText text line = .ok ts) : Within (Between line (newlines text.toList)) ts where
  line := by
    have hlines := between_scan .between line text.toList
    rwa [show scan .between line text.toList = .ok ts from h] at hlines
  ended := by
    obtain ⟨body, hbody, _⟩ := done_last_scan h
    rw [hbody]
    exact List.mem_append_right body List.mem_cons_self

theorem between_of_fault {text : String} {line : Nat} {e : AtLine LexicalFault}
    (h : ofText text line = .error e) : Between line (newlines text.toList) e.line := by
  have hlines := between_scan .between line text.toList
  rwa [show scan .between line text.toList = .error e from h] at hlines

end Token

namespace Expression

/-! ## Readers -/

/-- A reader that found its tokens on certain lines leaves tokens on these lines, or has reported
one of them. -/
def Keeps {α : Type} (on : Nat → Prop) : Placed (α × List PlacedToken) → Prop
  | .ok (_, rest) => Within on rest
  | .error e => on e.line

section Readers

variable {on : Nat → Prop} {check : String → Checked Unit} {ts : List PlacedToken}

theorem Keeps.error {α : Type} {r : Placed (α × List PlacedToken)} {e : AtLine ExpressionFault}
    (h : Keeps on r) (hr : r = .error e) : on e.line := by
  rw [hr] at h
  exact h

theorem Keeps.ok {α : Type} {r : Placed (α × List PlacedToken)} {a : α} {rest : List PlacedToken}
    (h : Keeps on r) (hr : r = .ok (a, rest)) : Within on rest := by
  rw [hr] at h
  exact h

theorem Keeps.map {α β : Type} {r : Placed (α × List PlacedToken)} {f : α → β}
    (h : Keeps on r) : Keeps on (r.map fun (a, rest) => (f a, rest)) := by
  cases r with
  | error e => exact h
  | ok a => exact h

theorem line_of_onLine {α : Type} {line : Nat} {c : Checked α} {e : AtLine ExpressionFault}
    (h : onLine line c = .error e) : e.line = line := by
  cases c with
  | ok a => cases h
  | error f => cases h; rfl

theorem within_of_expect {t : Token} {sign : Char} {rest : List PlacedToken} (hts : Within on ts)
    (h : expect t sign ts = .ok rest) (ht : t ≠ .done) : Within on rest := by
  obtain ⟨line, rfl⟩ := expect_eq_ok_iff.1 h
  exact hts.tail ht

theorem line_of_expect {t : Token} {sign : Char} {e : AtLine ExpressionFault}
    (hts : Within on ts) (h : expect t sign ts = .error e) : on e.line := by
  cases ts with
  | nil => exact absurd hts.ended List.not_mem_nil
  | cons p rest =>
    rw [expect] at h
    split at h
    · cases h
    · cases h
      exact hts.head

theorem keeps_moreTexts (h : Within on ts) : Keeps on (moreTexts ts) := by
  fun_induction moreTexts ts with
  | case1 _ _ _ _ _ hmore ih => exact (ih ((h.tail (by simp)).tail (by simp))).error hmore
  | case2 _ _ _ _ _ _ hmore ih => exact (ih ((h.tail (by simp)).tail (by simp))).ok hmore
  | case3 => exact (h.tail (by simp)).next
  | case4 => exact h

theorem keeps_closedArguments (h : Within on ts) : Keeps on (closedArguments ts) := by
  unfold closedArguments
  split
  · exact h.tail (by simp)
  · have hmore := keeps_moreTexts (h.tail (by simp))
    split
    · rename_i hfault
      exact hmore.error hfault
    · rename_i hread
      have hrest := hmore.ok hread
      split
      · rename_i hfault
        exact line_of_expect hrest hfault
      · rename_i hclose
        exact within_of_expect hrest hclose (by simp)
  · exact h.next

theorem keeps_arguments (h : Within on ts) : Keeps on (arguments ts) := by
  unfold arguments
  split
  · exact keeps_closedArguments (h.tail (by simp))
  · exact h

theorem keeps_call (check : String → Checked Unit) (h : Within on ts) :
    Keeps on (call check ts) := by
  unfold call
  split
  · have harguments := keeps_arguments (h.tail (by simp))
    split
    · rename_i hfault
      exact harguments.error hfault
    · rename_i hread
      split
      · rename_i hfault
        rw [Keeps, line_of_onLine hfault]
        exact h.head
      · exact harguments.ok hread
  · exact h.next

theorem keeps_moreVerbs (check : String → Checked Unit) (h : Within on ts) :
    Keeps on (moreVerbs check ts) := by
  fun_induction moreVerbs check ts with
  | case1 _ _ _ hfault => exact (keeps_call check (h.tail (by simp))).error hfault
  | case2 _ _ _ _ hcall _ _ hfault ih =>
    exact (ih ((keeps_call check (h.tail (by simp))).ok hcall)).error hfault
  | case3 _ _ _ _ hcall _ _ _ hmore ih =>
    exact (ih ((keeps_call check (h.tail (by simp))).ok hcall)).ok hmore
  | case4 => exact h

theorem keeps_verbs (check : String → Checked Unit) (h : Within on ts) :
    Keeps on (verbs check ts) := by
  unfold verbs
  split
  · exact h
  · have hcall := keeps_call check h
    split
    · rename_i hfault
      exact hcall.error hfault
    · rename_i hread
      have hmore := keeps_moreVerbs check (hcall.ok hread)
      split
      · rename_i hfault
        exact hmore.error hfault
      · rename_i hmore'
        exact hmore.ok hmore'

theorem keeps_action (check : String → Checked Unit) (h : Within on ts) :
    Keeps on (action check ts) := by
  unfold action
  split
  · split
    · rename_i hfault
      rw [Keeps, line_of_onLine hfault]
      exact h.head
    · have hpattern := h.tail (by simp)
      split
      · rename_i hfault
        exact line_of_expect hpattern hfault
      · rename_i hopen
        have hverbs := keeps_verbs check (within_of_expect hpattern hopen (by simp))
        split
        · rename_i hfault
          exact hverbs.error hfault
        · rename_i hread
          split
          · rename_i hfault
            exact line_of_expect (hverbs.ok hread) hfault
          · rename_i hclose
            split
            · exact h.head
            · exact within_of_expect (hverbs.ok hread) hclose (by simp)
  · exact h.next

theorem keeps_arms (check : String → Checked Unit) (found : NameMap Action) (h : Within on ts) :
    Keeps on (arms check found ts) := by
  fun_induction arms check found ts with
  | case1 => exact h.tail (by simp)
  | case2 _ _ _ _ _ hfault => exact (keeps_action check (h.tail (by simp))).error hfault
  | case3 => exact h.head
  | case4 _ _ _ _ _ _ haction _ _ ih =>
    exact ih ((keeps_action check (h.tail (by simp))).ok haction)
  | case5 => exact h.next

theorem keeps_caseMatch (check : String → Checked Unit) (h : Within on ts) :
    Keeps on (caseMatch check ts) := by
  unfold caseMatch
  split
  · have hsubject := h.tail (by simp)
    split
    · rename_i hfault
      exact line_of_expect hsubject hfault
    · rename_i hopen
      have harms := keeps_arms check .empty
        (within_of_expect hsubject hopen (by simp))
      split
      · rename_i hfault
        exact harms.error hfault
      · rename_i hread
        exact harms.ok hread
  · exact h.next

theorem keeps_leading (check : String → Checked Unit) (h : Within on ts) :
    Keeps on (leading check ts) := by
  unfold leading
  split
  · rename_i hcase
    cases ts with
    | nil => exact absurd h.ended List.not_mem_nil
    | cons p rest =>
      have hword : p.token ≠ .done := by
        intro hdone
        cases hdone.symm.trans hcase
      exact (keeps_caseMatch check (h.tail hword)).map
  · exact (keeps_action check h).map

theorem line_of_ofTokens {e : AtLine ExpressionFault} (hts : Within on ts)
    (h : ofTokens check ts = .error e) : on e.line := by
  have hleading := keeps_leading check hts
  unfold ofTokens at h
  split at h
  · rename_i hfault
    cases h
    exact hleading.error hfault
  · rename_i hread
    split at h
    · cases h
    · cases h
      exact (hleading.ok hread).next

end Readers

/-- A fault of a text is on one of its lines, counted by the newlines that the text holds. -/
theorem between_of_fault {text : String} {line : Nat} {e : AtLine ExpressionFault}
    (h : ofText text line = .error e) : Between line (newlines text.toList) e.line := by
  unfold ofText ofTextWith at h
  split at h
  · rename_i hfault
    cases h
    exact Token.between_of_fault hfault
  · rename_i htokens
    exact line_of_ofTokens (Token.within_ofText htokens) h

end Expression

end PromptScript
