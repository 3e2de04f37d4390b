import PromptScript.Proofs.References
import PromptScript.Run.Body

/-!
# Proofs.BodyParts

Facts about the parts of a body.

* `wellParted_bodyParts`: no two plain parts follow each other, and each command is a call.
* `flatMap_written_bodyParts`: the parts joined give back the body.
* `pieces_eq_flatMap_bodyParts`: no reference reaches over the edge of a command, so the references
  of a body are those of its parts.
-/

namespace PromptScript

open PatternLibrary (isWord)

/-- A call as a command holds it: a word, and on the same line two parentheses that close at once. -/
def IsCall [PatternLibrary] (call : List Char) : Prop :=
  ∃ word inside, call = word ++ '(' :: inside ++ [')'] ∧ word ≠ [] ∧
    (∀ x ∈ word, isWord x = true) ∧ ∀ x ∈ inside, x ≠ ')' ∧ x ≠ '\n'

section Calls

variable [PatternLibrary]

theorem leadingCall?_eq_some {cs call : List Char} (h : leadingCall? cs = some call) :
    IsCall call ∧ ∃ rest, cs = call ++ rest := by
  unfold leadingCall? at h
  split at h
  · rename_i after hdrop
    simp only at h
    split at h
    · rename_i hcond
      obtain ⟨hword, hclose⟩ := hcond
      cases h
      have hcs : cs = cs.takeWhile isWord ++ '(' :: after := by
        rw [← hdrop, List.takeWhile_append_dropWhile]
      have hafter := List.takeWhile_append_dropWhile (p := fun c => c ≠ ')' && c ≠ '\n') (l := after)
      have hinside := List.all_eq_true.1 (List.all_takeWhile (p := fun c => c ≠ ')' && c ≠ '\n')
        (l := after))
      -- what is left after the inside starts with the parenthesis that closes the call
      generalize after.takeWhile (fun c => c ≠ ')' && c ≠ '\n') = inside at hclose hafter hinside ⊢
      generalize after.dropWhile (fun c => c ≠ ')' && c ≠ '\n') = rest at hafter
      rw [← hafter, List.getElem?_append_right (Nat.le_refl _), Nat.sub_self] at hclose
      refine ⟨⟨cs.takeWhile isWord, inside, rfl, hword,
        List.all_eq_true.1 List.all_takeWhile, ?_⟩, ?_⟩
      · intro x hx
        simpa using hinside x hx
      · cases rest with
        | nil => simp at hclose
        | cons c rest =>
          have hc : c = ')' := by simpa using hclose
          refine ⟨rest, ?_⟩
          conv => lhs; rw [hcs, ← hafter, hc]
          simp
    · cases h
  · cases h

theorem leadingCommand?_eq_some {cs call : List Char} (h : leadingCommand? cs = some call) :
    IsCall call ∧ ∃ rest, cs = (BodyPart.command call).written ++ rest := by
  obtain ⟨after, hmark, hcall⟩ := Option.bind_eq_some_iff.1 h
  obtain ⟨hform, rest, hrest⟩ := leadingCall?_eq_some hcall
  refine ⟨hform, rest, ?_⟩
  rw [afterOpening?_eq_some hmark, hrest, BodyPart.written, List.append_assoc]

end Calls

/-- A command starts with the sign of its mark. -/
theorem written_command_eq (call : List Char) :
    ∃ rest, (BodyPart.command call).written = '@' :: rest := ⟨_, rfl⟩

theorem written_command_ne_nil (call : List Char) : (BodyPart.command call).written ≠ [] := by
  obtain ⟨rest, hrest⟩ := written_command_eq call
  rw [hrest]
  exact List.cons_ne_nil _ _

section Parts

variable [PatternLibrary]

/-! ## Unfolding -/

theorem bodyPartsAfter_eq (skip : Nat) (cs : List Char) :
    bodyPartsAfter skip cs = bodyParts (cs.drop skip) := by
  induction cs generalizing skip with
  | nil => simp [bodyParts, bodyPartsAfter]
  | cons c rest ih =>
    cases skip with
    | zero => rfl
    | succ skip => simp [bodyPartsAfter, ih]

@[simp] theorem bodyParts_nil : bodyParts [] = [] := rfl

theorem bodyParts_of_plain {c : Char} {rest : List Char} (h : leadingCommand? (c :: rest) = none) :
    bodyParts (c :: rest) = consPlain c (bodyParts rest) := by
  simp only [bodyParts, bodyPartsAfter, h]

theorem bodyParts_of_command {call rest : List Char}
    (h : leadingCommand? ((BodyPart.command call).written ++ rest) = some call) :
    bodyParts ((BodyPart.command call).written ++ rest) = .command call :: bodyParts rest := by
  cases hw : (BodyPart.command call).written with
  | nil => exact absurd hw (written_command_ne_nil call)
  | cons c w =>
    rw [hw, List.cons_append] at h
    rw [List.cons_append, bodyParts, bodyPartsAfter, h]
    simp [bodyPartsAfter_eq, hw]

/-- Induction along the commands of a body and the characters between them. -/
theorem bodyParts_induction {motive : List Char → Prop} (nil : motive [])
    (plain : ∀ c rest, leadingCommand? (c :: rest) = none → motive rest → motive (c :: rest))
    (command : ∀ call rest, IsCall call →
      leadingCommand? ((BodyPart.command call).written ++ rest) = some call →
      motive rest → motive ((BodyPart.command call).written ++ rest))
    (cs : List Char) : motive cs := by
  induction hn : cs.length using Nat.strongRecOn generalizing cs with
  | _ n ih =>
    cases cs with
    | nil => exact nil
    | cons c rest =>
      cases h : leadingCommand? (c :: rest) with
      | none => exact plain c rest h (ih rest.length (by simp at hn; omega) rest rfl)
      | some call =>
        obtain ⟨hform, after, heq⟩ := leadingCommand?_eq_some h
        have hpos := List.length_pos_iff.2 (written_command_ne_nil call)
        have hlen : after.length < n := by
          rw [← hn, heq, List.length_append]; omega
        rw [heq] at h ⊢
        exact command call after hform h (ih after.length hlen after rfl)

/-! ## The parts and the body -/

omit [PatternLibrary] in
theorem flatMap_written_consPlain (c : Char) (parts : List BodyPart) :
    (consPlain c parts).flatMap BodyPart.written = c :: parts.flatMap BodyPart.written := by
  unfold consPlain
  split <;> rfl

/-- The parts joined together are the body. -/
theorem flatMap_written_bodyParts (cs : List Char) :
    (bodyParts cs).flatMap BodyPart.written = cs := by
  induction cs using bodyParts_induction with
  | nil => rfl
  | plain c rest h ih => rw [bodyParts_of_plain h, flatMap_written_consPlain, ih]
  | command call rest _ h ih => rw [bodyParts_of_command h, List.flatMap_cons, ih]

/-- Parts as a body falls into them: between two plain parts there is a command, and each command is
a call. -/
inductive WellParted : List BodyPart → Prop where
  | nil : WellParted []
  | last (text : List Char) : WellParted [.plain text]
  | command {call : List Char} {rest : List BodyPart} :
      IsCall call → WellParted rest → WellParted (.command call :: rest)
  | plain (text : List Char) {call : List Char} {rest : List BodyPart} :
      WellParted (.command call :: rest) → WellParted (.plain text :: .command call :: rest)

theorem WellParted.consPlain (c : Char) {parts : List BodyPart} (h : WellParted parts) :
    WellParted (consPlain c parts) := by
  cases h with
  | nil => exact .last [c]
  | last text => exact .last (c :: text)
  | command hcall hrest => exact .plain [c] (.command hcall hrest)
  | plain text hrest => exact .plain (c :: text) hrest

theorem wellParted_bodyParts (cs : List Char) : WellParted (bodyParts cs) := by
  induction cs using bodyParts_induction with
  | nil => exact .nil
  | plain c rest h ih => rw [bodyParts_of_plain h]; exact ih.consPlain c
  | command call rest hcall h ih => rw [bodyParts_of_command h]; exact .command hcall ih

end Parts

/-! ## References in parts -/

theorem parts_at : Reference.Parts '@' := by
  refine ⟨by decide, by decide, by decide⟩

theorem parts_close : Reference.Parts ')' := by
  refine ⟨by decide, by decide, by decide⟩

theorem pieces_close (rest : List Char) : pieces (')' :: rest) = .plain ')' :: pieces rest :=
  pieces_of_plain rfl

section Pieces

variable [PatternLibrary]

/-- A command begins and ends with a character that parts the text. -/
theorem pieces_command_append {call : List Char} (h : IsCall call) (rest : List Char) :
    pieces ((BodyPart.command call).written ++ rest) =
      pieces (BodyPart.command call).written ++ pieces rest := by
  obtain ⟨word, inside, rfl, _⟩ := h
  have hend : ∀ after, (BodyPart.command (word ++ '(' :: inside ++ [')'])).written ++ after =
      (commandMark ++ word ++ '(' :: inside) ++ ')' :: after := by
    intro after
    simp [BodyPart.written]
  rw [hend, pieces_append parts_close, pieces_close]
  rw [← List.append_nil (BodyPart.written _), hend, pieces_append parts_close, pieces_close]
  simp

theorem pieces_flatMap_written {parts : List BodyPart} (h : WellParted parts) :
    pieces (parts.flatMap BodyPart.written) = parts.flatMap fun b => pieces b.written := by
  induction h with
  | nil => rfl
  | last text => simp [BodyPart.written]
  | command hcall _ ih => rw [List.flatMap_cons, pieces_command_append hcall, ih, List.flatMap_cons]
  | @plain text call rest _ ih =>
    obtain ⟨mark, hmark⟩ := written_command_eq call
    have hafter : (BodyPart.command call :: rest).flatMap BodyPart.written =
        '@' :: (mark ++ rest.flatMap BodyPart.written) := by
      rw [List.flatMap_cons, hmark, List.cons_append]
    calc pieces ((BodyPart.plain text :: .command call :: rest).flatMap BodyPart.written)
        = pieces (text ++ (BodyPart.command call :: rest).flatMap BodyPart.written) := rfl
      _ = pieces text ++ pieces ((BodyPart.command call :: rest).flatMap BodyPart.written) := by
          rw [hafter, pieces_append parts_at]
      _ = (BodyPart.plain text :: .command call :: rest).flatMap fun b => pieces b.written := by
          rw [ih]; rfl

/-- The pieces of a body are the pieces of its parts. -/
theorem pieces_eq_flatMap_bodyParts (cs : List Char) :
    pieces cs = (bodyParts cs).flatMap fun b => pieces b.written := by
  rw [← pieces_flatMap_written (wellParted_bodyParts cs), flatMap_written_bodyParts]

end Pieces

end PromptScript
