import Mathlib.Data.List.Sort
import PromptScript.Pipeline.Order

/-!
# Proofs.Sorting

Sorting by insertion is the insertion sort of the library, so sorting items loses none and adds none.
-/

namespace PromptScript

theorem sortBy_eq_insertionSort {α : Type u} (le : α → α → Bool) (l : List α) :
    sortBy le l = l.insertionSort (le · ·) := by
  induction l with
  | nil => rfl
  | cons a rest ih =>
    rw [sortBy, ih, List.insertionSort_cons]
    induction rest.insertionSort (le · ·) with
    | nil => rfl
    | cons b more ih => rw [insertBy, List.orderedInsert_cons, ih]

theorem sortBy_perm {α : Type u} (le : α → α → Bool) (l : List α) : (sortBy le l).Perm l := by
  rw [sortBy_eq_insertionSort]
  exact List.perm_insertionSort (le · ·) l

theorem sortItems_perm (orders : List SortOrder) (items : List String) :
    (sortItems orders items).Perm items := sortBy_perm _ items

end PromptScript
