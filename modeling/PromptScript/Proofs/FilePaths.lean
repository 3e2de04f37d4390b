import PromptScript.FileTree.Basic

/-!
# Proofs.FilePaths

What paths lead to. The names of two paths that are joined are looked up one after the other: if the
first path leads to a directory, the names of the second are looked up from there
(`lookUp_joinPath`). How many links are then left to follow depends on the first, so that what they
lead to is left open.
-/

namespace PromptScript

open PromptScript.Path (slash dot dots)

/-! ## Names -/

/-- A name that an entry of a directory can have. -/
structure IsFileName (name : Bytes) : Prop where
  ne_empty : name ≠ []
  ne_dot : name ≠ [dot]
  ne_dots : name ≠ dots
  slash_notMem : slash ∉ name

instance (name : Bytes) : Decidable (IsFileName name) :=
  decidable_of_iff (name ≠ [] ∧ name ≠ [dot] ∧ name ≠ dots ∧ slash ∉ name)
    ⟨fun ⟨hempty, hdot, hdots, hslash⟩ => ⟨hempty, hdot, hdots, hslash⟩,
      fun h => ⟨h.ne_empty, h.ne_dot, h.ne_dots, h.slash_notMem⟩⟩

theorem Path.isIdle_eq_true_iff {name : Bytes} : isIdle name = true ↔ name = [] ∨ name = [dot] := by
  simp [isIdle]

theorem IsFileName.not_isIdle {name : Bytes} (h : IsFileName name) : ¬ Path.isIdle name = true := by
  rw [Path.isIdle_eq_true_iff]
  exact not_or.2 ⟨h.ne_empty, h.ne_dot⟩

theorem pathNames_ne_nil (path : Bytes) : pathNames path ≠ [] := fields_ne_nil slash path

theorem pathNames_slash (above below : Bytes) :
    pathNames (above ++ slash :: below) = pathNames above ++ pathNames below :=
  fields_append_cons slash above below

theorem pathNames_ends (path : Bytes) : pathNames (path ++ [slash]) = pathNames path ++ [[]] :=
  pathNames_slash path []

/-- There is one slash between a path and what is joined to it. -/
theorem joinPath_eq {above : Bytes} (h : above ≠ []) (name : Bytes) :
    ∃ stem, (above = stem ∨ above = stem ++ [slash]) ∧
      joinPath above name = stem ++ slash :: name := by
  have hne : above.isEmpty = false := List.isEmpty_eq_false_iff.2 h
  rw [joinPath, hne, Bool.false_or]
  split
  · rename_i hlast
    obtain ⟨stem, rfl⟩ := List.getLast?_eq_some_iff.1 (beq_iff_eq.1 hlast)
    exact ⟨stem, .inr rfl, by rw [List.append_assoc, List.singleton_append]⟩
  · exact ⟨above, .inl rfl, rfl⟩

theorem isAbsolute_joinPath {root : Bytes} (h : root ≠ []) (path : Bytes) :
    isAbsolute (joinPath root path) = isAbsolute root := by
  have hbegins : ∃ rest, joinPath root path = root ++ rest := by
    obtain ⟨stem, rfl | rfl, hjoin⟩ := joinPath_eq h path
    · exact ⟨_, hjoin⟩
    · exact ⟨path, by rw [hjoin, List.append_assoc, List.singleton_append]⟩
  obtain ⟨rest, heq⟩ := hbegins
  rw [isAbsolute, isAbsolute, heq, List.head?_append, Option.or_of_isSome (by simpa using h)]

/-! ## Looking up -/

section LookUp

variable {p q : Place} {links : Nat} {followLast : Bool}

/-- Slashes that follow each other are as one. -/
theorem lookUpNames_slashes {follow : Place → List Bytes → Lookup Target} {name : Bytes}
    {below : List Bytes}
    (hfollow : ∀ p above,
      follow p (above ++ [] :: name :: below) = follow p (above ++ name :: below))
    (p : Place) (above : List Bytes) :
    lookUpNames follow followLast p (above ++ [] :: name :: below) =
      lookUpNames follow followLast p (above ++ name :: below) := by
  induction above generalizing p with
  | nil => rw [List.nil_append, List.nil_append, lookUpNames, if_pos (by rfl)]
  | cons first above ih =>
    have hrest : (above ++ [] :: name :: below).isEmpty = (above ++ name :: below).isEmpty := by
      cases above <;> rfl
    rw [List.cons_append, List.cons_append, lookUpNames, lookUpNames, ih, ih, hrest]
    cases p.entries.lookup first with
    | none => rfl
    | some node =>
      cases node with
      | file bytes => rfl
      | directory entries => simp only [ih]
      | link target => simp only [← List.append_assoc, hfollow]
      | lockedFile => rfl
      | lockedDirectory => rfl

theorem lookUpWithin_slashes (name : Bytes) (below : List Bytes) (p : Place)
    (above : List Bytes) :
    lookUpWithin links followLast p (above ++ [] :: name :: below) =
      lookUpWithin links followLast p (above ++ name :: below) := by
  induction links generalizing p above with
  | zero => exact lookUpNames_slashes (fun _ _ => rfl) p above
  | succ links ih => exact lookUpNames_slashes ih p above

/-- Where the one leads to a directory, the other looks up from there what comes below. A link that
it meets there is left to some `follow`. -/
def PassesTo (look look' : Place → List Bytes → Lookup Target) : Prop :=
  ∀ p above q, look p above = .ok (.directory q) →
    ∃ follow, ∀ below, below ≠ [] → look' p (above ++ below) = lookUpNames follow false q below

theorem passesTo_lookUpNames {follow follow' : Place → List Bytes → Lookup Target}
    (hfollow : PassesTo follow follow') :
    PassesTo (lookUpNames follow true) (lookUpNames follow' false) := by
  intro p above
  induction above generalizing p with
  | nil =>
    intro q h
    cases h
    exact ⟨follow', fun _ _ => rfl⟩
  | cons name above ih =>
    intro q h
    simp only [List.cons_append]
    rw [lookUpNames] at h
    simp only [lookUpNames]
    split at h
    · rename_i hskip
      simp only [if_pos hskip]
      exact ih p q h
    · rename_i hskip
      simp only [if_neg hskip]
      split at h
      · rename_i hdots
        simp only [if_pos hdots]
        exact ih p.parent q h
      · rename_i hdots
        simp only [if_neg hdots]
        cases hnode : p.entries.lookup name with
        | none => rw [hnode] at h; cases h
        | some node =>
          rw [hnode] at h
          cases node with
          | file bytes =>
            dsimp only at h
            split at h <;> cases h
          | lockedFile =>
            dsimp only at h
            split at h <;> cases h
          | lockedDirectory =>
            dsimp only at h
            split at h <;> cases h
          | directory entries => exact ih (p.enter entries) q h
          | link target =>
            simp only [Bool.not_true, Bool.and_false, Bool.false_eq_true, if_false] at h
            obtain ⟨later, hlater⟩ := hfollow _ _ q h
            refine ⟨later, fun below hbelow => ?_⟩
            have hmore : (above ++ below).isEmpty = false := by
              rw [List.isEmpty_eq_false_iff]
              exact List.append_ne_nil_of_right_ne_nil _ hbelow
            simp only [hmore, Bool.false_and, Bool.false_eq_true, if_false, ← List.append_assoc,
              hlater below hbelow]

theorem passesTo_lookUpWithin (links : Nat) :
    PassesTo (lookUpWithin links true) (lookUpWithin links false) := by
  induction links with
  | zero => exact passesTo_lookUpNames fun _ _ _ h => by cases h
  | succ links ih => exact passesTo_lookUpNames ih

theorem lookUp_eq_of_ne {path : Bytes} (h : path ≠ []) :
    p.lookUp followLast path = lookUpWithin mostLinks followLast
      (if isAbsolute path then .outside else p) (pathNames path) := by
  rw [Place.lookUp, if_neg (by simpa using h)]

theorem directory_eq_ok_iff {path : Bytes} :
    p.directory path = .ok q ↔ p.lookUp true path = .ok (.directory q) := by
  rw [Place.directory]
  constructor
  · intro h
    split at h
    · cases h
    · rename_i hlook
      cases h
      exact hlook
    · cases h
    · cases h
  · intro h
    rw [h]

/-- The names of a path that is joined to that of a directory are looked up from the directory. -/
theorem lookUp_joinPath {root : Bytes} (h : p.directory root = .ok q) :
    ∃ follow, ∀ path, p.lookUp false (joinPath root path) =
      lookUpNames follow false q (pathNames path) := by
  have hlook := directory_eq_ok_iff.1 h
  have hroot : root ≠ [] := by
    rintro rfl
    cases hlook
  rw [lookUp_eq_of_ne hroot] at hlook
  obtain ⟨follow, hfollow⟩ := passesTo_lookUpWithin mostLinks _ _ q hlook
  refine ⟨follow, fun path => ?_⟩
  rw [← hfollow _ (pathNames_ne_nil path)]
  obtain ⟨stem, hstem, hjoin⟩ := joinPath_eq hroot path
  have hne : joinPath root path ≠ [] := by
    rw [hjoin]
    exact List.append_ne_nil_of_right_ne_nil _ (List.cons_ne_nil _ _)
  rw [lookUp_eq_of_ne hne, isAbsolute_joinPath hroot, hjoin, pathNames_slash]
  rcases hstem with rfl | rfl
  · rfl
  · -- the slash at the end of the root leaves an empty name
    rw [pathNames_ends, List.append_assoc, List.singleton_append]
    cases hpath : pathNames path with
    | nil => exact absurd hpath (pathNames_ne_nil path)
    | cons name below => exact (lookUpWithin_slashes name below _ _).symm

end LookUp

end PromptScript
