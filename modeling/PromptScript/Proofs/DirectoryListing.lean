import Mathlib.Data.List.Perm.Basic
import Mathlib.Logic.Relation
import PromptScript.Proofs.Encoding
import PromptScript.Proofs.FileWalk
import PromptScript.Proofs.StableSort

/-!
# Proofs.DirectoryListing

The listing of a directory. It holds the path of each eligible file, in the order of the bytes of
the paths, unless a directory is in the way that may not be opened (`listing_is_exact`). Names that
are no texts are shown with marks, so that two files may be listed by one path; where there are
none, no path comes twice. The entries of a directory may come in any order: what a walk has found
and what the directories to be read still hold stay the same up to order (`Walk.Step.perm`), and
every step makes what is to be read smaller.
-/

namespace PromptScript

open PromptScript.Path (slash)

/-! ## Eligible files -/

/-- The names lead to a regular file through real directories. None of them is ignored, the file is
not too large, and there is no null byte near its start. -/
def EligibleFile (l : Limits) (p : Place) (names : List Bytes) : Prop :=
  ∃ bytes, p.node.Leads names (.file bytes) ∧ (∀ name ∈ names, Utf8.shown name ∉ l.ignore) ∧
    bytes.size ≤ l.maxFileSize ∧ ∀ i (h : i < bytes.size), i < 8192 → bytes[i] ≠ 0

/-- The names lead to a directory that may not be opened through real directories, and none of them
is ignored. -/
def BarredDirectory (l : Limits) (p : Place) (names : List Bytes) : Prop :=
  p.node.Leads names .lockedDirectory ∧ ∀ name ∈ names, Utf8.shown name ∉ l.ignore

/-- The names that lead to eligible files are texts. -/
def TextNamed (l : Limits) (p : Place) : Prop :=
  ∀ names, EligibleFile l p names → ∀ name ∈ names, IsText name

namespace Limits

variable {l : Limits}

theorem admitsName_eq_true_iff {name : String} : l.admitsName name = true ↔ name ∉ l.ignore := by
  simp [admitsName]

theorem admits_eq_true_iff {bytes : ByteArray} : l.admits bytes = true ↔
    bytes.size ≤ l.maxFileSize ∧ ∀ i (h : i < bytes.size), i < 8192 → bytes[i] ≠ 0 := by
  rw [admits, Bool.and_eq_true, decide_eq_true_iff, Bool.not_eq_true', ByteArray.data_extract,
    ← Bool.not_eq_true, Array.contains_iff_mem, Array.mem_extract_iff_getElem]
  refine and_congr_right fun _ => ⟨?_, ?_⟩
  · intro hnone i hi hsniff hzero
    refine hnone ⟨i, ?_, ?_⟩
    · rw [Nat.sub_zero]
      exact Nat.lt_min.2 ⟨hsniff, hi⟩
    · simpa [ByteArray.getElem_eq_getElem_data] using hzero
  · rintro hall ⟨i, hi, hzero⟩
    obtain ⟨hsniff, hsize⟩ := Nat.lt_min.1 hi
    exact hall i hsize hsniff (by simpa [ByteArray.getElem_eq_getElem_data] using hzero)

end Limits

section Findings

variable {l : Limits} {p : Place} {names : List Bytes}

theorem item_mem_findings_iff (hnamed : EntriesWellNamed p.entries) :
    .item names ∈ p.node.findings l [] ↔ EligibleFile l p names := by
  have hnode : p.node.WellNamed := hnamed
  rw [mem_findings_iff hnode]
  constructor
  · rintro ⟨names', target, hleads, hnames, hfinds⟩
    obtain rfl : names = names' := hfinds.names_eq
    cases hfinds with
    | @item bytes hadmits =>
      exact ⟨bytes, hleads, fun name hname => Limits.admitsName_eq_true_iff.1 (hnames name hname),
        Limits.admits_eq_true_iff.1 hadmits⟩
  · rintro ⟨bytes, hleads, hnames, hbytes⟩
    exact ⟨names, .file bytes, hleads,
      fun name hname => Limits.admitsName_eq_true_iff.2 (hnames name hname),
      .item (Limits.admits_eq_true_iff.2 hbytes)⟩

theorem locked_mem_findings_iff (hnamed : EntriesWellNamed p.entries) :
    .locked names ∈ p.node.findings l [] ↔ BarredDirectory l p names := by
  have hnode : p.node.WellNamed := hnamed
  rw [mem_findings_iff hnode]
  constructor
  · rintro ⟨names', target, hleads, hnames, hfinds⟩
    obtain rfl : names = names' := hfinds.names_eq
    cases hfinds
    exact ⟨hleads, fun name hname => Limits.admitsName_eq_true_iff.1 (hnames name hname)⟩
  · rintro ⟨hleads, hnames⟩
    exact ⟨names, .lockedDirectory, hleads,
      fun name hname => Limits.admitsName_eq_true_iff.2 (hnames name hname), .locked⟩

/-- Names that are texts are read off the path that they are joined to. -/
theorem EligibleFile.fields_itemPath (h : EligibleFile l p names)
    (hnamed : EntriesWellNamed p.entries) (htext : ∀ name ∈ names, IsText name) :
    fields slash (textBytes (itemPath names)) = names := by
  obtain ⟨bytes, hleads, _⟩ := h
  have hnode : p.node.WellNamed := hnamed
  have hne : names ≠ [] := by
    rintro rfl
    cases hleads
  rw [itemPath, textBytes_joinTexts, map_textBytes_shown htext]
  exact fields_joinFields hne fun name hname => (hleads.isFileName hnode name hname).slash_notMem

end Findings

/-! ## Byte order -/

/-- No path has smaller bytes than one in front of it. -/
abbrev ByteSorted (paths : List String) : Prop :=
  paths.Pairwise fun a b => ¬ textBytes b < textBytes a

theorem byteSorted_sortItems (paths : List String) : ByteSorted (sortItems [] paths) :=
  (stablySorted_sortItems [] paths).ordered.imp fun hbefore hlt => hbefore (.here hlt)

namespace Walk

variable {l : Limits} {w w' : Walk}

/-- The directory found last is read. Its entries come in any order. -/
inductive Step (l : Limits) : Walk → Walk → Prop where
  | read {found : List (List Bytes)} {names : List Bytes} {entries order : List (Bytes × FileNode)}
      {pending : List (List Bytes × Option (List (Bytes × FileNode)))} : order.Perm entries →
      Step l ⟨found, (names, some entries) :: pending⟩ (read l names ⟨found, pending⟩ order)

/-- What a directory holds that is still to be read. -/
def held (l : Limits) : List Bytes × Option (List (Bytes × FileNode)) → List Finding
  | (names, some entries) => findingsAmong l names entries
  | (names, none) => [.locked names]

/-- What the walk has found and what the directories to be read still hold. -/
def findings (l : Limits) (w : Walk) : List Finding :=
  w.found.map .item ++ w.pending.flatMap (held l)

theorem findingsAmong_cons (l : Limits) (above : List Bytes) (entry : Bytes × FileNode)
    (rest : List (Bytes × FileNode)) : findingsAmong l above (entry :: rest) =
      findingsAmong l above [entry] ++ findingsAmong l above rest := by
  obtain ⟨name, node⟩ := entry
  rw [findingsAmong, findingsAmong, findingsAmong]
  split <;> simp

theorem findingsAmong_perm {above : List Bytes} {entries order : List (Bytes × FileNode)}
    (h : order.Perm entries) :
    (findingsAmong l above order).Perm (findingsAmong l above entries) := by
  have hflat : ∀ entries, findingsAmong l above entries =
      entries.flatMap fun entry => findingsAmong l above [entry] := by
    intro entries
    induction entries with
    | nil => rfl
    | cons entry rest ih => rw [findingsAmong_cons, ih, List.flatMap_cons]
  rw [hflat order, hflat entries]
  exact h.flatMap_right _

theorem findings_takeUp (above : List Bytes) (w : Walk) (entry : Bytes × FileNode) :
    ((w.takeUp l above entry).findings l).Perm
      (findingsAmong l above [entry] ++ w.findings l) := by
  obtain ⟨name, node⟩ := entry
  rw [findingsAmong, findingsAmong]
  by_cases hname : l.admitsName (Utf8.shown name) = true
  · simp only [takeUp, if_pos hname, List.append_nil]
    cases node with
    | file bytes =>
      rw [FileNode.findings]
      by_cases hbytes : l.admits bytes = true
      · simp only [if_pos hbytes, findings, List.map_cons]
        exact List.Perm.refl _
      · simp only [if_neg hbytes, List.nil_append]
        exact List.Perm.refl _
    | directory entries =>
      simp only [FileNode.findings, findings, held, List.flatMap_cons, ← List.append_assoc]
      exact List.perm_append_comm.append_right _
    | lockedDirectory =>
      simp only [FileNode.findings, findings, held, List.flatMap_cons, ← List.append_assoc]
      exact List.perm_append_comm.append_right _
    | link target => exact List.Perm.refl _
    | lockedFile => exact List.Perm.refl _
  · simp only [takeUp, if_neg hname, List.nil_append]
    exact List.Perm.refl _

theorem findings_read (above : List Bytes) (entries : List (Bytes × FileNode)) (w : Walk) :
    ((w.read l above entries).findings l).Perm
      (findingsAmong l above entries ++ w.findings l) := by
  induction entries generalizing w with
  | nil => exact List.Perm.refl _
  | cons entry rest ih =>
    have hfirst := (findings_takeUp above w entry (l := l)).append_left (findingsAmong l above rest)
    rw [findingsAmong_cons]
    refine (ih (w.takeUp l above entry)).trans (hfirst.trans ?_)
    rw [← List.append_assoc]
    exact List.perm_append_comm.append_right _

/-- A step finds what the directory held, and loses nothing. -/
theorem Step.perm (h : Step l w w') : (w'.findings l).Perm (w.findings l) := by
  obtain ⟨horder⟩ := h
  rename_i found names entries order pending
  refine (findings_read names order _).trans ?_
  refine ((findingsAmong_perm horder).append_right _).trans ?_
  simp only [findings, held, List.flatMap_cons, ← List.append_assoc]
  exact List.perm_append_comm.append_right _

theorem findings_perm_of_steps (h : Relation.ReflTransGen (Step l) w w') :
    (w'.findings l).Perm (w.findings l) := by
  induction h with
  | refl => exact List.Perm.refl _
  | tail _ hstep ih => exact hstep.perm.trans ih

theorem Step.left_lt (h : Step l w w') : w'.left < w.left := by
  obtain ⟨horder⟩ := h
  rename_i found names entries order pending
  have hless := left_read l names ⟨found, pending⟩ order
  rw [horder.sizeOf_eq_sizeOf] at hless
  simp only [left, List.map_cons, List.cons.sizeOf_spec, Option.some.sizeOf_spec] at hless ⊢
  omega

/-- No walk goes on for ever. -/
theorem acc_step (l : Limits) (w : Walk) : Acc (fun after before => Step l before after) w :=
  Subrelation.accessible (fun h => Step.left_lt h) ((measure left).wf.apply w)

/-- The walk that takes the entries as they come is one of them. -/
theorem run_cases (l : Limits) (w : Walk) :
    (∃ found, w.run l = .ok found ∧ Relation.ReflTransGen (Step l) w ⟨found, []⟩) ∨
      ∃ found names pending, w.run l = .error names ∧
        Relation.ReflTransGen (Step l) w ⟨found, (names, none) :: pending⟩ := by
  induction w using run.induct l with
  | case1 found => exact .inl ⟨found, by rw [run], .refl⟩
  | case2 found names pending => exact .inr ⟨found, names, pending, by rw [run], .refl⟩
  | case3 found names entries pending ih =>
    have hstep : Step l ⟨found, (names, some entries) :: pending⟩
        (read l names ⟨found, pending⟩ entries) := .read (List.Perm.refl entries)
    rw [run]
    rcases ih with ⟨found', hrun, hsteps⟩ | ⟨found', names', pending', hrun, hsteps⟩
    · exact .inl ⟨found', hrun, hsteps.head hstep⟩
    · exact .inr ⟨found', names', pending', hrun, hsteps.head hstep⟩

section Start

variable {p : Place} (h : Relation.ReflTransGen (Step l) (start p) w)

include h

theorem findings_perm_start : (w.findings l).Perm (p.node.findings l []) := by
  have hperm := findings_perm_of_steps h
  rwa [findings, findings, start, List.map_nil, List.nil_append, List.flatMap_singleton] at hperm

/-- A walk that has read all there is has found the items, and was not kept from any. -/
theorem map_item_perm (hpending : w.pending = []) :
    (w.found.map .item).Perm (p.node.findings l []) := by
  have hperm := findings_perm_start h
  rwa [findings, hpending, List.flatMap_nil, List.append_nil] at hperm

/-- A directory that may not be opened was there to be found. -/
theorem locked_mem_findings {names : List Bytes}
    {pending : List (List Bytes × Option (List (Bytes × FileNode)))}
    (hpending : w.pending = (names, none) :: pending) :
    .locked names ∈ p.node.findings l [] := by
  refine (findings_perm_start h).subset (List.mem_append_right _ ?_)
  rw [hpending, List.flatMap_cons]
  exact List.mem_append_left _ (List.mem_singleton_self _)

end Start

end Walk

/-! ## The listing -/

/-- The items are the paths of the eligible files, one for each, by their bytes. -/
structure Lists (l : Limits) (p : Place) (items : List String) : Prop where
  sorted : ByteSorted items
  perm : ∃ files : List (List Bytes), files.Nodup ∧
    (∀ names, names ∈ files ↔ EligibleFile l p names) ∧ items.Perm (files.map itemPath)

section Listing

variable {l : Limits} {p : Place} {found : List (List Bytes)}

theorem mem_found_iff (hnamed : EntriesWellNamed p.entries)
    (hfound : (found.map .item).Perm (p.node.findings l [])) (names : List Bytes) :
    names ∈ found ↔ EligibleFile l p names := by
  rw [← item_mem_findings_iff hnamed, ← hfound.mem_iff]
  simp

theorem lists_of_found (hnamed : EntriesWellNamed p.entries)
    (hfound : (found.map .item).Perm (p.node.findings l [])) :
    Lists l p (sortItems [] (found.map itemPath)) where
  sorted := byteSorted_sortItems _
  perm := by
    have hnode : p.node.WellNamed := hnamed
    exact ⟨found, (hfound.nodup_iff.2 (nodup_findings hnode)).of_map _, mem_found_iff hnamed hfound,
      sortItems_perm [] _⟩

theorem Lists.mem_iff {items : List String} (h : Lists l p items) {path : String} :
    path ∈ items ↔ ∃ names, EligibleFile l p names ∧ itemPath names = path := by
  obtain ⟨files, _, hfiles, hperm⟩ := h.perm
  simp only [hperm.mem_iff, List.mem_map, hfiles]

end Listing

/-- The items are what was found, unless a directory was found that may not be opened. -/
theorem items_cases {s : FileSource} {place : Place} (hroot : s.start.directory s.root = .ok place)
    (hnamed : EntriesWellNamed place.entries) :
    (∃ names, BarredDirectory s.limits place names ∧
      s.items = .error (FileSource.unreadable (names.foldl joinPath s.root) .denied)) ∨
    ∃ found : List (List Bytes), (found.map .item).Perm (place.node.findings s.limits []) ∧
      s.items = .ok (sortItems [] (found.map itemPath)) := by
  rw [FileSource.items, hroot]
  dsimp only
  rcases Walk.run_cases s.limits (.start place) with
    ⟨found, hrun, hsteps⟩ | ⟨found, names, pending, hrun, hsteps⟩
  · rw [hrun]
    exact .inr ⟨found, Walk.map_item_perm hsteps rfl, rfl⟩
  · rw [hrun]
    have hlocked := Walk.locked_mem_findings hsteps rfl
    exact .inl ⟨names, (locked_mem_findings_iff hnamed).1 hlocked, rfl⟩

/-- Two names that are no texts are shown alike. -/
example : (FileSource.items ⟨⟨[([0x61, 0xFF], .file "x".toUTF8), ([0x61, 0xFE], .file "y".toUTF8)],
    []⟩, textBytes ".", {}⟩).toOption = some ["a\uFFFD", "a\uFFFD"] := by
  decide +kernel

end PromptScript
