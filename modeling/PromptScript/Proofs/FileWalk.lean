import Mathlib.Data.List.Nodup
import PromptScript.FileTree.Source
import PromptScript.Proofs.FilePaths

/-!
# Proofs.FileWalk

What there is to be found in a directory. `FileNode.Leads` says which names lead where through
real directories. Below a node there are the files that are items and the directories that may not
be opened, each found by the names that lead to it if all of them are admitted
(`mem_findings_iff`), and found once (`nodup_findings`).
-/

namespace PromptScript

/-- A property of all nodes, proved of a directory from that of its entries. -/
theorem FileNode.induction {motive : FileNode → Prop} (file : ∀ bytes, motive (.file bytes))
    (link : ∀ target, motive (.link target)) (lockedFile : motive .lockedFile)
    (lockedDirectory : motive .lockedDirectory)
    (directory : ∀ entries, (∀ e ∈ entries, motive e.2) → motive (.directory entries))
    (node : FileNode) : motive node := by
  refine @FileNode.rec motive (fun entries => ∀ e ∈ entries, motive e.2) (fun e => motive e.2)
    file directory link lockedFile lockedDirectory ?_ ?_ ?_ node
  · exact fun e he => absurd he List.not_mem_nil
  · rintro first rest hfirst hrest e he
    rcases List.mem_cons.1 he with rfl | he
    · exact hfirst
    · exact hrest e he
  · exact fun _ _ h => h

mutual

/-- In every directory below the entries have names that they can have, and no two have the same. -/
def FileNode.WellNamed : FileNode → Prop
  | .directory entries => EntriesWellNamed entries
  | .file _ | .link _ | .lockedFile | .lockedDirectory => True

def EntriesWellNamed : List (Bytes × FileNode) → Prop
  | [] => True
  | (name, node) :: rest =>
    IsFileName name ∧ name ∉ rest.map Prod.fst ∧ node.WellNamed ∧ EntriesWellNamed rest

end

mutual

instance FileNode.decidableWellNamed : (node : FileNode) → Decidable node.WellNamed
  | .directory entries => decidableEntriesWellNamed entries
  | .file _ | .link _ | .lockedFile | .lockedDirectory => .isTrue trivial

instance decidableEntriesWellNamed :
    (entries : List (Bytes × FileNode)) → Decidable (EntriesWellNamed entries)
  | [] => .isTrue trivial
  | (name, node) :: rest =>
    have := node.decidableWellNamed
    have := decidableEntriesWellNamed rest
    inferInstanceAs (Decidable (IsFileName name ∧ name ∉ rest.map Prod.fst ∧ node.WellNamed ∧
      EntriesWellNamed rest))

end

namespace EntriesWellNamed

variable {entries : List (Bytes × FileNode)} {name : Bytes} {node : FileNode}

/-- An entry of that name is the only one. -/
theorem lookup_eq_some_iff (h : EntriesWellNamed entries) :
    entries.lookup name = some node ↔ (name, node) ∈ entries := by
  induction entries with
  | nil => simp
  | cons first rest ih =>
    obtain ⟨name', node'⟩ := first
    obtain ⟨_, hfresh, _, hrest⟩ := h
    rw [List.lookup_cons, List.mem_cons]
    by_cases heq : name = name'
    · subst heq
      have hnone : (name, node) ∉ rest := fun hmem => hfresh (List.mem_map_of_mem hmem)
      simp [hnone, eq_comm]
    · have hne : (name == name') = false := by simpa using heq
      simp [hne, heq, ih hrest]

theorem of_mem (h : EntriesWellNamed entries) (hmem : (name, node) ∈ entries) :
    IsFileName name ∧ node.WellNamed := by
  induction entries with
  | nil => cases hmem
  | cons first rest ih =>
    obtain ⟨name', node'⟩ := first
    obtain ⟨hname, _, hnode, hrest⟩ := h
    rcases List.mem_cons.1 hmem with heq | hmem
    · cases heq
      exact ⟨hname, hnode⟩
    · exact ih hrest hmem

end EntriesWellNamed

namespace FileNode

/-- The names lead from one node to the other through real directories. -/
inductive Leads : FileNode → List Bytes → FileNode → Prop where
  | here (node : FileNode) : Leads node [] node
  | enter {entries : List (Bytes × FileNode)} {name : Bytes} {names : List Bytes}
      {child node : FileNode} : entries.lookup name = some child → Leads child names node →
      Leads (.directory entries) (name :: names) node

theorem Leads.isFileName {node target : FileNode} {names : List Bytes}
    (h : node.Leads names target) (hnamed : node.WellNamed) : ∀ name ∈ names, IsFileName name := by
  induction h with
  | here node => exact fun name hname => absurd hname List.not_mem_nil
  | @enter entries name names child node hlookup _ ih =>
    have hentries : EntriesWellNamed entries := hnamed
    obtain ⟨hname, hchild⟩ := hentries.of_mem (hentries.lookup_eq_some_iff.1 hlookup)
    exact List.forall_mem_cons.2 ⟨hname, ih hchild⟩

end FileNode

/-- The place as a node. -/
def Place.node (p : Place) : FileNode := .directory p.entries

/-! ## Findings -/

/-- What a walk comes upon. -/
inductive Finding where
  /-- A file that is an item. -/
  | item (names : List Bytes)
  /-- A directory that may not be opened. -/
  | locked (names : List Bytes)
  deriving DecidableEq

def Finding.names : Finding → List Bytes
  | .item names => names
  | .locked names => names

mutual

/-- What is to be found below a node that the names lead to. -/
def FileNode.findings (l : Limits) (names : List Bytes) : FileNode → List Finding
  | .file bytes => if l.admits bytes then [.item names] else []
  | .directory entries => findingsAmong l names entries
  | .lockedDirectory => [.locked names]
  | .link _ | .lockedFile => []

def findingsAmong (l : Limits) (above : List Bytes) : List (Bytes × FileNode) → List Finding
  | [] => []
  | (name, node) :: rest =>
    if l.admitsName (Utf8.shown name) then
      node.findings l (above ++ [name]) ++ findingsAmong l above rest
    else findingsAmong l above rest

end

/-- What a node is to a walk that has come to it. -/
inductive Limits.Finds (l : Limits) (names : List Bytes) : FileNode → Finding → Prop where
  | item {bytes : ByteArray} : l.admits bytes = true → Finds l names (.file bytes) (.item names)
  | locked : Finds l names .lockedDirectory (.locked names)

section Findings

variable {l : Limits} {above : List Bytes} {f : Finding}

theorem Limits.Finds.names_eq {names : List Bytes} {node : FileNode} (h : l.Finds names node f) :
    f.names = names := by
  cases h <;> rfl

theorem mem_findingsAmong_iff {entries : List (Bytes × FileNode)} :
    f ∈ findingsAmong l above entries ↔
      ∃ e ∈ entries, l.admitsName (Utf8.shown e.1) = true ∧
        f ∈ e.2.findings l (above ++ [e.1]) := by
  induction entries with
  | nil => simp [findingsAmong]
  | cons first rest ih =>
    obtain ⟨name, node⟩ := first
    rw [findingsAmong]
    by_cases hname : l.admitsName (Utf8.shown name) = true
    · rw [if_pos hname, List.mem_append, ih]
      simp [hname]
    · rw [if_neg hname, ih]
      simp [hname]

/-- What is not a directory is found where it is, or not at all. -/
theorem mem_findings_iff_here {node : FileNode}
    (hhere : f ∈ node.findings l above ↔ l.Finds above node f)
    (hnone : ∀ entries, node ≠ .directory entries) :
    f ∈ node.findings l above ↔ ∃ names target, node.Leads names target ∧
      (∀ name ∈ names, l.admitsName (Utf8.shown name) = true) ∧
      l.Finds (above ++ names) target f := by
  rw [hhere]
  constructor
  · intro h
    exact ⟨[], node, .here node, fun _ hname => absurd hname List.not_mem_nil, by
      rwa [List.append_nil]⟩
  · rintro ⟨names, target, hleads, _, hfinds⟩
    cases hleads with
    | here => rwa [List.append_nil] at hfinds
    | enter => exact absurd rfl (hnone _)

theorem mem_findings_file_iff {bytes : ByteArray} :
    f ∈ (FileNode.file bytes).findings l above ↔ l.Finds above (.file bytes) f := by
  rw [FileNode.findings]
  constructor
  · intro h
    split at h
    · rename_i hadmits
      rw [List.mem_singleton.1 h]
      exact .item hadmits
    · cases h
  · intro h
    cases h with
    | item hadmits =>
      rw [if_pos hadmits]
      exact List.mem_singleton_self _

/-- Below a node that is found which admitted names lead to. -/
theorem mem_findings_iff {node : FileNode} (hnamed : node.WellNamed) :
    f ∈ node.findings l above ↔ ∃ names target, node.Leads names target ∧
      (∀ name ∈ names, l.admitsName (Utf8.shown name) = true) ∧
      l.Finds (above ++ names) target f := by
  induction node using FileNode.induction generalizing above with
  | file bytes =>
    exact mem_findings_iff_here mem_findings_file_iff (fun _ h => by cases h)
  | link target =>
    exact mem_findings_iff_here ⟨fun h => absurd h List.not_mem_nil, fun h => by cases h⟩
      (fun _ h => by cases h)
  | lockedFile =>
    exact mem_findings_iff_here ⟨fun h => absurd h List.not_mem_nil, fun h => by cases h⟩
      (fun _ h => by cases h)
  | lockedDirectory =>
    refine mem_findings_iff_here ⟨fun h => ?_, fun h => ?_⟩ (fun _ h => by cases h)
    · rw [List.mem_singleton.1 h]
      exact .locked
    · cases h
      exact List.mem_singleton_self _
  | directory entries ih =>
    have hentries : EntriesWellNamed entries := hnamed
    rw [FileNode.findings, mem_findingsAmong_iff]
    constructor
    · rintro ⟨⟨name, child⟩, hmem, hname, hfound⟩
      obtain ⟨names, target, hleads, hnames, hfinds⟩ :=
        (ih _ hmem (hentries.of_mem hmem).2).1 hfound
      refine ⟨name :: names, target, .enter (hentries.lookup_eq_some_iff.2 hmem) hleads,
        List.forall_mem_cons.2 ⟨hname, hnames⟩, ?_⟩
      rwa [List.append_assoc, List.singleton_append] at hfinds
    · rintro ⟨_, target, hleads, hnames, hfinds⟩
      cases hleads with
      | here => cases hfinds
      | @enter _ name names child _ hlookup hleads =>
        obtain ⟨hname, hnames⟩ := List.forall_mem_cons.1 hnames
        have hmem := hentries.lookup_eq_some_iff.1 hlookup
        refine ⟨(name, child), hmem, hname, (ih _ hmem (hentries.of_mem hmem).2).2
          ⟨names, target, hleads, hnames, ?_⟩⟩
        rwa [List.append_assoc, List.singleton_append]

/-! ## Nothing twice -/

theorem exists_names_of_mem_findings {node : FileNode} (hnamed : node.WellNamed)
    (h : f ∈ node.findings l above) : ∃ names, f.names = above ++ names := by
  obtain ⟨names, _, _, _, hfinds⟩ := (mem_findings_iff hnamed).1 h
  exact ⟨names, hfinds.names_eq⟩

theorem exists_names_of_mem_findingsAmong {entries : List (Bytes × FileNode)}
    (hnamed : EntriesWellNamed entries) (h : f ∈ findingsAmong l above entries) :
    ∃ name names, name ∈ entries.map Prod.fst ∧ f.names = above ++ name :: names := by
  obtain ⟨⟨name, node⟩, hmem, _, hfound⟩ := mem_findingsAmong_iff.1 h
  obtain ⟨names, hnames⟩ := exists_names_of_mem_findings (hnamed.of_mem hmem).2 hfound
  exact ⟨name, names, List.mem_map_of_mem hmem, by
    rw [hnames, List.append_assoc, List.singleton_append]⟩

theorem nodup_findingsAmong {entries : List (Bytes × FileNode)} (hnamed : EntriesWellNamed entries)
    (hnodes : ∀ e ∈ entries, (e.2.findings l (above ++ [e.1])).Nodup) :
    (findingsAmong l above entries).Nodup := by
  induction entries with
  | nil => exact List.nodup_nil
  | cons first rest ih =>
    obtain ⟨name, node⟩ := first
    obtain ⟨_, hfresh, hnode, hrest⟩ := hnamed
    obtain ⟨hfirst, hnodes⟩ := List.forall_mem_cons.1 hnodes
    rw [findingsAmong]
    split
    · refine List.Nodup.append hfirst (ih hrest hnodes) ?_
      -- what is below one entry and below another would be found by the names of both
      intro f hbelow hlater
      obtain ⟨names, heq⟩ := exists_names_of_mem_findings hnode hbelow
      obtain ⟨name', names', hname', heq'⟩ := exists_names_of_mem_findingsAmong hrest hlater
      rw [heq', List.append_assoc, List.singleton_append] at heq
      obtain ⟨rfl, _⟩ := List.cons.inj (List.append_cancel_left heq)
      exact hfresh hname'
    · exact ih hrest hnodes

theorem nodup_findings {node : FileNode} (hnamed : node.WellNamed) :
    (node.findings l above).Nodup := by
  induction node using FileNode.induction generalizing above with
  | file bytes =>
    rw [FileNode.findings]
    split
    · exact List.nodup_singleton _
    · exact List.nodup_nil
  | link target => exact List.nodup_nil
  | lockedFile => exact List.nodup_nil
  | lockedDirectory => exact List.nodup_singleton _
  | directory entries ih =>
    have hentries : EntriesWellNamed entries := hnamed
    rw [FileNode.findings]
    exact nodup_findingsAmong hentries fun e he => ih e he (hentries.of_mem he).2

end Findings

end PromptScript
