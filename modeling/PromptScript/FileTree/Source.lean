import PromptScript.FileTree.Basic
import PromptScript.Item.Source
import PromptScript.Pipeline.Order

/-!
# FileTree.Source

The files of a directory as items. A walk through the directory finds the files that it reaches
through real directories only, where no name on the way is ignored, that are not too large and that
do not look like binary files. An item is the path of such a file, as a text. A single path is
looked up instead.
-/

namespace PromptScript

structure Limits where
  /-- Names that are passed over, wherever they stand. -/
  ignore : List String := []
  /-- The size of the largest file, in bytes. -/
  maxFileSize : Nat := 1024 * 1024
  deriving DecidableEq, Repr

/-- How many bytes at the start of a file are looked at. -/
def sniffLength : Nat := 8 * 1024

namespace Limits

/-- Whether the contents of a file are those of an item: not too many, and no null byte near the
start. -/
def admits (l : Limits) (bytes : ByteArray) : Bool :=
  bytes.size ≤ l.maxFileSize && !(bytes.extract 0 sniffLength).data.contains 0

def admitsName (l : Limits) (name : String) : Bool := !l.ignore.contains name

/-- Whether no part of a path between slashes keeps it from being an item. -/
def admitsPath (l : Limits) (path : String) : Bool :=
  ((fields '/' path.toList).map String.ofList).all fun part =>
    part != "" && part != ".." && l.admitsName part

end Limits

/-- The path of a file below the root, from the names that lead to it. -/
def itemPath (names : List Bytes) : String := joinTexts "/" (names.map Utf8.shown)

/-- How far a walk has come, by names from the root. -/
structure Walk where
  found : List (List Bytes)
  /-- The directories that are still to be read with their entries, the one found last in front.
  There are no entries if the directory may not be opened. -/
  pending : List (List Bytes × Option (List (Bytes × FileNode)))

namespace Walk

def start (p : Place) : Walk := ⟨[], [([], some p.entries)]⟩

/-- Takes up one entry of a directory. Links are not followed. -/
def takeUp (l : Limits) (above : List Bytes) (w : Walk) (entry : Bytes × FileNode) : Walk :=
  let names := above ++ [entry.1]
  if l.admitsName (Utf8.shown entry.1) then
    match entry.2 with
    | .file bytes => if l.admits bytes then { w with found := names :: w.found } else w
    | .directory entries => { w with pending := (names, some entries) :: w.pending }
    | .lockedDirectory => { w with pending := (names, none) :: w.pending }
    | .link _ | .lockedFile => w
  else w

/-- Reads a directory: takes up its entries in their order. -/
def read (l : Limits) (above : List Bytes) (w : Walk) (entries : List (Bytes × FileNode)) : Walk :=
  entries.foldl (takeUp l above) w

/-- How much is still to be read. -/
noncomputable def left (w : Walk) : Nat := sizeOf (w.pending.map (·.2))

theorem left_takeUp (l : Limits) (above : List Bytes) (w : Walk) (entry : Bytes × FileNode) :
    (w.takeUp l above entry).left ≤ w.left + sizeOf entry := by
  obtain ⟨name, node⟩ := entry
  simp only [takeUp]
  split
  · cases node with
    | file bytes => dsimp only; split <;> exact Nat.le_add_right _ _
    | directory entries =>
      simp only [left, List.map_cons, List.cons.sizeOf_spec, Option.some.sizeOf_spec,
        Prod.mk.sizeOf_spec, FileNode.directory.sizeOf_spec]
      omega
    | lockedDirectory =>
      simp only [left, List.map_cons, List.cons.sizeOf_spec, Option.none.sizeOf_spec,
        Prod.mk.sizeOf_spec, FileNode.lockedDirectory.sizeOf_spec]
      omega
    | link target => exact Nat.le_add_right _ _
    | lockedFile => exact Nat.le_add_right _ _
  · exact Nat.le_add_right _ _

/-- The entries of a directory are less to be read than the directory. -/
theorem left_read (l : Limits) (above : List Bytes) (w : Walk) (entries : List (Bytes × FileNode)) :
    (w.read l above entries).left < w.left + sizeOf entries := by
  induction entries generalizing w with
  | nil =>
    rw [read, List.foldl_nil, List.nil.sizeOf_spec]
    exact Nat.lt_succ_self _
  | cons entry rest ih =>
    have hfirst := left_takeUp l above w entry
    have hrest := ih (w.takeUp l above entry)
    rw [read] at hrest
    rw [read, List.foldl_cons, List.cons.sizeOf_spec]
    omega

/-- Walks on until no directory is left, or until one may not be read. -/
def run (l : Limits) : Walk → Except (List Bytes) (List (List Bytes))
  | ⟨found, []⟩ => .ok found
  | ⟨_, (names, none) :: _⟩ => .error names
  | ⟨found, (names, some entries) :: pending⟩ => run l (read l names ⟨found, pending⟩ entries)
termination_by w => w.left
decreasing_by
  have hless := left_read l names ⟨found, pending⟩ entries
  simp only [left, List.map_cons, List.cons.sizeOf_spec, Option.some.sizeOf_spec] at hless ⊢
  omega

end Walk

structure FileSource where
  /-- Where paths are looked up from. -/
  start : Place
  root : Bytes
  limits : Limits

namespace FileSource

def unreadable (path : Bytes) (e : FileError) : SourceError :=
  .unreadable (Utf8.shown path) e.message

/-- The items, in the order of their paths. -/
def items (s : FileSource) : Except SourceError (List String) :=
  match s.start.directory s.root with
  | .error e => .error (unreadable s.root e)
  | .ok place =>
    match (Walk.start place).run s.limits with
    | .error names => .error (unreadable (names.foldl joinPath s.root) .denied)
    | .ok found => .ok (sortItems [] (found.map itemPath))

/-- Whether a path leads to a file that its contents and the names on the path let be an item. -/
def isItem (s : FileSource) (path : String) : Bool :=
  s.limits.admitsPath path &&
    match s.start.lookUp false (joinPath s.root (textBytes path)) with
    | .ok (.file bytes) => s.limits.admits bytes
    | _ => false

def toItemSource (s : FileSource) : ItemSource where
  enumerate _ := .finishes s.items
  isEligible _ path := .finishes (s.isItem path)

end FileSource

end PromptScript
