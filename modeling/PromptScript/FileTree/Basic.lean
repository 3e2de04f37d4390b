import PromptScript.Item.Path

/-!
# FileTree.Basic

Trees of files, directories and symbolic links, and what a path leads to in them. A path is looked
up from a directory in the tree; nothing is known of what lies outside of the tree. Names are bytes,
not texts, and there are files and directories that the program may not open.
-/

namespace PromptScript

open PromptScript.Path (slash)

/-- A file, a directory or a symbolic link. -/
inductive FileNode where
  | file (bytes : ByteArray)
  | directory (entries : List (Bytes × FileNode))
  | link (target : Bytes)
  /-- A file that may not be opened. -/
  | lockedFile
  /-- A directory that may neither be listed nor passed through. -/
  | lockedDirectory

/-- Why a path does not lead to what was asked for. -/
inductive FileError where
  | notFound
  | denied
  | notDirectory
  | isDirectory
  | nameTooLong
  | tooManyLinks
  /-- The bytes of the file are no UTF-8 text. -/
  | notText
  deriving DecidableEq, Repr

def FileError.message : FileError → String
  | .notFound => "No such file or directory (os error 2)"
  | .denied => "Permission denied (os error 13)"
  | .notDirectory => "Not a directory (os error 20)"
  | .isDirectory => "Is a directory (os error 21)"
  | .nameTooLong => "File name too long (os error 36)"
  | .tooManyLinks => "Too many levels of symbolic links (os error 40)"
  | .notText => "stream did not contain valid UTF-8"

/-- A directory within a tree: its entries, and those of the directories above it, the nearest
first. -/
structure Place where
  entries : List (Bytes × FileNode)
  above : List (List (Bytes × FileNode)) := []

namespace Place

/-- The place outside of the tree. -/
def outside : Place := ⟨[], []⟩

def parent (p : Place) : Place :=
  match p.above with
  | [] => outside
  | entries :: above => ⟨entries, above⟩

def enter (p : Place) (entries : List (Bytes × FileNode)) : Place := ⟨entries, p.entries :: p.above⟩

end Place

inductive Target where
  | file (bytes : ByteArray)
  | directory (place : Place)
  | link (target : Bytes)
  | lockedFile
  | lockedDirectory

abbrev Lookup (α : Type) := Except FileError α

/-- The longest name of a file, in bytes. -/
def longestName : Nat := 255

/-- The names in a path; empty ones stand where slashes follow each other, begin or end it. -/
def pathNames (path : Bytes) : List Bytes := fields slash path

/-- Whether a path starts outside of the tree. -/
def isAbsolute (path : Bytes) : Bool := path.head? == some slash

/-- Looks up names one by one. A link on the way is left to `follow`, and so is one at the end if
`followLast` says so. -/
def lookUpNames (follow : Place → List Bytes → Lookup Target) (followLast : Bool) (p : Place) :
    List Bytes → Lookup Target
  | [] => .ok (.directory p)
  | name :: rest =>
    if Path.isIdle name then lookUpNames follow followLast p rest
    else if name = Path.dots then lookUpNames follow followLast p.parent rest
    else
      match p.entries.lookup name with
      | none => .error (if longestName < name.length then .nameTooLong else .notFound)
      | some (.file bytes) => if rest.isEmpty then .ok (.file bytes) else .error .notDirectory
      | some .lockedFile => if rest.isEmpty then .ok .lockedFile else .error .notDirectory
      | some (.directory entries) => lookUpNames follow followLast (p.enter entries) rest
      | some .lockedDirectory => if rest.isEmpty then .ok .lockedDirectory else .error .denied
      | some (.link target) =>
        if rest.isEmpty && !followLast then .ok (.link target)
        else follow (if isAbsolute target then .outside else p) (pathNames target ++ rest)

/-- Looks up names and follows at most so many links. -/
def lookUpWithin (links : Nat) (followLast : Bool) : Place → List Bytes → Lookup Target :=
  match links with
  | 0 => lookUpNames (fun _ _ => .error .tooManyLinks) followLast
  | links + 1 => lookUpNames (lookUpWithin links followLast) followLast

def mostLinks : Nat := 40

namespace Place

/-- What a path leads to; a link at its end is followed only if `followLast` says so. -/
def lookUp (p : Place) (followLast : Bool) (path : Bytes) : Lookup Target :=
  if path.isEmpty then .error .notFound
  else lookUpWithin mostLinks followLast (if isAbsolute path then .outside else p) (pathNames path)

def directory (p : Place) (path : Bytes) : Lookup Place :=
  match p.lookUp true path with
  | .error e => .error e
  | .ok (.directory place) => .ok place
  | .ok .lockedDirectory => .error .denied
  | .ok _ => .error .notDirectory

def readText (p : Place) (path : Bytes) : Lookup String :=
  match p.lookUp true path with
  | .error e => .error e
  | .ok (.file bytes) =>
    match String.fromUTF8? bytes with
    | some text => .ok text
    | none => .error .notText
  | .ok .lockedFile | .ok .lockedDirectory => .error .denied
  | .ok _ => .error .isDirectory

def isFile (p : Place) (path : Bytes) : Bool :=
  match p.lookUp true path with
  | .ok (.file _) | .ok .lockedFile => true
  | _ => false

end Place

def joinPath (above name : Bytes) : Bytes :=
  if above.isEmpty || above.getLast? == some slash then above ++ name else above ++ slash :: name

end PromptScript
