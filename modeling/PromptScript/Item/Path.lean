import PromptScript.Text.Fields
import PromptScript.Text.Utf8

/-!
# Item.Path

Paths as the file system has them: bytes, with names between slashes. Empty names and `.` are passed
over, except a slash or a `.` at the very start.
-/

namespace PromptScript.Path

def slash : UInt8 := 47

def dot : UInt8 := 46

/-- The name of the directory above. -/
def dots : Bytes := [dot, dot]

/-- The start of a path that stays even if no name precedes it: a slash, or a `.` that is the whole
first name. -/
def opening (path : Bytes) : Bytes :=
  if path.head? = some slash then [slash]
  else if (fields slash path).head? = some [dot] then [dot]
  else []

/-- Whether a name stands for nothing inside a path. -/
def isIdle (name : Bytes) : Bool := name.isEmpty || name == [dot]

/-- The names of a path, the last one that stands for something in front. -/
def namesBack (path : Bytes) : List Bytes :=
  (fields slash (path.drop (opening path).length)).reverse.dropWhile isIdle

/-- The last name of a path. One that ends in `..` has none. -/
def fileName? (path : Bytes) : Option Bytes :=
  match namesBack path with
  | [] => none
  | last :: _ => if last = dots then none else some last

/-- The path that leads to the last name. -/
def parent? (path : Bytes) : Option Bytes :=
  match namesBack path with
  | [] => if opening path = [dot] then some [] else none
  | _ :: before =>
    some (opening path ++ joinFields [slash] (before.dropWhile isIdle).reverse)

/-- The parts of a name before and after its last dot. A name whose only dot comes first is not
cut. -/
def cutExtension (name : Bytes) : Bytes × Option Bytes :=
  match name.reverse.dropWhile (· ≠ dot) with
  | [] => (name, none)
  | [_] => (name, none)
  | _ :: stem => (stem.reverse, some (name.reverse.takeWhile (· ≠ dot)).reverse)

def stem? (path : Bytes) : Option Bytes :=
  (fileName? path).map fun name => (cutExtension name).1

def extension? (path : Bytes) : Option Bytes :=
  (fileName? path).bind fun name => (cutExtension name).2

end PromptScript.Path
