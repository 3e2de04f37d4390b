import PromptScript.CommandLine.Basic

/-!
# Main

The program: it reads the directory in which it runs, and everything below it, and hands that to the
command line. A link that leads out of the directory leads nowhere.
-/

namespace PromptScript

/-- The target of a link at some depth below the top, from its real path. -/
def linkTarget (top : String) (depth : Nat) (real : String) : String :=
  match afterOpening? (top ++ "/").toList real.toList with
  | some inside => String.join (List.replicate depth "../") ++ String.ofList inside
  | none => real

/-- What an action yields; `node` if the system refuses it. -/
def orLocked (node : FileNode) (read : IO FileNode) : IO (Option FileNode) := do
  try return some (← read)
  catch _ => return some node

/-- Reads what stands at an entry; `none` if it is neither a file nor a directory nor a link, or a
link that leads nowhere. -/
partial def readNode (top : String) (depth : Nat) (e : IO.FS.DirEntry) : IO (Option FileNode) := do
  try
    match (← e.path.symlinkMetadata).type with
    | .file => orLocked .lockedFile do return .file (← IO.FS.readBinFile e.path)
    | .symlink =>
      let target := linkTarget top depth (← IO.FS.realPath e.path).toString
      return some (.link (textBytes target))
    | .dir => orLocked .lockedDirectory do
      let entries ← (← e.path.readDir).toList.filterMapM fun e => do
        return (← readNode top (depth + 1) e).map fun node => (textBytes e.fileName, node)
      return .directory entries
    | .other => return none
  catch _ => return none

def readHere : IO Place := do
  let top ← IO.currentDir
  let real := (← IO.FS.realPath top).toString
  let entries ← (← top.readDir).toList.filterMapM fun e => do
    return (← readNode real 0 e).map fun node => (textBytes e.fileName, node)
  return { entries := entries }

end PromptScript

def main (arguments : List String) : IO UInt32 := do
  let outcome := PromptScript.runCommandLine (← PromptScript.readHere) arguments
  (← IO.getStdout).putStr outcome.output
  (← IO.getStderr).putStr outcome.errors
  return outcome.code.toUInt32
