import Cutover.Cli.OnFiles
import Std.Time.DateTime.Timestamp

/-!
# The program

Reads the files below the working folder and the user's configuration, carries out the command
line on them, prints the lines and writes back the files that have changed.
-/
open Cutover

namespace Cutover.Program

/-- How deep folders are read. -/
def depth : Nat := 64

/-- Adds what is below a folder to a tree. Nothing may be done with a file that cannot be read. -/
def below : Nat → String → Place → FileTree → IO FileTree
  | 0, _, _, t => return t
  | n + 1, path, place, t => do
    let mut t := t
    for e in ← (← IO.FS.realPath path).readDir do
      let inner := Path.join path e.fileName
      let p := place ++ [e.fileName]
      if ← e.path.isDir then t ← below n inner p (t.set p .folder)
      else
        match ← (IO.FS.readBinFile inner).toBaseIO with
        | .ok content => t := t.set p (.file content)
        | .error _ => t := { t.add p (.file .empty) 0 with guarded := true }
    return t

/-- The tree with a folder and the folders above it. -/
def withFolder (t : FileTree) (p : Place) : FileTree :=
  (t.ensureFoldersAbove [] p.reverse).toOption.getD t

/-- Adds one file to a tree, if it is there. -/
def single (path : String) (t : FileTree) : IO FileTree := do
  try
    let content ← IO.FS.readBinFile path
    let p := Path.parts path
    return (withFolder t p.dropLast).set p (.file content)
  catch _ => return t

/-- What the program finds around it. -/
def surroundings : IO (Cli.Surroundings Unit) := do
  let folder := (← IO.currentDir).toString
  let cwd := Path.parts folder
  let userFolder := Config.userFolder (← IO.getEnv "XDG_CONFIG_HOME") (← IO.getEnv "HOME")
  let now ← Std.Time.Timestamp.now
  let found ← below depth folder cwd (withFolder FileTree.standard cwd)
  let files ← match userFolder with
    | some f => single (Config.userFile f) found
    | none => pure found
  return {
    services := .onFiles
    outside := ()
    files
    cwd
    now := ⟨now.toSecondsSinceUnixEpoch.val, 0⟩
    userFolder
    config := ← IO.getEnv "DW_MIGRATE_CONFIG" }

/-- Writes the files that were not there before, or not the same. -/
def writeBack (before after : FileTree) : IO Unit := do
  for (p, _) in after.places.reverse do
    let path := "/" ++ "/".intercalate p
    match after.get? p, before.get? p with
    | some .folder, some .folder => pure ()
    | some .folder, _ => IO.FS.createDirAll path
    | some (.file new), some (.file old) =>
      if new.data != old.data then IO.FS.writeBinFile path new
    | some (.file new), _ => IO.FS.writeBinFile path new
    | _, _ => pure ()

end Cutover.Program

def main (args : List String) : IO UInt32 := do
  let w ← Program.surroundings
  let result := Cli.run w args
  for line in result.lines do
    IO.println line
  Program.writeBack w.files result.files
  if let some message := result.error then
    IO.eprintln message
  return result.status.toUInt32
