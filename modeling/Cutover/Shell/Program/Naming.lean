import Cutover.Shell.Program.Making

/-!
# Parts of paths

The programs that print the last part of a path, and what comes before it.
-/
namespace Cutover.Shell

/-- The last part of a path without an ending, unless nothing would be left. -/
def baseName (path ending : String) : String :=
  let name := if path ≠ "" && path.toList.all (· == '/') then "/" else lastPart path
  if name ≠ ending && name.endsWith ending
  then String.ofList (name.toList.take (name.length - ending.length)) else name

def folderName (path : String) : String :=
  let slash (c : Char) : Bool := c == '/'
  let back := (path.toList.reverse.dropWhile slash).dropWhile (· ≠ '/')
  match (back.dropWhile slash).reverse with
  | [] => if path.startsWith "/" then "/" else "."
  | front => String.ofList front

def printBaseNames : Program := fun _ program args => do
  let u : Usage :=
    { letters := "az"
      valued := "s"
      names := [("multiple", 'a'), ("suffix", 's'), ("zero", 'z')]
      ordered := true }
  withUsage u program args fun r => do
    let ended := String.singleton r.lineEnding
    let print (paths : List String) (ending : String) : Act Unit := do
      Act.finish 0
      Act.outputText program
        (String.join (paths.map fun p => baseName p ending ++ ended)).toList
    if r.operands = [] then Act.misused program "missing operand" 1
    else if r.has 'a' || r.has 's' then print r.operands ((r.value? 's').getD "")
    else
      match r.operands with
      | _ :: _ :: extra :: _ => Act.misused program ("extra operand " ++ Quoted.plain extra) 1
      | [path, ending] => print [path] ending
      | paths => print paths ""

/-- Prints paths without their last parts. -/
def printFolderNames : Program := fun _ program args => do
  let u : Usage := { letters := "z", names := [("zero", 'z')] }
  withUsage u program args fun r => do
    if r.operands = [] then Act.misused program "missing operand" 1
    else
      Act.finish 0
      let ended := String.singleton r.lineEnding
      Act.outputText program
        (String.join (r.operands.map fun p => folderName p ++ ended)).toList

end Cutover.Shell
