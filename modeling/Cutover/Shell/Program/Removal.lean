import Cutover.Shell.Input
import Cutover.Shell.Program.Making

/-!
# Removing files

The program that removes files, and folders with all that is in them. It may ask before it does.
-/
namespace Cutover.Shell

/-- Asks something, and tells whether the next line of the input agrees. -/
def Act.ask (n : Nat) (program question : String) : Act Bool := do
  Act.change (·.put 2 s!"{program}: {question}? ")
  match ← takeLine true n ByteArray.empty with
  | .ok bytes => return ((Text.ofBytes bytes).head?).any fun c => c == 'y' || c == 'Y'
  | .error _ => return false

def kindOf : FileEntry → String
  | .folder => "directory"
  | .file bytes => if bytes.isEmpty then "regular empty file" else "regular file"
  | .device _ => "character special file"
  | .program _ => "regular file"
  | .link _ | .stream _ => "symbolic link"
  | .queue => "fifo"

namespace Removal

/-- What is asked for besides the names. -/
structure Plan where
  program : String
  recursive : Bool
  folders : Bool
  force : Bool
  /-- Whether every removal has to be agreed to. -/
  asking : Bool
  verbose : Bool

def Plan.refuse (plan : Plan) (path why : String) : Act Bool := do
  Act.failed plan.program (s!"cannot remove {Quoted.always path}: " ++ why) 1
  return false

def Plan.clear (plan : Plan) (n : Nat) (path kind : String) (p : Place) : Act Bool := do
  let what := kind ++ " " ++ Quoted.always path
  let agreed ← if plan.asking then Act.ask n plan.program ("remove " ++ what) else pure true
  if !agreed then return false
  Act.change fun s => { s with files := s.files.clear p }
  if plan.verbose then
    let what := if kind = "directory" then what else Quoted.always path
    Act.outputText plan.program ("removed " ++ what ++ "\n").toList
  return true

mutual

/-- Removes a file, or a folder down to a depth, and tells whether it is gone. -/
def Plan.remove (plan : Plan) (n : Nat) : Nat → String → Act Bool
  | 0, _ => Act.lost
  | depth + 1, path => do
    let s ← Act.state
    match s.locateLink path with
    | .error e =>
      if plan.force && (e = .notFound || e = .notAFolder) then return true
      else plan.refuse path e.cause
    | .ok (_, none) =>
      if plan.force then return true else plan.refuse path FileError.notFound.cause
    | .ok (p, some .folder) =>
      let isEmpty := (s.files.names p).isEmpty
      if plan.recursive && s.isLinkTo path then plan.refuse path FileError.notAFolder.cause
      else if plan.recursive then
        let question := "descend into directory " ++ Quoted.always path
        let agreed ← if plan.asking && !isEmpty then Act.ask n plan.program question else pure true
        if !agreed then return false
        let names := ((s.files.names p).map Text.bytewise).mergeSort
        let gone ← plan.removeAll n depth (names.map (Path.join path))
        if gone then plan.clear n path "directory" p else return false
      else if !plan.folders then plan.refuse path FileError.isAFolder.cause
      else if !isEmpty then plan.refuse path FileError.notEmpty.cause
      else plan.clear n path "directory" p
    | .ok (p, some e) => plan.clear n path (kindOf e) p

/-- Removes several files, and tells whether they are all gone. -/
def Plan.removeAll (plan : Plan) (n : Nat) : Nat → List String → Act Bool
  | 0, _ => Act.lost
  | _ + 1, [] => return true
  | depth + 1, path :: paths => do
    let gone ← plan.remove n depth path
    let others ← plan.removeAll n depth paths
    return gone && others

end

def Plan.operand (plan : Plan) (n : Nat) (path : String) : Act Unit := do
  let last := lastPart path
  if plan.recursive && (last = "." || last = "..") then
    let what := "refusing to remove '.' or '..' directory: skipping "
    Act.failed plan.program (what ++ Quoted.always path) 1
  else if plan.recursive && path ≠ "" && path.toList.all (· == '/') then
    Act.failed plan.program ("it is dangerous to operate recursively on " ++ Quoted.always path) 1
    Act.failed plan.program "use --no-preserve-root to override this failsafe" 1
  else
    let _ ← plan.remove n n path

def Plan.operands (plan : Plan) (n : Nat) : List String → Act Unit
  | [] => pure ()
  | path :: paths => do
    plan.operand n path
    plan.operands n paths

end Removal

def remove : Program := fun n program args => do
  let u : Usage :=
    { letters := "rRfidvI"
      names := [("recursive", 'r'), ("force", 'f'), ("dir", 'd'), ("verbose", 'v'),
        ("one-file-system", 'x'), ("preserve-root", 'x'), ("no-preserve-root", 'x')] }
  let plain (a : String) : String :=
    match a with
    | "--interactive" | "--interactive=always" => "-i"
    | "--interactive=once" => "-I"
    | "--interactive=never" => "-v=never"
    | a => a
  let args := (args.map plain).filter (· ≠ "-v=never")
  withUsage u program args fun r => do
    let manner := (r.options.reverse.find? fun o => "fiI".toList.contains o.1).map (·.1)
    let recursive := r.has 'r' || r.has 'R'
    let plan : Removal.Plan :=
      { program, recursive, folders := r.has 'd', force := manner = some 'f'
        asking := manner = some 'i', verbose := r.has 'v' }
    let count := r.operands.length
    if count = 0 then
      if plan.force then Act.finish 0 else Act.misused program "missing operand" 1
    else
      Act.finish 0
      let what := s!"remove {count} argument" ++ (if count = 1 then "" else "s") ++
        if recursive then " recursively" else ""
      let agreed ← if manner = some 'I' && (recursive || 3 < count)
        then Act.ask n program what else pure true
      if agreed then plan.operands n r.operands

end Cutover.Shell
