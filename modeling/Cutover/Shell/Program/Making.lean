import Cutover.Files.Mode
import Cutover.Shell.Program.Input

/-!
# Making and removing folders

The programs that make folders and named pipes, and remove folders with nothing in them.
-/
namespace Cutover.Shell

def withoutSlashes (path : String) : String :=
  match path.toList.reverse.dropWhile (· == '/') with
  | [] => path
  | back => String.ofList back.reverse

def lastPart (path : String) : String :=
  String.ofList (((withoutSlashes path).toList.reverse.takeWhile (· ≠ '/')).reverse)

/-- The paths that lead to the parts of a path one after the other. -/
def pathsAlong (path : String) : List String :=
  let parts := (Path.split path.toList).filter (· ≠ [])
  let rec go (before : List Char) : List (List Char) → List String
    | [] => []
    | part :: rest =>
      String.ofList (before ++ part) :: go (before ++ part ++ ['/']) rest
  go (if Path.isAbsolute path then ['/'] else []) parts

namespace State

/-- Puts something new where nothing is. -/
def create (s : State) (path : String) (e : FileEntry) (mode : Nat) : Except FileError State :=
  match s.locateLink path with
  | .error e => .error e
  | .ok (_, some _) => .error .alreadyThere
  | .ok (p, none) => .ok (s.make p e mode)

/-- Whether a path ends in a slash after the name of a link. -/
def isLinkTo (s : State) (path : String) : Bool :=
  path.endsWith "/" && match s.locateLink (withoutSlashes path) with
    | .ok (_, some (.link _)) => true
    | _ => false

/-- Why nothing can be made at a path that leads nowhere: with a slash at its end, what is made
would have to be a folder. -/
def absence (s : State) (path : String) (e : FileError) : FileError :=
  if path.endsWith "/" then
    match s.locateLink (withoutSlashes path) with
    | .ok (_, none) => .notAFolder
    | _ => e
  else e

def setMode (s : State) (path : String) (mode : Nat) : State :=
  match s.locate path with
  | .ok (p, some _) =>
    match s.files.number? p with
    | some number => { s with files := s.files.alter number fun n => { n with mode } }
    | none => s
  | _ => s

end State

namespace Making

/-- What is asked for besides the names. -/
structure Plan where
  program : String
  change : Option Mode.Change
  verbose : Bool

/-- Tells of something that has been done. -/
def Plan.say (plan : Plan) (message : String) (s : State) : State :=
  if plan.verbose then s.outputText plan.program (message ++ "\n").toList else s

def Plan.folder (plan : Plan) (path : String) (s : State) : Except FileError State :=
  (s.create (withoutSlashes path) .folder 0o777).map fun s =>
    let s := match plan.change with
      | some change => s.setMode path (change.apply true s.process.mask 0o777)
      | none => s
    plan.say (s!"{plan.program}: created directory " ++ Quoted.always path) s

/-- Tells that a folder cannot be made. -/
def Plan.refuse (plan : Plan) (path : String) (e : FileError) (s : State) : State :=
  s.failed plan.program (s!"cannot create directory {Quoted.always path}: " ++ e.cause) 1

def Plan.foldersAbove (plan : Plan) (s : State) : List String → Except (String × FileError) State
  | [] => .ok s
  | path :: paths =>
    if s.isFolder path then foldersAbove plan s paths
    else
      match ({ plan with change := none } : Plan).folder path s with
      | .ok s => foldersAbove plan s paths
      | .error .alreadyThere =>
        .error (path, if (s.entryAt? path).isSome then .notAFolder else .alreadyThere)
      | .error e => .error (path, e)

/-- Makes a folder with all folders above it; nothing is wrong if it is there. -/
def Plan.deepFolder (plan : Plan) (path : String) (s : State) : State :=
  let isDots (p : String) : Bool := ["..", "."].contains (lastPart p)
  let along := (pathsAlong path).filter fun p => !isDots p
  let path := withoutSlashes path
  match plan.foldersAbove s (if isDots path then along else along.dropLast) with
  | .error (path, e) => plan.refuse path e s
  | .ok s =>
    if s.isFolder path then s
    else
      match plan.folder path s with
      | .ok s => s
      | .error e => plan.refuse path e s

end Making

def withMode (program : String) (r : Request) (f : Option Mode.Change → Act Unit) : Act Unit :=
  match r.value? 'm' with
  | none => f none
  | some text =>
    match Mode.change? text with
    | some change => f (some change)
    | none => Act.failed program ("invalid mode " ++ Quoted.plain text) 1

def makeFolders : Program := fun _ program args => do
  let u : Usage :=
    { letters := "pvZ"
      valued := "m"
      names := [("parents", 'p'), ("mode", 'm'), ("verbose", 'v')] }
  withUsage u program args fun r => withMode program r fun change => do
    let plan : Making.Plan := { program, change, verbose := r.has 'v' }
    Act.eachOperand program r "missing operand" fun s path =>
      if r.has 'p' then plan.deepFolder path s
      else
        match plan.folder path s with
        | .ok s => s
        | .error e => plan.refuse path e s

def makeQueues : Program := fun _ program args => do
  let u : Usage := { letters := "Z", valued := "m", names := [("mode", 'm')] }
  withUsage u program args fun r => withMode program r fun change => do
    Act.eachOperand program r "missing operand" fun s path =>
      match s.create path .queue 0o666 with
      | .ok s =>
        match change with
        | some change => s.setMode path (change.apply false s.process.mask 0o666)
        | none => s
      | .error e => s.failed program (s!"cannot create fifo {Quoted.always path}: " ++ e.cause) 1

def State.removeFolder (s : State) (path : String) : Except FileError State :=
  match s.locateLink path with
  | .error e => .error e
  | .ok (_, none) => .error .notFound
  | .ok (p, some .folder) =>
    if s.isLinkTo path then .error .notAFolder
    else if lastPart path = "." then .error .intoItself
    else if lastPart path = ".." || !(s.files.names p).isEmpty then .error .notEmpty
    else .ok { s with files := s.files.clear p }
  | .ok (_, some _) => .error .notAFolder

def removeFolders : Program := fun _ program args => do
  let u : Usage :=
    { letters := "pv"
      names := [("parents", 'p'), ("verbose", 'v'), ("ignore-fail-on-non-empty", 'n')] }
  withUsage u program args fun r => do
    let plan : Making.Plan := { program, change := none, verbose := r.has 'v' }
    let step (what path : String) (s : State) : Bool × State :=
      let s := plan.say (s!"{program}: removing directory, " ++ Quoted.always path) s
      match s.removeFolder path with
      | .ok s => (true, s)
      | .error e =>
        if r.has 'n' && e = .notEmpty then (false, s)
        else
          (false, s.failed program (s!"failed to remove {what}{Quoted.always path}: " ++ e.cause) 1)
    Act.eachOperand program r "missing operand" fun s path =>
      let (going, s) := step "" path s
      if r.has 'p' && going then
        let above := (pathsAlong path).dropLast.reverse
        (above.foldl (fun (going, s) path =>
          if going then step "directory " path s else (false, s)) (true, s)).2
      else s

end Cutover.Shell
