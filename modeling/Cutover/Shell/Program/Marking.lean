import Cutover.Shell.Program.Making
import Cutover.Shell.Program.Moment

/-!
# Modes and times of files

The programs that change what files may be used for, and when they seem to have been changed.
-/
namespace Cutover.Shell

namespace Marking

/-- A change of modes and how it is spoken of. -/
structure Plan where
  program : String
  change : Mode.Change
  recursive : Bool
  quiet : Bool
  verbose : Bool
  /-- Whether every file with another mode than before is told of. -/
  telling : Bool
  /-- Whether it is told where the mask has kept something from being taken away. -/
  strict : Bool

def Plan.mark (plan : Plan) (path : String) (s : State) : State :=
  match s.nodeAt? path with
  | none => s
  | some node =>
    let isFolder := s.isFolder path
    let mode := plan.change.apply isFolder s.process.mask node.mode
    let s := s.setMode path mode
    let wanted := plan.change.apply isFolder 0 node.mode
    let s := if plan.strict && mode &&& (0o7777 - wanted) ≠ 0 then
        let kept := "new permissions are " ++ Mode.text mode ++ ", not " ++ Mode.text wanted
        s.failed plan.program (toldAfter path kept) 1
      else s
    let shown (mode : Nat) : String := Mode.digits mode ++ " (" ++ Mode.text mode ++ ")"
    let what := "mode of " ++ Quoted.always path
    if mode = node.mode then
      if plan.verbose then
        s.outputText plan.program (what ++ " retained as " ++ shown mode ++ "\n").toList
      else s
    else if plan.verbose || plan.telling then
      let changed := " changed from " ++ shown node.mode ++ " to " ++ shown mode
      s.outputText plan.program (what ++ changed ++ "\n").toList
    else s

def Plan.markAll (plan : Plan) : Nat → String → State → State
  | 0, path, s => plan.mark path s
  | n + 1, path, s =>
    let s := plan.mark path s
    if !(plan.recursive && s.isFolder path) then s
    else
      match s.locate path with
      | .ok (p, _) =>
        ((s.files.names p).map Text.bytewise).mergeSort.foldl (fun s name =>
          let inner := Path.join path name
          match s.locateLink inner with
          | .ok (_, some (.link _)) => s
          | _ => plan.markAll n inner s) s
      | .error _ => s

end Marking

def isModeArgument (a : String) : Bool :=
  match a.toList with
  | '-' :: c :: _ => "rwxXst,=+-0123456789ugoa".toList.contains c && a ≠ "--" &&
      !(a.startsWith "--")
  | _ => false

def changeModes : Program := fun n program args => do
  let u : Usage :=
    { letters := "Rcfv"
      names := [("recursive", 'R'), ("changes", 'c'), ("silent", 'f'), ("quiet", 'f'),
        ("verbose", 'v'), ("reference", 'm')]
      valued := "m" }
  let given := (args.takeWhile (· ≠ "--")).filter isModeArgument
  let args := if given = [] then args else args.filter fun a => !given.contains a
  withUsage u program args fun r => do
    let s ← Act.state
    let reference := (r.value? 'm').map fun path => (path, s.nodeAt? path)
    let (text, operands) := match reference, given, r.operands with
      | some _, _, operands => ("", operands)
      | none, [], text :: operands => (text, operands)
      | none, [], [] => ("", [])
      | none, given, operands => (",".intercalate given, operands)
    let isTold := reference.isSome || given ≠ [] || r.operands ≠ []
    let change := match reference with
      | some (_, node) => node.map fun node => .exact node.mode
      | none => Mode.change? text
    match operands, change, reference with
    | _, none, some (path, _) =>
      let why := FileError.notFound.cause
      Act.failed program (s!"failed to get attributes of {Quoted.always path}: " ++ why) 1
    | [], _, _ =>
      if isTold && reference.isNone then
        Act.misused program ("missing operand after " ++ Quoted.plain text) 1
      else Act.misused program "missing operand" 1
    | _, none, none => Act.misused program ("invalid mode: " ++ Quoted.plain text) 1
    | operands, some change, _ =>
      let plan : Marking.Plan :=
        { program, change, recursive := r.has 'R', quiet := r.has 'f', verbose := r.has 'v'
          telling := r.has 'c', strict := given ≠ [] }
      Act.change fun s => operands.foldl (fun s path =>
        let refuse (what : String) : State :=
          if plan.quiet then s.finish 1 else s.failed program what 1
        match s.locate path with
        | .ok (_, some _) => plan.markAll n path s
        | .ok (_, none) =>
          match s.locateLink path with
          | .ok (_, some _) => refuse ("cannot operate on dangling symlink " ++ Quoted.always path)
          | _ => refuse (s!"cannot access {Quoted.always path}: " ++ FileError.notFound.cause)
        | .error e => refuse (s!"cannot access {Quoted.always path}: " ++ e.cause)) (s.finish 0)
      Act.awaitRoom 1

def State.setTime (s : State) (path : String) (create follow : Bool) (time : Option Int) :
    Except FileError State :=
  let mark (p : Place) (s : State) : State :=
    match s.files.number? p with
    | some number =>
      { s with
        files := s.files.alter number fun n => { n with time := time.getD s.files.now } }
    | none => s
  match if follow then s.locate path else s.locateLink path with
  | .error e => .error e
  | .ok (p, some _) => .ok (mark p s)
  | .ok (p, none) =>
    if !create then .ok s
    else if path.endsWith "/" then .error .notFound
    else .ok (mark p (s.make p (.file ByteArray.empty) 0o666))

def touch : Program := fun _ program args => do
  let u : Usage :=
    { letters := "acfmh"
      valued := "dtr"
      names := [("no-create", 'c'), ("date", 'd'), ("reference", 'r'), ("no-dereference", 'h'),
        ("time", 'w')] }
  withUsage u program args fun r => do
    let s ← Act.state
    let now := s.files.now
    let refuse (text : String) : Act Unit :=
      Act.failed program ("invalid date format " ++ Quoted.always text) 1
    let onward (time : Option Int) : Act Unit :=
      Act.eachOperand program r "missing file operand" fun s path =>
        let time := if r.has 'a' && !r.has 'm'
          then some ((s.nodeAt? path).elim now (·.time)) else time
        if path = "-" then
          match s.channel 1 with
          | .ok (_, .file number _ _) =>
            { s with files := s.files.alter number fun n => { n with time := time.getD now } }
          | .ok _ => s
          | .error e =>
            if r.has 'c' then s
            else s.failed program (s!"setting times of {Quoted.always path}: " ++ e) 1
        else
          match s.setTime path (!r.has 'c') (!r.has 'h') time with
          | .ok s => s
          | .error e =>
            if r.has 'c' && e = .notFound then s
            else
              let what := if e = .notFound && path.endsWith "/" && path ≠ "/"
                then "setting times of " else "cannot touch "
              s.failed program (s!"{what}{Quoted.always path}: " ++ e.cause) 1
    match r.value? 't', r.value? 'd', r.value? 'r' with
    | some text, _, _ =>
      match Moment.ofDigits? now text with
      | some time => onward (some time)
      | none => refuse text
    | none, some text, _ =>
      match Moment.ofText? now text with
      | some time => onward (some time)
      | none => refuse text
    | none, none, some path =>
      match s.nodeAt? path with
      | some node => onward (some node.time)
      | none =>
        let why := FileError.notFound.cause
        Act.failed program (s!"failed to get attributes of {Quoted.always path}: " ++ why) 1
    | none, none, none => onward none

end Cutover.Shell
