import Cutover.Shell.Program.Removal

/-!
# Copying and moving files

The programs that copy and move files, and folders with all that is in them. Nothing is copied
over itself, and of two sources of one call neither replaces what has come of the other.
-/
namespace Cutover.Shell

namespace Transfer

/-- What happens where a file is already. -/
inductive Overwriting where
  | replace
  | ask
  | keep
  deriving DecidableEq

/-- What is asked for besides the names. -/
structure Plan where
  program : String
  moving : Bool
  deep : Bool
  follow : Bool
  overwriting : Overwriting
  /-- Whether only older files are replaced. -/
  update : Bool
  removing : Bool
  preserve : Bool
  hardLinks : Bool
  softLinks : Bool
  /-- What is added to the name of a file that is replaced, if it is kept. -/
  backup : Option String
  verbose : Bool

/-- The operands that have been copied, and what has come of them, with the numbers of their
nodes. -/
structure Log where
  sources : List (String × Nat) := []
  targets : List (String × Nat) := []

/-- Something that a path leads to. -/
structure Found where
  place : Place
  entry : FileEntry
  number : Nat

def find (s : State) (follow : Bool) (path : String) : Except FileError Found :=
  match if follow then s.locate path else s.locateLink path with
  | .error e => .error e
  | .ok (_, none) => .error .notFound
  | .ok (p, some e) => .ok ⟨p, e, (s.files.number? p).getD 0⟩

def isFolder : FileEntry → Bool
  | .folder => true
  | _ => false

def isLink : FileEntry → Bool
  | .link _ => true
  | _ => false

def Plan.refuse (plan : Plan) (why : String) : Act Bool := do
  Act.failed plan.program why 1
  return false

def both (source target : String) : String :=
  Quoted.always source ++ " to " ++ Quoted.always target

def Plan.say (plan : Plan) (source target : String) : Act Unit := do
  let what := if plan.moving then "renamed " else ""
  if plan.verbose then
    Act.outputText plan.program
      (what ++ Quoted.always source ++ " -> " ++ Quoted.always target ++ "\n").toList

/-- What forbids that one thing takes the place of another one. -/
def Plan.conflict? (plan : Plan) (log : Log) (source target : String) (a b : Found) :
    Option String :=
  if a.number = b.number && !plan.removing then
    some (Quoted.always source ++ " and " ++ Quoted.always target ++ " are the same file")
  else if isFolder a.entry && !isFolder b.entry then
    some (s!"cannot overwrite non-directory {Quoted.always target} with directory " ++
      Quoted.always source)
  else if !isFolder b.entry && log.targets.contains (target, b.number) then
    some (s!"will not overwrite just-created {Quoted.always target} with " ++
      Quoted.always source)
  else if !isFolder a.entry && isFolder b.entry then
    some (s!"cannot overwrite directory {Quoted.always target} with non-directory")
  else none

/-- Whether what is there is to be replaced, and whether that is a failure otherwise. -/
def Plan.replaces (plan : Plan) (n : Nat) (target : String) (a b : Found) : Act (Bool × Bool) := do
  let s ← Act.state
  let time (f : Found) : Int := (s.files.nodes[f.number]?).elim 0 (·.time)
  let isFile := !isFolder a.entry
  if plan.update && isFile && time a ≤ time b then return (false, true)
  match plan.overwriting with
  | .replace => return (true, true)
  | .keep =>
    if !isFile && !plan.moving then return (true, true)
    if plan.moving then
      Act.failed plan.program ("not replacing " ++ Quoted.always target) 1
    return (false, !plan.moving)
  | .ask =>
    if !isFile && !plan.moving then return (true, true)
    let agreed ← Act.ask n plan.program ("overwrite " ++ Quoted.always target)
    unless agreed do Act.finish 1
    return (agreed, false)

def Plan.move (plan : Plan) (source target : String) (a : Found) : Act Bool := do
  let s ← Act.state
  let last := lastPart source
  let target' := if isFolder a.entry then withoutSlashes target else target
  let cannot (why : String) := plan.refuse ("cannot move " ++ both source target ++ ": " ++ why)
  if last = "." || last = ".." || a.place = [] then cannot "Device or resource busy"
  else
    match s.locateLink target' with
    | .error e => cannot (s.absence target' e).cause
    | .ok (q, old) =>
      if a.place.isPrefixOf q then
        plan.refuse (s!"cannot move {Quoted.always source} to a subdirectory of itself, " ++
          Quoted.always target)
      else if !(s.files.names q).isEmpty && old.any isFolder then
        plan.refuse (s!"cannot overwrite {Quoted.always target}: " ++ FileError.notEmpty.cause)
      else
        Act.change fun s => { s with files := s.files.move a.place q }
        plan.say source target
        return true

/-- Gives a copy the mode and the time of what has been copied. -/
def Plan.finishCopy (plan : Plan) (a : Found) (q : Place) (s : State) : State :=
  match plan.preserve, s.files.nodes[a.number]?, s.files.number? q with
  | true, some node, some number =>
    { s with
      files := s.files.alter number fun m => { m with mode := node.mode, time := node.time } }
  | _, _, _ => s

def modeOf (s : State) (a : Found) : Nat := (s.files.nodes[a.number]?).elim 0o644 (·.mode)

def Plan.copyText (plan : Plan) (source target : String) (a : Found) : Act Bool := do
  let cannot (why : String) :=
    plan.refuse (s!"cannot create regular file {Quoted.always target}: " ++ why)
  let s ← Act.state
  match s.locate target with
  | .error e => cannot (s.absence target e).cause
  | .ok (q, old) =>
    let isDangling := old.isNone && match s.locateLink target with
      | .ok (_, e) => e.any isLink
      | .error _ => false
    if isDangling then
      plan.refuse ("not writing through dangling symlink " ++ Quoted.always target)
    else
      match ← Act.readInput (if source = "-" then "./-" else source) with
      | .error fault =>
        plan.refuse (s!"error reading {Quoted.always source}: " ++ fault.why)
      | .ok bytes =>
        match old, s.files.number? q with
        | some (.device .full), _ =>
          if bytes.isEmpty then return true
          else
            plan.refuse (s!"error writing {Quoted.always target}: " ++ FileError.noSpace.cause)
        | some (.device _), _ => return true
        | some _, some number =>
          Act.change fun s =>
            plan.finishCopy a q { s with files := s.files.refill number (.file bytes) }
          return true
        | _, _ =>
          Act.change fun s => plan.finishCopy a q (s.make q (.file bytes) (modeOf s a))
          return true

def Plan.copyNode (plan : Plan) (target : String) (a : Found) : Act Bool := do
  match (← Act.state).locateLink target with
  | .error e => plan.refuse (s!"cannot create {Quoted.always target}: " ++ e.cause)
  | .ok (q, _) =>
    Act.change fun s =>
      let s := s.make q a.entry 0o777
      match s.files.number? q with
      | some number =>
        { s with files := s.files.alter number fun m => { m with mode := modeOf s a } }
      | none => s
    return true

def Plan.copyFile (plan : Plan) (source target : String) (a : Found) : Act Bool := do
  plan.say source target
  let s ← Act.state
  if plan.removing then
    if let .ok b := find s false target then
      Act.change fun s => { s with files := s.files.clear b.place }
  let free : Option FileError := match s.locateLink target with
    | .error e => some e
    | .ok (_, some _) => if plan.removing then none else some .alreadyThere
    | .ok (_, none) => none
  let place := (s.locateLink target).toOption.elim [] (·.1)
  let linked (kind between : String) (link : State → State) : Act Bool := do
    match free with
    | some e =>
      plan.refuse (s!"cannot create {kind} link {Quoted.always target}{between}" ++
        Quoted.always source ++ ": " ++ e.cause)
    | none =>
      Act.change link
      return true
  if plan.softLinks then
    linked "symbolic" " to " fun s => s.make place (.link source) 0o777
  else if plan.hardLinks then
    linked "hard" " to " fun s => { s with files := s.files.join a.place place }
  else
    match a.entry with
    | .file _ => plan.copyText source target a
    | .link _ | .queue =>
      if plan.deep || isLink a.entry then plan.copyNode target a else plan.copyText source target a
    | .device _ => if plan.deep then plan.copyNode target a else plan.copyText source target a
    | _ => plan.copyNode target a

def setAside (p : Place) (ending : String) (s : State) : State :=
  let kept := p.dropLast ++ [(p.getLast?).getD "" ++ ending]
  { s with files := s.files.move p kept }

mutual

/-- Copies or moves one thing, down to a depth. `top` are the operands that it belongs to. -/
def Plan.transfer (plan : Plan) (n : Nat) (top : String × String) (made : List Nat) :
    Nat → String → String → Log → Act (Bool × Log)
  | 0, _, _, _ => Act.lost
  | depth + 1, source, target, log => do
    let s ← Act.state
    let isOperand := top.1 = source
    match find s plan.follow source with
    | .error e =>
      return (← plan.refuse (s!"cannot stat {Quoted.always source}: " ++ e.cause), log)
    | .ok a =>
      if isFolder a.entry && !plan.deep && !plan.moving then
        let what := "-r not specified; omitting directory " ++ Quoted.always source
        return (← plan.refuse what, log)
      else if made.contains a.number then
        let what := s!"cannot copy a directory, {Quoted.always top.1}, into itself, " ++
          Quoted.always top.2
        return (← plan.refuse what, log)
      else if isOperand && log.sources.contains (source, a.number) && !isFolder a.entry then
        Act.change (·.complain plan.program
          s!"warning: source file {Quoted.always source} specified more than once")
        return (true, log)
      else
        let log := { log with sources := (source, a.number) :: log.sources }
        let isPlain := match a.entry with
          | .file _ => true
          | .folder | .link _ => false
          | _ => !plan.deep
        let direct := plan.moving || plan.softLinks || plan.hardLinks || plan.removing || !isPlain
        match find s (!direct) target with
        | .error .notFound => plan.place n top made depth source target a none log
        | .error e =>
          if plan.moving then plan.place n top made depth source target a none log
          else return (← plan.refuse (s!"cannot stat {Quoted.always target}: " ++ e.cause), log)
        | .ok b =>
          match plan.conflict? log source target a b with
          | some why => return (← plan.refuse why, log)
          | none =>
            let (replace, fine) ← plan.replaces n target a b
            match replace, plan.backup with
            | false, _ => return (fine, log)
            | true, some ending =>
              if isFolder b.entry && !plan.moving then
                plan.place n top made depth source target a (some b) log
              else
                Act.change (setAside b.place ending)
                plan.place n top made depth source target a none log
            | true, none => plan.place n top made depth source target a (some b) log

def Plan.place (plan : Plan) (n : Nat) (top : String × String) (made : List Nat) :
    Nat → String → String → Found → Option Found → Log → Act (Bool × Log)
  | 0, _, _, _, _, _ => Act.lost
  | depth + 1, source, target, a, b, log => do
    let noted (done : Bool) : Act (Bool × Log) := do
      match find (← Act.state) false target with
      | .ok c => return (done, { log with targets := (target, c.number) :: log.targets })
      | .error _ => return (done, log)
    if plan.moving then noted (← plan.move source target a)
    else if !isFolder a.entry then
      if isLink a.entry && b.isSome then
        Act.change fun s => { s with files := s.files.clear (b.elim [] (·.place)) }
      noted (← plan.copyFile source target a)
    else
      let s ← Act.state
      let created : Except FileError State := match b with
        | some _ => .ok s
        | none => s.create (withoutSlashes target) .folder (modeOf s a ||| 0o700)
      match created with
      | .error e =>
        return (← plan.refuse (s!"cannot create directory {Quoted.always target}: " ++ e.cause),
          log)
      | .ok s =>
        Act.change fun _ => s
        if b.isNone then plan.say source target
        let made := match find s false target with
          | .ok c => if b.isNone then c.number :: made else made
          | .error _ => made
        let names := ((s.files.names a.place).map Text.bytewise).mergeSort
        let deeper := { plan with follow := plan.follow && plan.deep }
        let (done, log) ← deeper.transferAll n top made depth source target names log
        if let .ok (q, _) := (← Act.state).locate target then
          Act.change (plan.finishCopy a q)
        return (done, log)

def Plan.transferAll (plan : Plan) (n : Nat) (top : String × String) (made : List Nat) :
    Nat → String → String → List String → Log → Act (Bool × Log)
  | 0, _, _, _, _ => Act.lost
  | _ + 1, _, _, [], log => return (true, log)
  | depth + 1, source, target, name :: names, log => do
    let (done, log) ← plan.transfer n top made depth (Path.join source name)
      (Path.join target name) log
    let (others, log) ← plan.transferAll n top made depth source target names log
    return (done && others, log)

end

def Plan.into (plan : Plan) (n : Nat) (folder : String) : List String → Log → Act Unit
  | [], _ => pure ()
  | source :: sources, log => do
    let name := lastPart source
    let target := if name = ".." then folder else Path.join folder name
    let (_, log) ← plan.transfer n (source, target) [] n source target log
    plan.into n folder sources log

end Transfer

/-- Copies or moves files and folders, into a folder if the last operand is one. -/
def transferAll (moving : Bool) : Program := fun n program args => do
  let u : Usage :=
    { letters := if moving then "bfinuvTZ" else "abdfiHlLnprRsuvxPT"
      valued := "tS"
      names := [("recursive", 'r'), ("archive", 'a'), ("force", 'f'), ("no-clobber", 'n'),
        ("verbose", 'v'), ("interactive", 'i'), ("update", 'u'), ("target-directory", 't'),
        ("no-target-directory", 'T'), ("dereference", 'L'), ("no-dereference", 'P'),
        ("link", 'l'), ("symbolic-link", 's'), ("backup", 'b'), ("suffix", 'S'),
        ("remove-destination", '\x01')].filter fun e =>
          !moving || "bfinuvtTS".toList.contains e.2 }
  withUsage u program args fun r => do
    let has (letters : String) : Bool := letters.toList.any r.has
    let last (letters : String) : Option Char :=
      (r.options.reverse.find? fun o => letters.toList.contains o.1).map (·.1)
    let deep := has "rRa"
    let overwriting : Transfer.Overwriting := match last "fin" with
      | some 'n' => .keep
      | some 'i' => .ask
      | _ => if moving || !has "ni" then .replace else if has "n" then .keep else .ask
    let plan : Transfer.Plan :=
      { program, moving, deep, overwriting
        follow := !moving && match last "LPdaH" with
          | some 'L' => true
          | some 'H' => !deep
          | some _ => false
          | none => !deep
        update := has "u", removing := has "\x01", preserve := has "pa"
        hardLinks := has "l", softLinks := has "s"
        backup := if has "bS" then some ((r.value? 'S').getD "~") else none
        verbose := has "v" }
    if !moving && has "n" then
      let advice := "behavior of -n is non-portable and may change in future; "
      Act.change (·.complain program
        ("warning: " ++ advice ++ "use --update=none instead"))
    let s ← Act.state
    match r.value? 't', r.operands.reverse with
    | _, [] => Act.misused program "missing file operand" 1
    | some folder, _ =>
      if s.isFolder folder then
        Act.finish 0
        plan.into n folder r.operands {}
      else
        let why := if (s.entryAt? folder).isSome then FileError.notAFolder else .notFound
        Act.failed program (s!"target directory {Quoted.always folder}: " ++ why.cause) 1
    | none, [source] =>
      Act.misused program ("missing destination file operand after " ++ Quoted.always source) 1
    | none, target :: sources =>
      if r.has 'T' && sources.length ≠ 1 then
        Act.misused program ("extra operand " ++ Quoted.always target) 1
      else if s.isFolder target && !r.has 'T' then
        Act.finish 0
        plan.into n target sources.reverse {}
      else
        match sources with
        | [source] =>
          Act.finish 0
          let _ ← plan.transfer n (source, target) [] n source target {}
        | _ =>
          let why : FileError := match s.locate target with
            | .ok (_, some _) => .notAFolder
            | .ok (_, none) => .notFound
            | .error e => e
          Act.failed program (s!"target {Quoted.always target}: " ++ why.cause) 1

end Cutover.Shell
