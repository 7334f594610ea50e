import Cutover.Shell.Lookup

/-!
# Parts that run apart

A part of a script may run in a process of its own. What it does to files and channels stays;
what it sets is gone when it ends.
-/
namespace Cutover.Shell

/-- The process in which a part of a script runs: it has no traps but those that do nothing, and
no jobs. Of the texts that are being read only the first one counts. -/
def Process.child (p : Process) : Process :=
  { p with
    traps := p.traps.filter (·.2 = ""), signals := [], jobs := []
    reading := p.reading.getLast?.toList }

def Process.inBackground (p : Process) : Process :=
  { p with ignored := 2 :: 3 :: p.ignored }

/-- A process in which another program starts: what the shell has opened for itself is closed,
and the signals that it takes no notice of stay unnoticed. -/
def Process.renewed (p : Process) : Process :=
  let ignored := (p.traps.filter (·.2 = "")).map (·.1)
  { p with held := [], traps := [], ignored := ignored ++ p.ignored, signals := [], jobs := [] }

/-- A text without what a script inside of a word cannot give: zeros, and newlines at the
end. -/
def givenText (bytes : ByteArray) : List Char :=
  let s := (Text.ofBytes bytes).filter (· ≠ '\x00')
  (s.reverse.dropWhile (· == '\n')).reverse

def commandTime : Nat := 5

def startTime : Nat := 400

namespace State

/-- The state after a command: under one option a failure that nobody asks about ends the
script. -/
def checked (s : State) (tested : Bool) : State :=
  match s.flow with
  | .failed | .lost | .ended => s
  | _ => if s.option 'e' && !tested && s.status ≠ 0 then s.turn .ended else s

def excused (s : State) (special : Bool) : State :=
  if s.flow = .failed && !special then s.turn .going else s

def afterRound (s : State) : Bool × State :=
  match s.flow with
  | .going => (true, s)
  | .leaving n => (false, s.turn (if n ≤ 1 then .going else .leaving (n - 1)))
  | .nextRound n => if n ≤ 1 then (true, s.turn .going) else (false, s.turn (.nextRound (n - 1)))
  | _ => (false, s)

/-- Ends a loop with the status of its last round, unless something has ended the script. -/
def afterLoop (s : State) (status : Nat) : State :=
  match s.flow with
  | .failed | .lost | .ended => s
  | _ => s.finish status

def nextRound (s : State) (status : Nat) : Bool × State :=
  match s.afterRound with
  | (true, s) => (true, s)
  | (false, s) => (false, s.afterLoop status)

def afterReturn (s : State) : State :=
  match s.flow with
  | .returning _ => s.turn .going
  | _ => s

/-- Keeps the variables that a command hides until it ends. -/
def enter (s : State) : State := s.update fun p => { p with hidden := [] :: p.hidden }

def reveal (s : State) : Hidden → State
  | .options options => s.update fun p => { p with options }
  | .variable name old =>
    let s := s.setVariable name old
    if old.isNone && !isName name then s.error (badName name)
    else
      match s.followed name ((old.bind (·.value)).getD "") with
      | .ok s => s
      | .error e => s.error e

/-- Makes everything as it was that a command has changed for as long as it runs. -/
def leave (s : State) : State :=
  match s.process.hidden with
  | [] => s
  | frame :: frames => frame.foldl reveal (s.update fun p => { p with hidden := frames })

/-- Sets a variable for a command while it runs, and for what it calls. -/
def lend (s : State) (name value : String) : State :=
  match (s.hide name).assigned name value true with
  | .ok s => s
  | .error e => s.error e

/-- The settings that a new process is told of, the last one first. -/
def exports (s : State) : List (String × Variable) :=
  s.process.vars.filter fun v => v.2.exported && v.2.value.isSome

/-- Leaves only the settings that a program is told of by the shell. -/
def tell (s : State) : State :=
  let told := s.exports.reverse.mergeSort fun a b => tablePlace a.1 ≤ tablePlace b.1
  s.update fun p => { p with vars := told.reverse }

def nextTrap? (s : State) : Option (String × State) :=
  match s.process.signals.min? with
  | none => none
  | some n =>
    let signals := s.process.signals.filter (· ≠ n)
    some ((s.process.traps.lookup n).getD "", s.update fun p => { p with signals })

def standardSettings : List (String × String) :=
  [("PATH", standardPath), ("PS1", "# "), ("PS2", "> "), ("PS4", "+ ")]

def ownSettings : List (String × String) := [("IFS", " \t\n"), ("OPTIND", "1")]

def fixedNames : List String :=
  (standardSettings ++ ownSettings).map (·.1) ++
    ["MAIL", "MAILPATH", "LINENO", "TERM", "HISTSIZE"]

def foundPath? (s : State) : Option String :=
  let told := (s.value? "PWD").filter fun path =>
    match Path.isAbsolute path, s.locate path with
    | true, .ok (p, _) => s.files.number? p = some s.process.folder
    | _, _ => false
  told.or (s.folder?.map pathOf)

def newShell (s : State) (program : String) : State :=
  let given := s.exports.filter fun v => isName v.1
  let start : List (String × Variable) := fixedNames.map fun name =>
    (name, { value := (standardSettings ++ ownSettings).lookup name, isFixed := true })
  let own := ownSettings.map (·.1)
  let path := s.foundPath?
  let p := s.process
  let set (s : State) (name : String) (value : Option String) (exported : Bool) : State :=
    let old := (s.entry? name).getD { value := none }
    s.setVariable name (some { old with value, exported := old.exported || exported })
  let known := given.reverse.foldl (fun s v =>
    set s v.1 (if own.contains v.1 then ownSettings.lookup v.1 else v.2.value) true)
    (s.update fun p => { p with vars := start })
  let known := set known "PPID" (some (toString p.parent)) false
  let vars := match path with
    | some path => (set known "PWD" (some path) true).process.vars
    | none => known.process.vars
  let s := s.update fun _ =>
    { number := p.number, parent := p.parent, group := p.group, shell := p.number
      folder := p.folder, path := path.getD p.path, name := program, vars
      mask := p.mask, limits := p.limits, streams := p.streams, ignored := p.ignored }
  if path.isNone then s.warn lostFolder else s

end State

end Cutover.Shell
