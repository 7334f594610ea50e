import Cutover.Files.Tree
import Cutover.Shell.Script

/-!
# Processes

What belongs to one process of a running script, and what others can see of it. Texts are byte
texts throughout.
-/
namespace Cutover.Shell

/-- What is known of a variable; it may have been named without a value. -/
structure Variable where
  value : Option String
  exported : Bool := false
  readOnly : Bool := false
  /-- Whether the name stays known, with its marks, when the value is forgotten. -/
  isFixed : Bool := false

/-- What a command has changed for as long as it runs. -/
inductive Hidden where
  | variable (name : String) (old : Option Variable)
  | options (letters : List Char)

def Hidden.isVariable (name : String) : Hidden → Bool
  | .variable n _ => n = name
  | .options _ => false

def Hidden.isOptions : Hidden → Bool
  | .variable _ _ => false
  | .options _ => true

/-- The bounds of what a process may use of something; none is no bound. -/
structure Limit where
  soft : Option Nat := none
  hard : Option Nat := none

/-- Where a program has been found. -/
structure Finding where
  path : String
  isStale : Bool := false
  deriving DecidableEq

/-- How a process goes on after a command. -/
inductive Flow where
  | going
  | leaving (loops : Nat)
  | nextRound (loops : Nat)
  | returning (given : Bool)
  | ended
  | failed
  | lost
  deriving DecidableEq

/-- How a process has ended. -/
structure Ending where
  status : Nat
  killer : Option Nat := none

def Ending.code (e : Ending) : Nat :=
  match e.killer with
  | some signal => 128 + signal
  | none => e.status % 256

/-- A part of a script in the background: the numbers of its processes, the last one first. -/
structure Job where
  processes : List Nat
  awaited : Bool := false

/-- What belongs to one process. -/
structure Process where
  number : Nat
  parent : Nat
  group : Nat
  shell : Nat
  folder : Nat
  path : String
  name : String
  args : List String := []
  vars : List (String × Variable) := []
  functions : List (String × Script) := []
  aliases : List (String × String) := []
  found : List (String × Finding) := []
  options : List Char := []
  streams : List (Nat × Nat)
  held : List Nat := []
  traps : List (Nat × String) := []
  /-- The signals that nothing can be done about, as the process takes no notice of them. -/
  ignored : List Nat := []
  signals : List Nat := []
  killer : Option Nat := none
  stopped : Bool := false
  kept : Option Nat := none
  /-- Whether what stands in front of the commands that are told of is being found out. -/
  tracing : Bool := false
  running : Option String := none
  line : Nat := 0
  reading : List Nat := [1]
  depth : Nat := 0
  loops : Nat := 0
  /-- What commands have changed while they run, the innermost command first. -/
  hidden : List (List Hidden) := []
  next : Nat := 1
  /-- How far the letters of the argument before have been taken as options, if they have. -/
  letters : Option Nat := none
  mask : Nat := 0o022
  limits : List (Char × Limit) := []
  jobs : List (Nat × Job) := []
  latestJob : Option Nat := none
  inner : Nat := 0
  flow : Flow := .going
  status : Nat := 0

/-- What others can see of a process. -/
structure Peer where
  number : Nat
  parent : Nat
  group : Nat
  channels : List Nat
  ending : Option Ending := none
  noticed : Bool := false

def Process.channels (p : Process) : List Nat := p.streams.map (·.2) ++ p.held

def Process.peer (p : Process) : Peer := ⟨p.number, p.parent, p.group, p.channels, none, false⟩

def Process.ending (p : Process) : Ending := ⟨p.status % 256, p.killer⟩

end Cutover.Shell
