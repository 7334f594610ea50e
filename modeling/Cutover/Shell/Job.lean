import Cutover.Shell.Signal
import Cutover.Shell.Task

/-!
# Jobs

The parts of a script that run in the background, one job each. A job keeps its number until it
has been waited for and the number is wanted for another one.
-/
namespace Cutover.Shell

namespace State

/-- How a process has ended that this one knows of. -/
def knownEnding? (s : State) (number : Nat) : Option Ending :=
  (s.peers.find? fun m => m.number = number && m.noticed).bind (·.ending)

def isDone (s : State) (j : Job) : Bool := j.processes.all fun n => (s.knownEnding? n).isSome

/-- Notes all endings that nobody knows of, and tells of those that a signal has brought about
in some processes. -/
def notice (s : State) (awaited : List Nat) : State :=
  s.unnoticed.foldl (fun s m =>
    let s := s.alterPeer m.number fun m => { m with noticed := true }
    let killer := m.ending.bind (·.killer)
    match if awaited.contains m.number then killer.bind lastWords? else none with
    | some text => s.put 2 (text ++ "\n")
    | none => s) s

def forgetProcesses (s : State) (numbers : List Nat) : State :=
  { s with peers := s.peers.filter fun m => !(m.ending.isSome && numbers.contains m.number) }

def dropJob (s : State) (number : Nat) : State :=
  match s.process.jobs.lookup number with
  | none => s
  | some j =>
    (s.forgetProcesses j.processes).update fun p =>
      { p with jobs := p.jobs.filter (·.1 ≠ number) }

/-- The number that the next job gets: the first that is free, or whose job has been waited
for. -/
def nextJobNumber (s : State) : Nat :=
  let free (i : Nat) : Bool :=
    match s.process.jobs.lookup i with
    | none => true
    | some j => j.awaited && s.isDone j
  (((List.range s.process.jobs.length).map (· + 1)).find? free).getD (s.process.jobs.length + 1)

def clearJob (s : State) : State := s.dropJob s.nextJobNumber

def addJob (s : State) (processes : List Nat) : State :=
  let number := s.nextJobNumber
  (s.dropJob number).update fun p =>
    { p with jobs := (number, { processes }) :: p.jobs, latestJob := processes.head? }

def jobOf (s : State) (name : String) : Except String (Nat × Job) :=
  let jobs := s.process.jobs
  let found (j : Option (Nat × Job)) (fault : String) : Except String (Nat × Job) :=
    match j with
    | some j => .ok j
    | none => .error fault
  match name.toList with
  | ['%'] | ['%', '%'] | ['%', '+'] => found jobs.head? "No current job"
  | ['%', '-'] => found jobs.tail.head? "No previous job"
  | '%' :: digits =>
    let number := if digits.all Char.isDigit then (String.ofList digits).toNat? else none
    found (jobs.find? fun j => some j.1 = number) s!"No such job: {name}"
  | _ => .error s!"No such job: {name}"

def jobLine (s : State) (withNumber : Bool) (number : Nat) (j : Job) : String :=
  let mark := match (s.process.jobs.map (·.1)).idxOf? number with
    | some 0 => "+"
    | some 1 => "-"
    | _ => " "
  let process := if withNumber then s!"{j.processes.getLast?.getD 0} " else ""
  let how := if s.isDone j then
      match (j.processes.head?.bind s.knownEnding?) with
      | some ⟨_, some signal⟩ => (lastWords? signal).getD (signalName signal)
      | some ⟨status, none⟩ => if status = 0 then "Done" else s!"Done({status})"
      | none => "Done"
    else "Running"
  let front := s!"[{number}] {mark} {process}{how}"
  let blanks := String.ofList (List.replicate (33 - front.length) ' ')
  front ++ blanks ++ String.join (j.processes.tail.map fun _ => " | ") ++ "\n"

/-- Tells of a job, which is forgotten after that if it has come to its end. -/
def showJob (s : State) (letters : List Char) (number : Nat) (j : Job) : State :=
  let line := if letters.contains 'p' then s!"{j.processes.getLast?.getD 0}\n"
    else s.jobLine (letters.contains 'l') number j
  let s := s.print line.toList 0
  if s.isDone j && !letters.contains 'p' then s.dropJob number else s

end State

def showJobs (args : List String) (s : State) : State :=
  withOptions "lp" "" args s fun found names =>
    let letters := (found.map (·.1)).reverse.take 1
    let s := (s.notice []).finish 0
    if names = [] then
      s.process.jobs.foldl (fun s (number, j) => s.showJob letters number j) s
    else
      names.foldl (fun s name =>
        if s.flow ≠ .going then s
        else
          match s.jobOf name with
          | .ok (number, j) => s.showJob letters number j
          | .error e => s.error e) s

/-- Tells that a job cannot be brought to the front, or go on behind it. -/
def controlJob (args : List String) (s : State) : State :=
  withOptions "" "" args s fun _ names =>
    match s.jobOf (names.headD "%%") with
    | .ok _ =>
      let name := names.headD "(null)"
      s.error s!"job {name} not created under job control"
    | .error e => s.error e

def sendAll (signal : Nat) (numbers : List Nat) (s : State) : State :=
  numbers.foldl (fun s n =>
    if n = s.process.number then if signal = 0 then s else s.receive signal
    else { s with sent := s.sent ++ [(n, signal)] }) s

def firstProcess : Nat := 1000

/-- The numbers of the processes outside of a script that its signals may go to. -/
def outerProcesses : List Nat := [1, firstProcess - 1]

/-- Sends a signal to a process, or with a negative number to all processes of a group. -/
def sendSignal (signal : Nat) (s : State) (target : Int) : State :=
  let group := if target = 0 then s.process.group else target.natAbs
  let targets := s.peers.filter fun m =>
    !m.noticed && if target ≤ 0 then m.group = group else m.number = target.toNat
  if targets.isEmpty then
    if 0 < target && outerProcesses.contains target.toNat then s
    else (s.warn "No such process\n").finish 1
  else sendAll signal (targets.map (·.number)) s

/-- What is said when signals are sent in a wrong way. -/
def killUsage : String :=
  "Usage: kill [-s sigspec | -signum | -sigspec] [pid | job]... or\nkill -l [exitstatus]"

def nameSignals (args : List String) (s : State) : State :=
  match args with
  | [] => s.printLines (signals.map fun e => if e.1 = 0 then "0" else e.2)
  | a :: _ =>
    match count? a with
    | none => s.error (noNumber a)
    | some n =>
      let signal := if 128 < n then n - 128 else n
      if 0 < signal && signal < 65 then s.printLines [signalName signal]
      else s.error s!"invalid signal number or exit status: {a}"

/-- The number of a signal that can be sent by its number or name. -/
def sendable? (text : String) : Option Nat :=
  (signal? text).filter fun n => n ≠ 0 || text ≠ "" && text.toList.all Char.isDigit

def signalEach (signal : Nat) (targets : List String) (s : State) : State :=
  if targets = [] then s.error killUsage
  else
    targets.foldl (fun s t =>
      if s.flow ≠ .going then s
      else if t.startsWith "%" then
        match s.jobOf t with
        | .ok (_, j) => sendSignal signal s (-((j.processes.getLast?.getD 0 : Nat) : Int))
        | .error e => s.error e
      else
        let (negative, digits) := match t.toList with
          | '-' :: ds => (true, String.ofList ds)
          | _ => (false, t)
        match count? digits with
        | none => s.error (noNumber digits)
        | some n => sendSignal signal s (if negative then -(n : Int) else n)) (s.finish 0)

def kill (args : List String) (s : State) : State :=
  let withLetters : State :=
    let o := options "l" "s" args.length args
    let names := o.found.filter (·.1 = 's')
    match names.find? fun o => (sendable? o.2).isNone, o.fault with
    | some o, _ => s.error s!"invalid signal number or name: {o.2}"
    | none, some e => s.error e
    | none, none =>
      let chosen := (names.getLast?.map (·.2)).bind sendable?
      if o.found.any (·.1 = 'l') then
        if chosen.isSome && o.rest ≠ [] then s.error killUsage else nameSignals o.rest s
      else signalEach (chosen.getD 15) o.rest s
  match args with
  | [] => s.error killUsage
  | a :: targets =>
    match a.toList with
    | '-' :: name =>
      match sendable? (String.ofList name) with
      | some n => signalEach n targets s
      | none => withLetters
    | _ => withLetters

/-- Waits until all processes of some have ended, and gives the status of the first of them.
Where `interruptible` a signal that is trapped ends the waiting. Of endings that signals have
brought about is told if `telling`. -/
def awaitSome (interruptible telling : Bool) (numbers : List Nat) : Nat → Act Nat
  | 0 => Act.lost
  | n + 1 => do
    Act.change (·.notice (if telling then numbers else []))
    let s ← Act.state
    if numbers.all fun n => (s.knownEnding? n).isSome then
      let ending := (numbers.head?.bind s.knownEnding?).getD ⟨0, none⟩
      return ending.code
    else
      match if interruptible then s.process.signals else [] with
      | signal :: _ => return 128 + signal
      | [] =>
        Act.await fun s => !s.unnoticed.isEmpty || interruptible && !s.process.signals.isEmpty
        awaitSome interruptible telling numbers n

/-- Waits until all processes of some have ended, and tells of it. -/
def awaitProcesses (interruptible : Bool) (numbers : List Nat) (n : Nat) : Act Nat :=
  awaitSome interruptible true numbers n

def awaitJob (n : Nat) (number : Nat) (j : Job) : Act Nat := do
  let status ← awaitProcesses true j.processes n
  Act.update fun p =>
    { p with jobs := p.jobs.map fun e =>
        if e.1 = number then (number, { e.2 with awaited := true }) else e }
  return status

def awaitJobs (n : Nat) : List String → Act Unit
  | [] => pure ()
  | a :: args => do
    let s ← Act.state
    let found : Except String (Option (Nat × Job)) :=
      if a.startsWith "%" then (s.jobOf a).map some
      else
        match count? a with
        | none => .error (noNumber a)
        | some number => .ok (s.process.jobs.find? fun j => j.2.processes.head? = some number)
    match found with
    | .error e => Act.error e
    | .ok none => awaitJobs n args
    | .ok (some (number, j)) =>
      let status ← awaitJob n number j
      Act.finish status
      let s ← Act.state
      if s.isDone j then awaitJobs n args

def waitFor (n : Nat) (args : List String) : Act Unit := do
  let o := options "" "" args.length args
  match o.fault, o.rest with
  | some e, _ => Act.error e
  | none, [] =>
    let running ← Act.get fun s => s.process.jobs.filter fun j => !s.isDone j.2
    let status ← awaitSome true false (running.flatMap (·.2.processes)) n
    let s ← Act.state
    let ended := running.all fun j => s.isDone j.2
    Act.update fun p =>
      { p with jobs := p.jobs.map fun e =>
          (e.1, { e.2 with awaited := e.2.awaited || s.isDone e.2 }) }
    Act.finish (if ended then 0 else status)
  | none, names =>
    Act.finish 127
    awaitJobs n names

end Cutover.Shell
