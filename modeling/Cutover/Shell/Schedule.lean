import Cutover.Shell.Task

/-!
# Running processes side by side

Each process has its own time. The one that can go on first goes on until it waits or starts
another one; so what happens, happens in the order of the times.
-/
namespace Cutover.Shell

/-- A process that waits. -/
structure Waiting where
  process : Process
  since : Nat
  wake : Option Nat
  ready : State → Bool
  next : State → Task

/-- All processes that have not ended, and what they share. -/
structure World where
  state : State
  waiting : List Waiting

def forkTime : Nat := 100

namespace Waiting

def view (w : Waiting) (s : State) : State := { s with process := w.process }

/-- When a process can go on, if nothing changes before. -/
def start? (w : Waiting) (s : State) : Option Nat :=
  if w.process.stopped then none
  else if w.ready (w.view s) then some (max w.since s.elapsed)
  else w.wake.map (max s.elapsed)

end Waiting

namespace State

/-- Notes which channels the process keeps open. -/
def publish (s : State) : State :=
  let channels := s.process.channels
  s.alterPeer s.process.number fun m => { m with channels }

/-- Notes the ending of a process. What it has started has no parent from then on. -/
def bury (s : State) (number : Nat) (ending : Ending) : State :=
  match s.peers.find? (·.number = number) with
  | none => s
  | some m =>
    let orphaned (m : Peer) : Peer := if m.parent = number then { m with parent := 1 } else m
    let rest := (s.peers.filter (·.number ≠ number)).map orphaned
    let rest := rest.filter fun m => !(m.parent = 1 && m.ending.isSome)
    { s with
      peers := rest ++ [{ m with channels := [], ending := some ending }]
      sent := s.sent ++ [(m.parent, 17)] }

end State

namespace World

def start (s : State) (a : Act Unit) : World :=
  { state := s
    waiting := [⟨s.process, s.elapsed, some s.elapsed, fun _ => false, a.task⟩] }

def deliver (w : World) (number signal : Nat) : World :=
  w.waiting.foldl (fun w e =>
    if e.process.number = number && e.process.killer.isNone then
      let s := (e.view w.state).receive signal
      if s.flow = .ended then
        let ending : Waiting :=
          { process := { s.process with stopped := false }, since := s.elapsed
            wake := some (s.elapsed + Act.endTime), ready := fun _ => false, next := .ended }
        { state := { s with process := w.state.process }, waiting := w.waiting ++ [ending] }
      else
        { state := { s with process := w.state.process }
          waiting := w.waiting ++ [{ e with process := s.process }] }
    else { w with waiting := w.waiting ++ [e] }) { w with waiting := [] }

def deliverAll : Nat → World → World
  | 0, w => w
  | n + 1, w =>
    match w.state.sent with
    | [] => w
    | sent =>
      let w := { w with state := { w.state with sent := [] } }
      deliverAll n (sent.foldl (fun w e => w.deliver e.1 e.2) w)

/-- The world after a process has done something while the others waited. -/
def after (others : List Waiting) : Task → World
  | .ended s =>
    { state := s.bury s.process.number s.process.ending, waiting := others }
  | .pause s wake ready next =>
    { state := s.publish, waiting := others ++ [⟨s.process, s.elapsed, wake, ready, next⟩] }
  | .fork s child first next =>
    let s := s.publish
    let later := s.elapsed + forkTime
    let idle (_ : State) : Bool := false
    { state := { s with peers := child.peer :: s.peers }
      waiting := others ++
        [⟨s.process, s.elapsed, some later, idle, next⟩,
          ⟨child, s.elapsed, some (later + forkTime), idle, first⟩] }

def first? (w : World) : Option (Nat × Waiting) :=
  w.waiting.foldl (fun best e =>
    match e.start? w.state, best with
    | some time, some (before, _) => if time < before then some (time, e) else best
    | some time, none => some (time, e)
    | none, best => best) none

def signalRounds : Nat := 100

def without (w : World) (number : Nat) : World :=
  { w with waiting := w.waiting.filter (·.process.number ≠ number) }

def step (w : World) (time : Nat) (e : Waiting) : World :=
  let others := (w.without e.process.number).waiting
  let s :=
    { w.state with
      process := e.process
      elapsed := time
      files := { w.state.files with now := w.state.files.now + (time - w.state.elapsed) } }
  (after others (e.next s)).deliverAll signalRounds

/-- Lets the processes run until something holds or the time is up. -/
def run (done : State → Bool) (limit : Nat) : Nat → World → World
  | 0, w => w
  | n + 1, w =>
    if done w.state then w
    else
      match w.first? with
      | none => w
      | some (time, e) => if limit ≤ time then w else run done limit n (w.step time e)

end World

end Cutover.Shell
