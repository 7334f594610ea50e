import Cutover.Shell.State

/-!
# Tasks

What a process does is told step by step, so that others can go on in between. A task has come
to its end, or waits, or starts another process. An act is a part of a task: it goes on with a
value, or it stops where the flow says that something else is to happen.
-/
namespace Cutover.Shell

/-- What a process does next. -/
inductive Task where
  | ended (s : State)
  /-- Waits until something holds, or until a time. -/
  | pause (s : State) (wake : Option Nat) (ready : State → Bool) (next : State → Task)
  | fork (s : State) (child : Process) (first next : State → Task)

/-- A part of a task: how it goes on where it stops, and where it has given a value. -/
def Act (α : Type) : Type := (State → Task) → (α → State → Task) → State → Task

namespace Act

variable {α β : Type}

instance : Monad Act where
  pure a := fun _ next s => next a s
  bind x f := fun stop next s => x stop (fun a s => f a stop next s) s

def state : Act State := fun _ next s => next s s

def get (f : State → α) : Act α := fun _ next s => next (f s) s

def proceed (stop next : State → Task) (s : State) : Task :=
  if s.flow = .going then next s else stop s

def change (f : State → State) : Act Unit := fun stop next s => proceed stop (next ()) (f s)

def draw (f : State → α × State) : Act α := fun stop next s =>
  let (a, s) := f s
  proceed stop (next a) s

/-- Changes the state in the end, however an act comes out. -/
def settle (a : Act Unit) (f : State → State) : Act Unit := fun stop next s =>
  let go (s : State) : Task := proceed stop (next ()) (f s)
  a go (fun _ s => go s) s

def onStop (a : Act α) (f : State → State) : Act α := fun stop next => a (fun s => stop (f s)) next

/-- Goes on after an act, however it comes out, with the flow as the act has left it. -/
def caught (a : Act Unit) : Act Unit := fun _ next => a (next ()) next

/-- Gives the value of an act, or nothing if an error has ended it. -/
def attempt (a : Act α) : Act (Option α) := fun stop next s =>
  let go (s : State) : Task := if s.flow = .failed then next none (s.turn .going) else stop s
  a go (fun x => next (some x)) s

def update (f : Process → Process) : Act Unit := change (·.update f)

def finish (status : Nat) : Act Unit := change (·.finish status)

def error (message : String) : Act Unit := change (·.error message)

def lost : Act α := fun stop _ s => stop (s.turn .lost)

/-- Waits until something holds, or until a time. -/
def pause (wake : Option Nat) (ready : State → Bool) : Act Unit := fun _ next s =>
  .pause s wake ready (next ())

/-- Waits until something holds that need not hold yet. -/
def await (ready : State → Bool) : Act Unit := fun _ next s =>
  if ready s then next () s else .pause s none ready (next ())

def delay (microseconds : Nat) : Act Unit := fun _ next s =>
  .pause s (some (s.elapsed + microseconds)) (fun _ => false) (next ())

def endTime : Nat := 150

def task (a : Act Unit) : State → Task :=
  let finish (s : State) : Task := .pause s (some (s.elapsed + endTime)) (fun _ => false) .ended
  a finish fun _ => finish

/-- Starts another process, and gives its number. -/
def fork (prepare : State → Process) (child : Act Unit) : Act Nat := fun _ next s =>
  let number := s.nextProcess
  .fork { s with nextProcess := number + 1 }
    { prepare s with number, parent := s.process.number } child.task (next number)

/-- Waits until a stream has something to give, or has come to its end, or a trap is to run. -/
def awaitInput (stream : Nat) : Act Unit :=
  await fun s => s.isReady stream || !s.process.signals.isEmpty

def take (stream : Nat) (choose : ByteArray → ByteArray) : Act (Except String ByteArray) := do
  awaitInput stream
  draw fun s =>
    match s.take stream choose with
    | .ok (bytes, s) => (.ok bytes, s)
    | .error e => (.error e, s)

def takeAll (stream : Nat) : Act (Except String ByteArray) := do
  match ← get (·.channel stream) with
  | .ok (_, .outlet i) | .ok (_, .throughout i) =>
    change fun s => s.setPipe i { s.pipe i with drained := true }
    await (·.isOver stream)
  | _ => if ← get (·.isEndless stream) then await fun _ => false
  take stream id

/-- Waits until there is room for more after something has been written on a stream. Where
nobody reads any more that ends a process. -/
def awaitRoom (stream : Nat) : Act Unit := fun stop next s =>
  if s.isFull stream then
    let go (s : State) : Task :=
      let left := match s.channel stream with
        | .ok (_, .inlet i) | .ok (_, .throughout i) => s.hasReaders i
        | _ => true
      proceed stop (next ()) (if left then s else s.receive 13)
    .pause s none (!·.isFull stream) go
  else next () s

end Act

end Cutover.Shell
