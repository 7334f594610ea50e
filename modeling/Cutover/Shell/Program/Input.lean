import Cutover.Shell.Connection
import Cutover.Shell.Program.Usage

/-!
# The inputs of programs

Programs read files, or their own input where no file is given or a hyphen stands for one. What
they read comes in parts, and is handed on as far as it has come, line by line if need be.
-/
namespace Cutover.Shell

/-- The stream on which a program reads its operands; no script can name it. -/
def operandStream : Nat := 1000

/-- The lines of a text with what ends them; nothing may end the last one. -/
def linesOf (ending : Char) (s : List Char) : List (List Char) :=
  let rec go (line : List Char) : List Char → List (List Char)
    | [] => if line = [] then [] else [line.reverse]
    | c :: s => if c = ending then (c :: line).reverse :: go [] s else go (c :: line) s
  go [] s

def bare (ending : Char) (line : List Char) : List Char :=
  if line.getLast? = some ending then line.dropLast else line

/-- A text moved to the right of so many places. -/
def rightIn (width : Nat) (text : String) : String :=
  String.ofList (List.replicate (width - text.length) ' ') ++ text

/-- What is wrong with an input. -/
structure InputFault where
  atOpening : Bool
  why : String

def toldAfter (name why : String) : String := Quoted.named name ++ ": " ++ why

/-- How a program tells of inputs that it cannot read. -/
structure Telling where
  told : String → InputFault → String := fun name fault => toldAfter name fault.why
  /-- What the input of the program is called where it cannot be closed. -/
  own : String := "-"
  status : Nat := 1

namespace Act

variable {σ : Type}

def openPath (stream : Nat) (opening : Opening) (path : String) : Act (Except FileError Unit) := do
  let ready : Except FileError (State → Bool) ← draw fun s =>
    match s.openPath stream opening path with
    | .ok opened => (.ok opened.ready, opened.state)
    | .error e => (.error e, s)
  match ready with
  | .error e => return .error e
  | .ok ready =>
    await ready
    return .ok ()

def close (stream : Nat) : Act Unit := change (·.connect stream none)

/-- Does something with the stream on which an operand can be read. -/
def withInput (arg : String) (f : Nat → Act (Except String σ)) : Act (Except InputFault σ) := do
  if arg = "-" then return (← f 0).mapError (⟨false, ·⟩)
  else
    match ← openPath operandStream .input arg with
    | .error e => return .error ⟨true, e.cause⟩
    | .ok () =>
      let result ← f operandStream
      close operandStream
      return result.mapError (⟨false, ·⟩)

def readInput (arg : String) : Act (Except InputFault ByteArray) := withInput arg takeAll

/-- How long it takes to read something that has no end, in microseconds. -/
def endlessTime : Nat := 100

def overPartsUntil (isDone : σ → Bool) (stream : Nat) (step : σ → List Char → Act σ) :
    Nat → σ → Act (Except String σ)
  | 0, _ => lost
  | n + 1, state => do
    if isDone state then return .ok state
    match ← take stream id with
    | .error e => return .error e
    | .ok bytes =>
      if bytes.isEmpty then return .ok state
      else
        let state ← step state (Text.ofBytes bytes)
        if ← get (·.isEndless stream) then delay endlessTime
        overPartsUntil isDone stream step n state

def overParts (stream : Nat) (step : σ → List Char → Act σ) : Nat → σ → Act (Except String σ) :=
  overPartsUntil (fun _ => false) stream step

def overLinesUntil (isDone : σ → Bool) (ending : Char) (stream : Nat)
    (step : σ → List (List Char) → Act σ) (n : Nat) (state : σ) : Act (Except String σ) := do
  let take (held : σ × List Char) (part : List Char) : Act (σ × List Char) := do
    let lines := linesOf ending (held.2 ++ part)
    let last := lines.getLastD []
    let isOpen := last.getLast? ≠ some ending
    let whole := if isOpen then lines.dropLast else lines
    let state ← if whole = [] then pure held.1 else step held.1 whole
    return (state, if isOpen then last else [])
  match ← overPartsUntil (fun held => isDone held.1) stream take n (state, []) with
  | .error e => return .error e
  | .ok (state, []) => return .ok state
  | .ok (state, line) => if isDone state then return .ok state else return .ok (← step state [line])

def overLines (ending : Char) (stream : Nat) (step : σ → List (List Char) → Act σ) (n : Nat)
    (state : σ) : Act (Except String σ) :=
  overLinesUntil (fun _ => false) ending stream step n state

/-- Uses all inputs one after the other, and tells of those that cannot be read. -/
def eachInput (program : String) (t : Telling) (use : σ → String → Nat → Act (Except String σ)) :
    List String → σ → Act σ
  | [], state => return state
  | arg :: args, state => do
    match ← withInput arg (use state arg) with
    | .ok state => eachInput program t use args state
    | .error fault =>
      failed program (t.told arg fault) t.status
      eachInput program t use args state

def closeOwn (program : String) (t : Telling) (inputs : List String) : Act Unit := do
  if inputs.contains "-" && !(← get fun s => (s.channelOf 0).isOk) then
    failed program s!"{t.own}: {badStream}" t.status

def eachPart (n : Nat) (program : String) (t : Telling) (step : σ → List Char → Act σ)
    (inputs : List String) (state : σ) : Act σ := do
  let state ← eachInput program t (fun state _ stream => overParts stream step n state) inputs state
  closeOwn program t inputs
  return state

def eachLine (ending : Char) (n : Nat) (program : String) (t : Telling)
    (step : σ → List (List Char) → Act σ) (inputs : List String) (state : σ) : Act σ := do
  let use (state : σ) (_ : String) (stream : Nat) := overLines ending stream step n state
  let state ← eachInput program t use inputs state
  closeOwn program t inputs
  return state

def eachOperand (program : String) (r : Request) (missing : String)
    (f : State → String → State) : Act Unit := do
  change fun s =>
    if r.operands.isEmpty then s.misused program missing 1 else r.operands.foldl f (s.finish 0)
  awaitRoom 1

end Act

namespace Request

def inputs (r : Request) : List String := if r.operands.isEmpty then ["-"] else r.operands

/-- What ends the lines: a newline, or a zero if an option asks for that. -/
def lineEnding (r : Request) : Char := if r.has 'z' then '\x00' else '\n'

end Request

/-- Whether what is read on a stream has been put out to the same file. -/
def State.readsOutput (s : State) (stream : Nat) : Bool :=
  match s.channel stream, s.channel 1 with
  | .ok (_, .file a position _), .ok (_, .file b _ _) => a = b && position < (s.content a).size
  | _, _ => false

def State.failed (s : State) (program text : String) (status : Nat) : State :=
  (s.complain program text).finish status

end Cutover.Shell
