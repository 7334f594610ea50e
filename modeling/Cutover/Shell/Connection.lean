import Cutover.Shell.Number
import Cutover.Shell.State

/-!
# Connections

Connects streams to files, to one another, and to texts in the script.
-/
namespace Cutover.Shell

/-- A change of a stream whose target is known. -/
inductive Connection where
  | file (stream : Nat) (opening : Opening) (path : String)
  | copy (stream source : Nat)
  | close (stream : Nat)
  | document (stream number : Nat)

def Connection.stream : Connection → Nat
  | .file stream _ _ | .copy stream _ | .close stream | .document stream _ => stream

def copyOf? (stream : Nat) (source : String) : Option Connection :=
  match source.toList with
  | ['-'] => some (.close stream)
  | [c] => if c.isDigit then some (.copy stream (c.toNat - '0'.toNat)) else none
  | _ => none

namespace Opening

def access : Opening → Access
  | input => ⟨true, false, false⟩
  | inputOutput => ⟨true, true, false⟩
  | output | forced => ⟨false, true, false⟩
  | appending => ⟨false, true, true⟩

def empties : Opening → Bool
  | output | forced => true
  | _ => false

def pipeEnd (o : Opening) (pipe : Nat) : Channel :=
  match o with
  | input => .outlet pipe
  | inputOutput => .throughout pipe
  | _ => .inlet pipe

def refusal (o : Opening) (path : String) (e : FileError) : String :=
  let what := if o = input then "open" else "create"
  let why := match e with
    | .notFound | .notAFolder => if o = input then "No such file" else "Directory nonexistent"
    | e => e.cause
  s!"cannot {what} {path}: {why}"

end Opening

/-- A file that has been opened, and what has to hold before it can be used. -/
structure OpenFile where
  state : State
  ready : State → Bool := fun _ => true

namespace State

/-- Connects a stream to another one; to itself it stays connected as it is. -/
def copyStream (s : State) (stream source : Nat) : Except String State :=
  if stream = source then .ok s
  else match s.channelOf source with
  | .ok i => .ok (s.connect stream (some i))
  | .error e => .error s!"{source}: {e}"

/-- Opens a pipe by its name. Unless both its ends are opened somebody else has to open the
other one. -/
def openQueue (s : State) (stream : Nat) (opening : Opening) (number : Nat) : OpenFile :=
  let s := s.tidy
  let inUse (e : Nat × Pipe) : Bool :=
    e.2.node = some number && (s.hasReaders e.1 || s.hasWriters e.1)
  let (i, s) := match s.pipes.find? inUse with
    | some (i, _) => (i, s)
    | none => s.addPipe { node := some number }
  let p := s.pipe i
  let (c, s) := s.addChannel (opening.pipeEnd i)
  let s := s.connect stream (some c)
  match opening with
  | .inputOutput => { state := s }
  | .input =>
    { state := s.setPipe i { p with outlets := p.outlets + 1 }
      ready := fun s => p.inlets < (s.pipe i).inlets || s.hasWriters i }
  | _ =>
    { state := s.setPipe i { p with inlets := p.inlets + 1 }
      ready := fun s => p.outlets < (s.pipe i).outlets || s.hasReaders i }

def openFileNode (s : State) (stream : Nat) (opening : Opening) (number : Nat) : OpenFile :=
  let s := if opening.empties
    then { s with files := s.files.refill number (.file ByteArray.empty) } else s
  { state := s.attach stream (.file number 0 opening.access) }

def openStream (s : State) (stream : Nat) (opening : Opening) (source : Nat) :
    Except FileError OpenFile :=
  match s.channel source with
  | .error _ => .error .notFound
  | .ok (i, c) =>
    match c with
    | .file number _ _ => .ok (s.openFileNode stream opening number)
    | .outlet p | .inlet p | .throughout p => .ok { state := s.attach stream (opening.pipeEnd p) }
    | _ => .ok { state := s.connect stream (some i) }

def openNode (s : State) (stream : Nat) (opening : Opening) (number : Nat) :
    FileEntry → Except FileError OpenFile
  | .folder =>
    if opening = .input then .ok { state := s.attach stream (.folder number) }
    else .error .isAFolder
  | .file _ => .ok (s.openFileNode stream opening number)
  | .device .terminal => .error .noDevice
  | .device d => .ok { state := s.attach stream (.device d opening.access) }
  | .program _ => .ok { state := s.attach stream (.device .null opening.access) }
  | .queue => .ok (s.openQueue stream opening number)
  | .stream source => s.openStream stream opening source
  | .link _ => .error .notFound

/-- Opens the file that a path leads to. A file that is not there is made, unless it is to be
read. -/
def openPath (s : State) (stream : Nat) (opening : Opening) (path : String) :
    Except FileError OpenFile :=
  if opening ≠ .input && path ≠ "" && path.toList.getLast? = some '/' then
    .error (s.files.folderFault (s.folder?.getD []) (Text.readable path))
  else
    match s.locate path with
    | .error e => .error e
    | .ok (p, some e) => s.openNode stream opening ((s.files.number? p).getD 0) e
    | .ok (p, none) =>
      if opening = .input then .error .notFound
      else
        let s := s.make p (.file ByteArray.empty) 0o666
        .ok (s.openFileNode stream opening ((s.files.number? p).getD 0))

/-- Connects a stream to a file, or tells why that cannot be done. Under one option files are
protected from being emptied. -/
def openFile (s : State) (stream : Nat) (opening : Opening) (path : String) :
    Except String OpenFile :=
  let opened (opening shown : Opening) : Except String OpenFile :=
    (s.openPath stream opening path).mapError (shown.refusal path)
  if opening = .output && s.option 'C' then
    match s.entryAt? path, s.locateLink path with
    | some (.file _), _ | none, .ok (_, some _) =>
      .error (opening.refusal path .alreadyThere)
    | some _, _ => opened .appending .input
    | none, _ => opened opening opening
  else opened opening opening

end State

end Cutover.Shell
