import Cutover.Files.Change
import Cutover.Shell.Number
import Cutover.Shell.Process
import Cutover.Text.Bytes

/-!
# The state of a running script

What a process can see and change. The files, the channels and the time are shared by all
processes; the rest belongs to the one that is running.
-/
namespace Cutover.Shell

/-- What a file may be used for through a channel. -/
structure Access where
  reads : Bool
  writes : Bool
  /-- Whether each write goes to the end of the file. -/
  appends : Bool := false

/-- What a stream is connected to. -/
inductive Channel where
  | errors
  | dropped
  | device (d : Device) (access : Access)
  | folder (number : Nat)
  | file (number position : Nat) (access : Access)
  | stored (bytes : ByteArray) (position : Nat)
  | outlet (pipe : Nat)
  | inlet (pipe : Nat)
  | throughout (pipe : Nat)

/-- Bytes on their way from one process to another. -/
structure Pipe where
  bytes : ByteArray := ByteArray.empty
  taken : Nat := 0
  drained : Bool := false
  node : Option Nat := none
  /-- How often each end has been opened by name. -/
  inlets : Nat := 0
  outlets : Nat := 0

/-- How many bytes a pipe takes before they have to be taken out. -/
def Pipe.capacity : Nat := 65536

def Pipe.size (p : Pipe) : Nat := p.bytes.size - p.taken

def Pipe.push (p : Pipe) (bytes : ByteArray) : Pipe :=
  if p.taken = p.bytes.size then { p with bytes, taken := 0 }
  else { p with bytes := p.bytes ++ bytes }

/-- All that a process can see and change. -/
structure State where
  files : FileTree
  channels : List (Nat × Channel)
  pipes : List (Nat × Pipe) := []
  nextChannel : Nat
  /-- The error output so far, the last part first. -/
  errors : List ByteArray := []
  /-- The texts in all scripts read so far. -/
  documents : Array Word := #[]
  /-- When the time is up, and the time that has passed, in microseconds. -/
  limit : Nat
  elapsed : Nat := 0
  /-- All processes, those that have ended at the end in the order of their endings. -/
  peers : List Peer
  nextProcess : Nat
  sent : List (Nat × Nat) := []
  process : Process

def badStream : String := "Bad file descriptor"

/-- What is wrong with a pipe that nobody takes anything out of. -/
def brokenPipe : String := "Broken pipe"

namespace State

/-- How the last command came out. -/
def status (s : State) : Nat := s.process.status

def flow (s : State) : Flow := s.process.flow

def update (s : State) (f : Process → Process) : State := { s with process := f s.process }

def finish (s : State) (status : Nat) : State := s.update fun p => { p with status }

def turn (s : State) (flow : Flow) : State := s.update fun p => { p with flow }

def errorOutput (s : State) : ByteArray :=
  s.errors.reverse.foldl (· ++ ·) ByteArray.empty

/-! ### Processes -/

def others (s : State) : List Peer := s.peers.filter (·.number ≠ s.process.number)

/-- Whether some process keeps a channel of a kind open. -/
def someHolds (s : State) (p : Channel → Bool) : Bool :=
  let holds (channels : List Nat) : Bool := channels.any fun i => (s.channels.lookup i).any p
  holds s.process.channels || s.others.any fun m => holds m.channels

def children (s : State) : List Peer := s.peers.filter (·.parent = s.process.number)

/-- The children that have ended and that nobody knows of. -/
def unnoticed (s : State) : List Peer :=
  s.children.filter fun m => m.ending.isSome && !m.noticed

/-- How a process has ended, if it has. -/
def endingOf? (s : State) (number : Nat) : Option Ending :=
  (s.peers.find? (·.number = number)).bind (·.ending)

def haveEnded (s : State) (numbers : List Nat) : Bool :=
  numbers.all fun n => !s.peers.any fun m => m.number = n && m.ending.isNone

def alterPeer (s : State) (number : Nat) (f : Peer → Peer) : State :=
  { s with peers := s.peers.map fun m => if m.number = number then f m else m }

/-- The signals that do nothing unless they are trapped. -/
def harmless : List Nat := [0, 17, 18, 23, 28]

/-- The signals that stop a process unless they are trapped. -/
def stopping : List Nat := [19, 20, 21, 22]

def untrappable : List Nat := [9, 19]

/-- Takes a signal: a trap may wait for it, and most signals end a process otherwise. -/
def receive (s : State) (signal : Nat) : State :=
  let s := if signal = 18 then s.update fun p => { p with stopped := false } else s
  let action := if untrappable.contains signal then none
    else if s.process.ignored.contains signal then some ""
    else s.process.traps.lookup signal
  match action with
  | some "" => s
  | some _ => s.update fun p => { p with signals := signal :: p.signals.filter (· ≠ signal) }
  | none =>
    if harmless.contains signal then s
    else if stopping.contains signal then s.update fun p => { p with stopped := true }
    else s.update fun p => { p with killer := some signal, flow := .ended }

/-! ### Channels -/

def channelOf (s : State) (stream : Nat) : Except String Nat :=
  match s.process.streams.lookup stream with
  | some i => .ok i
  | none => .error badStream

def channel (s : State) (stream : Nat) : Except String (Nat × Channel) :=
  match s.channelOf stream with
  | .error e => .error e
  | .ok i => .ok (i, (s.channels.lookup i).getD .dropped)

def setChannel (s : State) (i : Nat) (c : Channel) : State :=
  { s with channels := s.channels.map fun e => if e.1 = i then (i, c) else e }

def pipe (s : State) (i : Nat) : Pipe := (s.pipes.lookup i).getD {}

def setPipe (s : State) (i : Nat) (p : Pipe) : State :=
  { s with pipes := s.pipes.map fun e => if e.1 = i then (i, p) else e }

/-- How many channels may be known before those that nobody keeps open are forgotten. -/
def mostChannels : Nat := 64

def pipeOf? : Channel → Option Nat
  | .outlet i | .inlet i | .throughout i => some i
  | _ => none

/-- Forgets the channels and pipes that nobody keeps open. -/
def sweep (s : State) : State :=
  let held := s.process.channels ++ s.others.flatMap (·.channels)
  let channels := s.channels.filter fun e => held.contains e.1
  let ends := channels.filterMap fun e => pipeOf? e.2
  { s with channels, pipes := s.pipes.filter fun e => ends.contains e.1 }

def tidy (s : State) : State := if s.channels.length < mostChannels then s else s.sweep

def addChannel (s : State) (c : Channel) : Nat × State :=
  (s.nextChannel,
    { s with
      channels := (s.nextChannel, c) :: s.channels
      nextChannel := s.nextChannel + 1 })

def addPipe (s : State) (p : Pipe) : Nat × State :=
  (s.nextChannel,
    { s with pipes := (s.nextChannel, p) :: s.pipes, nextChannel := s.nextChannel + 1 })

def connect (s : State) (stream : Nat) (channel : Option Nat) : State :=
  let others := s.process.streams.filter (·.1 ≠ stream)
  let streams := match channel with
    | some i => (stream, i) :: others
    | none => others
  s.update fun p => { p with streams }

def attach (s : State) (stream : Nat) (c : Channel) : State :=
  let (i, s) := s.tidy.addChannel c
  s.connect stream (some i)

/-- Sets the channels that are kept open besides those of the streams. -/
def hold (s : State) (held : List Nat) : State := s.update fun p => { p with held }

/-- Adds a pipe, and gives the numbers of its ends, where bytes are taken out and put in. Both
are kept open. -/
def newPipe (s : State) : (Nat × Nat) × State :=
  let (p, s) := s.tidy.addPipe {}
  let (outlet, s) := s.addChannel (.outlet p)
  let (inlet, s) := s.addChannel (.inlet p)
  ((outlet, inlet), s.hold (outlet :: inlet :: s.process.held))

/-- Whether somebody can put bytes into a pipe. -/
def hasWriters (s : State) (pipe : Nat) : Bool :=
  s.someHolds fun
    | .inlet i | .throughout i => i = pipe
    | _ => false

/-- Whether somebody can take bytes out of a pipe. -/
def hasReaders (s : State) (pipe : Nat) : Bool :=
  s.someHolds fun
    | .outlet i | .throughout i => i = pipe
    | _ => false

/-- Whether a stream has something to give, or an end. -/
def isReady (s : State) (stream : Nat) : Bool :=
  match s.channel stream with
  | .ok (_, .outlet i) | .ok (_, .throughout i) => 0 < (s.pipe i).size || !s.hasWriters i
  | _ => true

def isOver (s : State) (stream : Nat) : Bool :=
  match s.channel stream with
  | .ok (_, .outlet i) | .ok (_, .throughout i) => !s.hasWriters i
  | _ => true

/-- Whether what is read on a stream stays where it is, so that one can go back. -/
def stays (s : State) (stream : Nat) : Bool :=
  match s.channel stream with
  | .ok (_, .file _ _ _) | .ok (_, .stored _ _) => true
  | _ => false

def isEndless (s : State) (stream : Nat) : Bool :=
  match s.channel stream with
  | .ok (_, .device .zero access) | .ok (_, .device .full access) => access.reads
  | _ => false

/-- Whether what is written on a stream has to be taken away first. -/
def isFull (s : State) (stream : Nat) : Bool :=
  match s.channel stream with
  | .ok (_, .inlet i) | .ok (_, .throughout i) =>
    let p := s.pipe i
    !p.drained && Pipe.capacity ≤ p.size && s.hasReaders i
  | _ => false

/-! ### Bytes -/

def content (s : State) (number : Nat) : ByteArray :=
  match s.files.nodes[number]? with
  | some ⟨.file bytes, _, _⟩ => bytes
  | _ => ByteArray.empty

def zeros (n : Nat) : ByteArray := ⟨Array.replicate n 0⟩

/-- How much is read of what has no end, at a time. -/
def largestChunk : Nat := 65536

def unread (s : State) : Channel → Except String ByteArray
  | .stored bytes position => .ok (bytes.extract position bytes.size)
  | .file number position access =>
    if access.reads then
      let bytes := s.content number
      .ok (bytes.extract position bytes.size)
    else .error badStream
  | .device d access =>
    if !access.reads then .error badStream
    else
      match d with
      | .full | .zero => .ok (zeros largestChunk)
      | _ => .ok ByteArray.empty
  | .folder _ => .error FileError.isAFolder.cause
  | .outlet i | .throughout i =>
    let p := s.pipe i
    .ok (p.bytes.extract p.taken p.bytes.size)
  | .errors | .dropped | .inlet _ => .error badStream

/-- The state after so many bytes have been read from a channel. -/
def skip (s : State) (i : Nat) (c : Channel) (n : Nat) : State :=
  match c with
  | .stored bytes position => s.setChannel i (.stored bytes (position + n))
  | .file number position access => s.setChannel i (.file number (position + n) access)
  | .outlet i | .throughout i =>
    let p := s.pipe i
    s.setPipe i { p with taken := p.taken + n }
  | _ => s

/-- How far a file has been read on a stream. -/
def offset? (s : State) (stream : Nat) : Option Nat :=
  match s.channel stream with
  | .ok (_, .file _ position _) | .ok (_, .stored _ position) => some position
  | _ => none

/-- Goes back by so many bytes in a file that is read on a stream. -/
def goBack (s : State) (stream n : Nat) : State :=
  match s.channel stream with
  | .ok (i, .file number position access) =>
    s.setChannel i (.file number (position - n) access)
  | .ok (i, .stored bytes position) => s.setChannel i (.stored bytes (position - n))
  | _ => s

def take (s : State) (stream : Nat) (choose : ByteArray → ByteArray) :
    Except String (ByteArray × State) :=
  match s.channel stream with
  | .error e => .error e
  | .ok (i, c) =>
    match s.unread c with
    | .error e => .error e
    | .ok bytes =>
      let taken := choose bytes
      .ok (taken, s.skip i c taken.size)

def overlay (content bytes : ByteArray) (position : Nat) : ByteArray :=
  if position = content.size then content ++ bytes
  else
    content.extract 0 position ++ zeros (position - content.size) ++ bytes ++
      content.extract (position + bytes.size) content.size

/-- Writes on a stream, and tells what is wrong with that. To write where nobody reads any more
ends a process, or is a fault if it does not. -/
def write (s : State) (stream : Nat) (bytes : ByteArray) : State × Option String :=
  match s.channel stream with
  | .error e => (s, some e)
  | .ok (i, c) =>
    match c with
    | .errors => ({ s with errors := bytes :: s.errors }, none)
    | .dropped => (s, none)
    | .device d access =>
      if !access.writes then (s, some badStream)
      else if d = .full && !bytes.isEmpty then (s, some FileError.noSpace.cause)
      else (s, none)
    | .inlet i | .throughout i =>
      if s.hasReaders i then (s.setPipe i ((s.pipe i).push bytes), none)
      else (s.receive 13, some brokenPipe)
    | .file number position access =>
      if access.writes then
        let before := s.content number
        let start := if access.appends then before.size else position
        let s := s.setChannel i (.file number (start + bytes.size) access)
        ({ s with files := s.files.refill number (.file (overlay before bytes start)) }, none)
      else (s, some badStream)
    | .folder _ | .stored _ _ | .outlet _ => (s, some badStream)

def put (s : State) (stream : Nat) (text : String) : State :=
  (s.write stream (Text.toBytes text.toList)).1

/-- Tells of a fault, with the script, the line and the command that is running. -/
def warn (s : State) (message : String) : State :=
  let command := match s.process.running with
    | some c => c ++ ": "
    | none => ""
  s.put 2 s!"{s.process.name}: {s.process.line}: {command}{message}\n"

def error (s : State) (message : String) : State := ((s.warn message).finish 2).turn .failed

def print (s : State) (bytes : List Char) (status : Nat) : State :=
  match s.write 1 (Text.toBytes bytes) with
  | (s, none) => s.finish status
  | (s, some _) =>
    if s.flow ≠ .going then s
    else
      let command := s.process.running.getD ""
      (s.warn s!"{command}: I/O error").finish (max status 1)

/-! ### Files -/

def folder? (s : State) : Option Place := s.files.placeOf? s.process.folder

def locateBy (s : State) (follow : FileTree → Place → String → FileTree.Target) (path : String) :
    FileTree.Target :=
  let path := Text.readable path
  match s.folder? with
  | some place => follow s.files place path
  | none => if Path.isAbsolute path then follow s.files [] path else .error .notFound

def locate (s : State) (path : String) : FileTree.Target := s.locateBy FileTree.locate path

def locateLink (s : State) (path : String) : FileTree.Target :=
  s.locateBy FileTree.locateLink path

def entryAt? (s : State) (path : String) : Option FileEntry :=
  match s.locate path with
  | .ok (_, e) => e
  | .error _ => none

def entryOfStream? (s : State) (stream : Nat) : Option FileEntry :=
  match s.channel stream with
  | .error _ => none
  | .ok (_, .file number _ _) => (s.files.nodes[number]?).map (·.entry)
  | .ok (_, .folder _) => some .folder
  | .ok (_, .device d _) => some (.device d)
  | .ok _ => some .queue

def nodeAt? (s : State) (path : String) : Option Node :=
  match s.locate path with
  | .ok (p, _) => s.files.node? p
  | .error _ => none

def isFolder (s : State) (path : String) : Bool :=
  match s.entryAt? path with
  | some .folder => true
  | _ => false

/-- Puts something new at a place, with what the process lets it be used for. -/
def make (s : State) (p : Place) (e : FileEntry) (mode : Nat) : State :=
  let allowed := match e with
    | .link _ => mode
    | _ => mode &&& (0o777 - s.process.mask % 512)
  { s with files := s.files.add p e allowed }

/-! ### Options and variables -/

def option (s : State) (letter : Char) : Bool := s.process.options.contains letter

def entry? (s : State) (name : String) : Option Variable := s.process.vars.lookup name

def value? (s : State) (name : String) : Option String := (s.entry? name).bind (·.value)

def setVariable (s : State) (name : String) (v : Option Variable) : State :=
  s.update fun p =>
    { p with vars := match v with
      | none => p.vars.filter (·.1 ≠ name)
      | some v =>
        if (p.vars.lookup name).isSome then
          p.vars.map fun e => if e.1 = name then (name, v) else e
        else (name, v) :: p.vars }

/-- What comes along with a new value of some variables: the options of the script are looked at
from an argument on, and programs have to be looked for again. -/
def followed (s : State) (name value : String) : Except String State :=
  if name = "OPTIND" then
    match count? value with
    | some next => .ok (s.update fun p => { p with next := max next 1, letters := none })
    | none => .error (noNumber value)
  else if name = "PATH" then .ok (s.update fun p => { p with found := [] })
  else .ok s

/-- Sets the value of a variable, or tells what is wrong with its name, which ends before an equals
sign. -/
def assigned (s : State) (name value : String) (exported : Bool) : Except String State :=
  let name := String.ofList (name.toList.takeWhile (· ≠ '='))
  let old := (s.entry? name).getD { value := none }
  if !isName name then .error s!"{name}: bad variable name"
  else if old.readOnly then .error s!"{name}: is read only"
  else
    (s.followed name value).map fun s => s.setVariable name
      (some { old with value, exported := old.exported || exported || s.option 'a' })

def assign (s : State) (name value : String) : State :=
  match s.assigned name value false with
  | .ok s => s
  | .error e => s.error e

def assignExported (s : State) (name value : String) : State :=
  match s.assigned name value true with
  | .ok s => s
  | .error e => s.error e

def separators (s : State) : List Char :=
  match s.value? "IFS" with
  | some text => text.toList
  | none => [' ', '\t', '\n']

end State

end Cutover.Shell
