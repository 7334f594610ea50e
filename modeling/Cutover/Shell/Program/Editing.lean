import Cutover.Shell.Editing.Reader
import Cutover.Shell.Printing
import Cutover.Shell.Program.Input

/-!
# Editing streams

The program that takes the lines of its inputs one after the other and does with each what a
script tells.
-/
namespace Cutover.Shell

namespace Editing

/-- What is put out at the end of a cycle. -/
inductive Queued where
  | text (s : List Char)
  | file (path : String)

/-- What is asked for. -/
structure Plan where
  program : String
  entries : Array Entry
  quiet : Bool
  /-- Whether each input has line numbers and a last line of its own. -/
  separate : Bool
  /-- Whether files are changed where they are, and what is put behind the names of the old. -/
  inPlace : Option String
  ending : Char
  width : Nat
  streams : List (String × Nat)

/-- A line without what ends it, and whether nothing ended it. -/
structure Space where
  text : List Char := []
  isOpen : Bool := false

/-- An editor at work. -/
structure Editor where
  space : Space := {}
  kept : Space := {}
  number : Nat := 0
  replaced : Bool := false
  queue : List Queued := []
  ranges : List (Nat × Option Nat) := []
  last : Option Finder := none
  files : List String
  name : String := "-"
  isReading : Bool := false
  lines : List (List Char) := []
  held : List Char := []
  out : List (List Char) := []
  size : Nat := 0
  owed : Bool := false
  readers : List (String × List (List Char)) := []

/-- How a cycle ends. -/
inductive Ending where
  | done
  | dropped
  | again
  | quit (shows : Bool) (status : Nat)

def bufferSize : Nat := 4096

namespace Editor

def put (e : Editor) (text : List Char) : Editor :=
  let text := if e.owed then '\n' :: text else text
  { e with out := text :: e.out, size := e.size + text.length, owed := false }

/-- Puts a line out, with what ends it unless nothing did. -/
def putLine (e : Editor) (plan : Plan) (text : List Char) (isOpen : Bool) : Editor :=
  if isOpen then { e.put text with owed := true } else e.put (text ++ [plan.ending])

end Editor

def Editor.stream (e : Editor) : Nat := if e.name = "-" then 0 else operandStream

/-- Ends the program at once because of what has gone wrong. -/
def Plan.panic (plan : Plan) (message : String) : Act Unit :=
  Act.change fun s => ((s.complain plan.program message).finish 4).turn .ended

/-- Writes out what has been put out. -/
def Plan.flush (plan : Plan) (e : Editor) : Act Editor := do
  if plan.inPlace.isSome then return e
  Act.change (·.outputTelling plan.program 4 ("couldn't flush stdout: " ++ ·)
    (Text.toBytes e.out.reverse.flatten))
  Act.awaitRoom 1
  return { e with out := [], size := 0 }

def Plan.write (plan : Plan) (e : Editor) (path : String) (text : List Char) (isOpen : Bool) :
    Act Editor := do
  if path = "/dev/stdout" then return e.putLine plan text isOpen
  let stream := if path = "/dev/stderr" then 2 else (plan.streams.lookup path).getD 2
  let text := if isOpen then text else text ++ [plan.ending]
  Act.change fun s => (s.write stream (Text.toBytes text)).1
  return e

def Plan.finishFile (plan : Plan) (e : Editor) : Act Editor := do
  if e.name ≠ "-" then Act.close operandStream
  match plan.inPlace with
  | none => return { e with isReading := false }
  | some suffix =>
    let s ← Act.state
    if suffix ≠ "" then
      let backup := if suffix.contains '*' then suffix.replace "*" e.name else e.name ++ suffix
      match ← Act.openPath operandStream .forced backup with
      | .ok () =>
        let old := match s.entryAt? e.name with
          | some (.file bytes) => bytes
          | _ => ByteArray.empty
        Act.change fun s => (s.write operandStream old).1
        Act.close operandStream
      | .error cause => plan.panic s!"cannot rename {e.name}: {cause.cause}"
    match ← Act.openPath operandStream .forced e.name with
    | .ok () =>
      Act.change fun s => (s.write operandStream (Text.toBytes e.out.reverse.flatten)).1
      Act.close operandStream
    | .error cause => plan.panic s!"couldn't open file {e.name}: {cause.cause}"
    return { e with isReading := false, out := [], size := 0, owed := false }

/-- Reads ahead until there is a line, or no more input; `across` tells whether that may be a
line of another input. -/
def Plan.refill (plan : Plan) (across : Bool) : Nat → Editor → Act Editor
  | 0, _ => Act.lost
  | n + 1, e => do
    if e.lines ≠ [] then return e
    if e.isReading then
      match ← Act.take e.stream id with
      | .error why =>
        let name := if e.name = "-" then "stdin" else e.name
        let e ← plan.flush e
        plan.panic s!"read error on {name}: {why}"
        return e
      | .ok bytes =>
        if bytes.isEmpty then
          if e.held ≠ [] then return { e with lines := [e.held], held := [] }
          else if across then plan.refill across n (← plan.finishFile e)
          else return e
        else
          let all := linesOf plan.ending (e.held ++ Text.ofBytes bytes)
          let last := all.getLastD []
          if ← Act.get (·.isEndless e.stream) then Act.delay Act.endlessTime
          if last.getLast? = some plan.ending then
            plan.refill across n { e with lines := all, held := [] }
          else plan.refill across n { e with lines := all.dropLast, held := last }
    else
      match e.files with
      | [] => return e
      | name :: files =>
        let e := { e with files }
        if name = "-" && plan.inPlace.isNone then
          plan.refill across n
            { e with name, isReading := true, number := if plan.separate then 0 else e.number }
        else
          let isFile ← Act.get fun s => match s.entryAt? name with
            | some (.file _) => true
            | _ => false
          match ← Act.openPath operandStream .input name with
          | .error why =>
            Act.failed plan.program s!"can't read {name}: {why.cause}" 2
            plan.refill across n e
          | .ok () =>
            if plan.inPlace.isSome && !isFile then
              Act.close operandStream
              Act.failed plan.program s!"couldn't edit {name}: not a regular file" 4
              plan.refill across n e
            else
              plan.refill across n
                { e with name, isReading := true, number := if plan.separate then 0 else e.number }

def Plan.isLast (plan : Plan) (n : Nat) (e : Editor) : Act (Editor × Bool) := do
  let e ← plan.refill (!plan.separate) n e
  return (e, e.lines = [])

def Plan.release (plan : Plan) : List Queued → Editor → Act Editor
  | [], e => return { e with queue := [] }
  | .text s :: queue, e => plan.release queue (e.put s)
  | .file path :: queue, e => do
    let stream := operandStream + 1
    match ← Act.openPath stream .input path with
    | .error _ => plan.release queue e
    | .ok () =>
      let result ← Act.takeAll stream
      Act.close stream
      let text := Text.ofBytes (result.toOption.getD ByteArray.empty)
      plan.release queue (if text = [] then e else e.put text)

def Plan.advance (plan : Plan) (n : Nat) (front : List Char) (e : Editor) :
    Act (Editor × Bool) := do
  let e ← plan.release e.queue e
  let e ← if bufferSize ≤ e.size then plan.flush e else pure e
  let e ← plan.refill true n e
  match e.lines with
  | [] => return (e, false)
  | line :: lines =>
    let text := bare plan.ending line
    let isOpen := text.length = line.length
    return ({ e with lines, space := ⟨front ++ text, isOpen⟩, number := e.number + 1
                     replaced := false }, true)

/-- Looks for an expression in the space. Where none has been used so far that is a fault. -/
def Plan.resolve (plan : Plan) (f : Finder) (e : Editor) : Act (Regular × Finder × Editor) := do
  let f := if f.expression.isSome then f else e.last.getD f
  match f.expression with
  | some r => return (r, f, { e with last := some f })
  | none =>
    Act.change fun s =>
      ((s.complain plan.program "-e expression #1, char 0: no previous regular expression").finish
        1).turn .ended
    return (.empty, f, e)

def Finder.subject (f : Finder) (r : Regular) (text : List Char) : Regular.Subject :=
  { text := text.toArray, fold := f.fold, byLine := f.byLine, exact := r.refers }

def Plan.isMeant (plan : Plan) (n : Nat) (e : Editor) : Address → Act (Editor × Bool)
  | .line k => return (e, e.number = k)
  | .last => plan.isLast n e
  | .every first step => return (e, first ≤ e.number && (e.number - first) % step = 0)
  | .finding f => do
    let (r, f, e) ← plan.resolve f e
    return (e, (r.findFrom? (f.subject r e.space.text) 0).isSome)

def Plan.isSelected (plan : Plan) (n i : Nat) (sel : Selection) (e : Editor) :
    Act (Editor × Bool) := do
  let ended (e : Editor) : Editor := { e with ranges := e.ranges.filter (·.1 ≠ i) }
  let opened (e : Editor) (last : Option Nat) : Editor :=
    { e with ranges := (i, last) :: e.ranges }
  let (e, here) ← match sel.first, sel.bound with
    | none, _ => pure (e, true)
    | some a, none => plan.isMeant n e a
    | some a, some b =>
      match e.ranges.lookup i with
      | some (some last) => pure (if last ≤ e.number then ended e else e, decide (e.number ≤ last))
      | some none =>
        match b with
        | .at a =>
          let (e, isEnd) ← plan.isMeant n e a
          pure (if isEnd then ended e else e, true)
        | _ => pure (e, true)
      | none =>
        let (e, isStart) ← plan.isMeant n e a
        if !isStart then pure (e, false)
        else
          let last : Option Nat := match b with
            | .at (.line k) => some k
            | .at _ => none
            | .more k => some (e.number + k)
            | .multiple k => some (if k = 0 then 0 else (e.number + k - 1) / k * k)
          pure (if last.any (· ≤ e.number) then e else opened e last, true)
  return (e, here != sel.inverted)

/-- Letters changed as the parts before tell: all that follow, and the next one. -/
def cased (every once : Option Char) (text : List Char) : List Char :=
  let one (change : Option Char) (c : Char) : Char :=
    match change with
    | some 'U' | some 'u' => c.toUpper
    | some 'L' | some 'l' => c.toLower
    | _ => c
  match text with
  | [] => []
  | c :: s => one (if once.isSome then once else every) c :: s.map (one every)

def expandParts (f : Regular.Found) (text : Array Char) :
    Option Char → Option Char → List Part → List Char
  | _, _, [] => []
  | every, _, .letters c :: parts =>
    if c = 'u' || c = 'l' then expandParts f text every (some c) parts
    else expandParts f text (if c = 'E' then none else some c) none parts
  | every, once, part :: parts =>
    let s := match part with
      | .text s => s
      | .group k => f.part text k
      | .letters _ => []
    cased every once s ++ expandParts f text every (if s = [] then once else none) parts

/-- The text with what is found from a place on replaced, and whether anything has been. -/
def Substitution.apply (sub : Substitution) (r : Regular) (t : Regular.Subject) :
    Nat → Nat → Nat → Option Nat → List (List Char) → Bool → List Char × Bool
  | 0, start, _, _, done, any =>
    ((done.reverse.flatten ++ (t.text.extract start t.text.size).toList), any)
  | n + 1, start, count, previous, done, any =>
    let rest : List Char := (t.text.extract start t.text.size).toList
    match r.findFrom? t start with
    | none => (done.reverse.flatten ++ rest, any)
    | some f =>
      let before := (t.text.extract start f.start).toList
      let isEmpty := f.start = f.stop
      let one := if isEmpty then (t.text.extract f.stop (f.stop + 1)).toList else []
      let next := if isEmpty then f.stop + 1 else f.stop
      if isEmpty && previous = some f.start then
        sub.apply r t n next count none (one :: before :: done) any
      else
        let count := count + 1
        let isWanted := sub.number.getD 1 ≤ count
        if !isWanted then
          sub.apply r t n next count (some f.stop) (one :: f.part t.text 0 :: before :: done) any
        else
          let new := expandParts f t.text none none sub.parts
          if sub.every then
            sub.apply r t n next count (some f.stop) (one :: new :: before :: done) true
          else
            let rest := (t.text.extract f.stop t.text.size).toList
            ((rest :: new :: before :: done).reverse.flatten, true)

def plainly (width : Nat) (text : List Char) : List Char :=
  let token (c : Char) : List Char :=
    if c = '\\' then ['\\', '\\'] else if ' ' ≤ c && c ≤ '~' then [c]
    else
      match c with
      | '\x07' => ['\\', 'a']
      | '\x08' => ['\\', 'b']
      | '\x0c' => ['\\', 'f']
      | '\n' => ['\\', 'n']
      | '\r' => ['\\', 'r']
      | '\t' => ['\\', 't']
      | '\x0b' => ['\\', 'v']
      | _ => '\\' :: atLeast 3 (Nat.toDigits 8 c.toNat)
  let (done, _) := text.foldl (fun (done, used) c =>
    let t := token c
    if 1 < width && width - 1 < used + t.length then (t :: ['\\', '\n'] :: done, t.length)
    else (t :: done, used + t.length)) (([] : List (List Char)), 0)
  done.reverse.flatten ++ ['$', '\n']

def takeLine (path : String) (e : Editor) : Act (Editor × Option (List Char)) := do
  let lines ← match e.readers.lookup path with
    | some lines => pure lines
    | none =>
      let stream := operandStream + 1
      match ← Act.openPath stream .input path with
      | .error _ => pure []
      | .ok () =>
        let result ← Act.takeAll stream
        Act.close stream
        pure (linesOf '\n' (Text.ofBytes (result.toOption.getD ByteArray.empty)))
  let others := e.readers.filter (·.1 ≠ path)
  return ({ e with readers := (path, lines.drop 1) :: others }, lines.head?)

def firstLine (text : List Char) : List Char := text.takeWhile (· ≠ '\n')

def Plan.substitute (plan : Plan) (sub : Substitution) (e : Editor) : Act Editor := do
  let (r, f, e) ← plan.resolve sub.finder e
  let t := f.subject r e.space.text
  let (text, replaced) := sub.apply r t (t.text.size + 2) 0 0 none [] false
  if !replaced then return e
  let e := { e with space := { e.space with text }, replaced := true }
  let e := if sub.shown then e.putLine plan text e.space.isOpen else e
  match sub.file with
  | some path => plan.write e path text e.space.isOpen
  | none => return e

def Plan.perform (plan : Plan) : Nat → Nat → Editor → Act (Editor × Ending)
  | 0, _, _ => Act.lost
  | n + 1, i, e => do
    match plan.entries[i]? with
    | none => return (e, .done)
    | some entry =>
      let (e, here) ← plan.isSelected n i entry.selection e
      let go (e : Editor) : Act (Editor × Ending) := plan.perform n (i + 1) e
      if !here then
        match entry.command with
        | .block stop => plan.perform n (stop + 1) e
        | _ => go e
      else
        match entry.command with
        | .block _ | .blockEnd | .label _ => go e
        | .branch replaced label =>
          let jumps := replaced.all (· = e.replaced)
          let e := if replaced.isSome then { e with replaced := false } else e
          if !jumps then go e
          else
            match labelAt? plan.entries label with
            | some j => plan.perform n j e
            | none => return (e, .done)
        | .append text => go { e with queue := e.queue ++ [.text text] }
        | .insert text => go (e.put text)
        | .change text =>
          let isOpen := entry.selection.bound.isSome && !entry.selection.inverted &&
            (e.ranges.lookup i).isSome
          return (if isOpen then e else e.put text, .dropped)
        | .showNumber => go (e.put (toString e.number ++ "\n").toList)
        | .showName => go (e.put (e.name ++ "\n").toList)
        | .delete => return (e, .dropped)
        | .deleteLine =>
          let rest := e.space.text.drop (firstLine e.space.text).length
          if rest = [] then return (e, .dropped)
          else return ({ e with space := { e.space with text := rest.drop 1 } }, .again)
        | .take => go { e with space := e.kept }
        | .takeMore =>
          go { e with space :=
            ⟨e.space.text ++ plan.ending :: e.kept.text, e.space.isOpen && e.kept.isOpen⟩ }
        | .keep => go { e with kept := e.space }
        | .keepMore =>
          go { e with kept :=
            ⟨e.kept.text ++ plan.ending :: e.space.text, e.kept.isOpen && e.space.isOpen⟩ }
        | .exchange => go { e with space := e.kept, kept := e.space }
        | .showPlainly width => go (e.put (plainly (width.getD plan.width) e.space.text))
        | .next =>
          let (e, isLast) ← plan.isLast n e
          if isLast && e.files = [] then return (e, .done)
          else
            let e := if plan.quiet then e else e.putLine plan e.space.text e.space.isOpen
            let (e, found) ← plan.advance n [] e
            if found then go e else return (e, .quit false 0)
        | .nextMore =>
          let (e, isLast) ← plan.isLast n e
          if isLast && e.files = [] then return (e, .done)
          else
            let (e, found) ← plan.advance n (e.space.text ++ [plan.ending]) e
            if found then go e else return (e, .done)
        | .show => go (e.putLine plan e.space.text e.space.isOpen)
        | .showLine => go (e.put (firstLine e.space.text ++ [plan.ending]))
        | .quit shows status => return (e, .quit shows status)
        | .readFile path => go { e with queue := e.queue ++ [.file path] }
        | .readLine path =>
          let (e, line) ← takeLine path e
          match line with
          | some text => go { e with queue := e.queue ++ [.text (bare '\n' text ++ ['\n'])] }
          | none => go e
        | .writeFile path => go (← plan.write e path e.space.text e.space.isOpen)
        | .writeLine path => go (← plan.write e path (firstLine e.space.text) false)
        | .substitute sub => go (← plan.substitute sub e)
        | .translate table =>
          let text := e.space.text.map fun c => (table.lookup c).getD c
          go { e with space := { e.space with text } }
        | .empty => go { e with space := { e.space with text := [] } }

/-- Ends all: what has been read ahead of the input of the program is given back. -/
def Plan.finish (plan : Plan) (e : Editor) : Act Unit := do
  let e ← plan.release e.queue e
  let ahead := (e.lines.flatten ++ e.held).length
  if e.isReading && e.name = "-" then Act.change (·.goBack 0 ahead)
  let e ← plan.flush e
  if plan.inPlace.isSome && e.isReading then
    let rest ← Act.take e.stream id
    let more := match rest with
      | .ok bytes => Text.ofBytes bytes
      | .error _ => []
    let _ ← plan.finishFile (e.put (e.lines.flatten ++ e.held ++ more))

def Plan.cycles (plan : Plan) : Nat → Bool → Editor → Act Unit
  | 0, _, _ => Act.lost
  | n + 1, reads, e => do
    let (e, found) ← if reads then plan.advance n [] e else pure (e, true)
    if !found then plan.finish e
    else
      let shown (e : Editor) : Editor :=
        if plan.quiet then e else e.putLine plan e.space.text e.space.isOpen
      match ← plan.perform n 0 e with
      | (e, .done) => plan.cycles n true (shown e)
      | (e, .dropped) => plan.cycles n true e
      | (e, .again) => plan.cycles n false (← plan.release e.queue e)
      | (e, .quit shows status) =>
        if status ≠ 0 then Act.finish status
        plan.finish (if shows then shown e else e)

def openAll (program : String) : List String → Nat → Act (List (String × Nat))
  | [], _ => return []
  | path :: paths, stream => do
    if path = "/dev/stdout" || path = "/dev/stderr" then openAll program paths stream
    else
      match ← Act.openPath stream .forced path with
      | .ok () => return (path, stream) :: (← openAll program paths (stream + 1))
      | .error e =>
        Act.change fun s =>
          ((s.complain program s!"couldn't open file {path}: {e.cause}").finish 4).turn .ended
        return []

/-- A piece of a script: what it is called in messages, and its text. -/
structure Piece where
  file : Option String
  text : List Char
  deriving DecidableEq

def placeText : List Piece → Nat → Nat → String
  | [], _, place => s!"-e expression #1, char {place}"
  | piece :: pieces, number, place =>
    if place ≤ piece.text.length || pieces = [] then
      match piece.file with
      | some name =>
        let line := (piece.text.take (place - 1)).count '\n' + 1
        s!"file {name} line {line}"
      | none => s!"-e expression #{number}, char {min place piece.text.length}"
    else
      placeText pieces (if piece.file.isSome then number else number + 1)
        (place - piece.text.length - 1)

/-- Arguments in which what may stand right behind a letter for changes in place is written as the
value of its name. -/
def withNames : List String → List String
  | [] => []
  | a :: rest =>
    if a = "--" then a :: rest
    else if a = "--in-place" then "--in-place=" :: withNames rest
    else
      match a.toList with
      | '-' :: c :: cs =>
        if c = '-' then a :: withNames rest
        else
          let plain := (c :: cs).takeWhile (!"efli".toList.contains ·)
          let front := if plain = [] then [] else [String.ofList ('-' :: plain)]
          match (c :: cs).drop plain.length, rest with
          | 'i' :: suffix, rest =>
            front ++ ("--in-place=" ++ String.ofList suffix) :: withNames rest
          | [_], value :: rest => a :: value :: withNames rest
          | _, rest => a :: withNames rest
      | _ => a :: withNames rest

def piecesOf : List (Char × String) → Act (Except String (List Piece))
  | [] => return .ok []
  | (letter, value) :: options => do
    let piece : Except String (List Piece) ←
      if letter = 'e' then pure (.ok [⟨none, value.toList⟩])
      else if letter = 'f' then
        match ← Act.readInput value with
        | .ok bytes => pure (.ok [⟨some value, bare '\n' (Text.ofBytes bytes)⟩])
        | .error fault => pure (.error s!"couldn't open file {value}: {fault.why}")
      else pure (.ok [])
    match piece, ← piecesOf options with
    | .ok piece, .ok pieces => return .ok (piece ++ pieces)
    | .error e, _ | _, .error e => return .error e

end Editing

def edit : Program := fun n program args => do
  let u : Usage :=
    { letters := "nErsuz\x01\x02"
      valued := "efil"
      names := [("quiet", 'n'), ("silent", 'n'), ("expression", 'e'), ("file", 'f'),
        ("regexp-extended", 'E'), ("in-place", 'i'), ("line-length", 'l'), ("posix", '\x01'),
        ("separate", 's'), ("unbuffered", 'u'), ("null-data", 'z'), ("follow-symlinks", '\x02')]
      synopsis :=
        "Usage: sed [OPTION]... \x7bscript-only-if-no-other-script\x7d [input-file]...\n" }
  withUsage u program (Editing.withNames args) fun r => do
    match ← Editing.piecesOf r.options with
    | .error e => Act.failed program e 4
    | .ok given =>
      let (pieces, files) : List Editing.Piece × List String := match given, r.operands with
        | [], script :: files => ([⟨none, script.toList⟩], files)
        | given, files => (given, files)
      if pieces = [] then Act.change fun s => (s.put 2 u.synopsis).finish 1
      else
        let text := ['\n'].intercalate (pieces.map (·.text))
        match Editing.read (r.has 'E' || r.has 'r') text with
        | .error ⟨some place, message⟩ =>
          let where_ := if place = 0 then "-e expression #1, char 0"
            else Editing.placeText pieces 1 place
          Act.failed program s!"{where_}: {message}" 1
        | .error ⟨none, message⟩ => Act.failed program message 4
        | .ok entries =>
          let isQuiet := match text with
            | '#' :: 'n' :: '\n' :: _ | ['#', 'n'] => true
            | _ => false
          if r.has 'i' && files = [] then Act.failed program "no input files" 4
          else
            Act.finish 0
            let streams ← Editing.openAll program (Editing.filesOf entries) (operandStream + 2)
            let plan : Editing.Plan :=
              { program, entries, quiet := r.has 'n' || isQuiet
                separate := r.has 's' || r.has 'i', inPlace := r.value? 'i'
                ending := r.lineEnding, width := ((r.value? 'l').bind (·.toNat?)).getD 70
                streams }
            let zeros := entries.toList.zipIdx.filterMap fun e =>
              if e.1.selection.startsAtZero then some (e.2, none) else none
            plan.cycles n true
              { files := if files = [] then ["-"] else files, ranges := zeros }

end Cutover.Shell
