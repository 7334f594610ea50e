import Cutover.Shell.Program.Input

/-!
# Showing inputs

The programs that write their inputs on the output as they are, or with marks that show what
they hold.
-/
namespace Cutover.Shell

/-- What happens to the characters of an input on their way out. -/
structure Decoration where
  numbers : Bool
  /-- Whether only lines with something in them have numbers. -/
  filled : Bool
  ends : Bool
  tabs : Bool
  visible : Bool
  /-- Whether only one of several empty lines in a row is kept. -/
  squeezed : Bool

/-- How far the decoration of inputs has come. -/
structure Decorated where
  number : Nat := 0
  /-- How many empty lines have ended here; nothing in the middle of a line. -/
  empty : Option Nat := some 0
  /-- Whether the last character was a carriage return that may belong to the end of a line. -/
  returned : Bool := false
  text : List Char := []

def visibleChar (c : Char) : List Char :=
  let low (n : Nat) : List Char :=
    if n < 32 then ['^', Char.ofNat (n + 64)] else if n = 127 then ['^', '?'] else [Char.ofNat n]
  if c.toNat < 128 then low c.toNat else 'M' :: '-' :: low (c.toNat - 128)

namespace Decorated

def add (w : Decorated) (text : List Char) : Decorated := { w with text := text.reverse ++ w.text }

def count (w : Decorated) : Decorated :=
  { w.add (rightIn 6 (toString (w.number + 1)) ++ "\t").toList with number := w.number + 1 }

/-- Adds the carriage return that has been held back. -/
def release (w : Decorated) (text : List Char) : Decorated :=
  if w.returned then { w.add text with returned := false } else w

end Decorated

namespace Decoration

def isPlain (d : Decoration) : Bool :=
  !(d.numbers || d.ends || d.tabs || d.visible || d.squeezed)

def lineEnd (d : Decoration) (w : Decorated) : Decorated :=
  match w.empty with
  | none => { (w.release ['^', 'M']).add (if d.ends then ['$', '\n'] else ['\n']) with
      empty := some 0 }
  | some k =>
    if d.squeezed && 0 < k then w
    else
      let w := if d.numbers && !d.filled then w.count else w
      { w.add (if d.ends then ['$', '\n'] else ['\n']) with empty := some (k + 1) }

def char (d : Decoration) (w : Decorated) (c : Char) : Decorated :=
  if c = '\n' then d.lineEnd w
  else
    let w := w.release ['\r']
    let w := if d.numbers && w.empty.isSome then w.count else w
    let w := { w with empty := none }
    if c = '\t' then w.add (if d.tabs then ['^', 'I'] else ['\t'])
    else if d.visible then w.add (visibleChar c)
    else if c = '\r' && d.ends then { w with returned := true }
    else w.add [c]

def part (d : Decoration) (w : Decorated) (part : List Char) : List Char × Decorated :=
  let w := part.foldl d.char w
  (w.text.reverse, { w with text := [] })

end Decoration

def cat : Program := fun n program args => do
  let u : Usage :=
    { letters := "AbeEnstTuv"
      names := [("show-all", 'A'), ("number-nonblank", 'b'), ("show-ends", 'E'), ("number", 'n'),
        ("squeeze-blank", 's'), ("show-tabs", 'T'), ("show-nonprinting", 'v')] }
  withUsage u program args fun r => do
    let has (letters : String) : Bool := letters.toList.any r.has
    let d : Decoration :=
      { numbers := has "nb", filled := has "b", ends := has "AeE", tabs := has "AtT"
        visible := has "Aetv", squeezed := has "s" }
    if !(← Act.get fun s => (s.channelOf 1).isOk) then
      Act.failed program s!"standard output: {badStream}" 1
    else
      Act.finish 0
      let step (w : Decorated) (part : List Char) : Act Decorated := do
        let (text, w) := if d.isPlain then (part, w) else d.part w part
        Act.outputText program text
        return w
      let use (w : Decorated) (arg : String) (stream : Nat) : Act (Except String Decorated) := do
        if ← Act.get (·.readsOutput stream) then
          Act.failed program (toldAfter arg "input file is output file") 1
          return .ok w
        else Act.overParts stream step n w
      let t : Telling := { own := "closing standard input" }
      let w ← Act.eachInput program t use r.inputs {}
      Act.outputText program (if w.returned then ['\r'] else [])
      Act.closeOwn program t r.inputs

def tee : Program := fun n program args => do
  let u : Usage :=
    { letters := "aip"
      names := [("append", 'a'), ("ignore-interrupts", 'i')] }
  withUsage u program args fun r => do
    Act.finish 0
    let opening : Opening := if r.has 'a' then .appending else .forced
    let files ← openAll opening program r.operands operandStream [("standard output", 1)]
    let step (files : List (String × Nat)) (part : List Char) := writeAll program part files
    match ← Act.overParts 0 step n files with
    | .ok _ => pure ()
    | .error e =>
      Act.failed program s!"read error: {e}" 1
      if e = badStream then Act.failed program s!"standard input: {e}" 1
where
  openAll (opening : Opening) (program : String) :
      List String → Nat → List (String × Nat) → Act (List (String × Nat))
    | [], _, files => return files.reverse
    | path :: paths, stream, files => do
      match ← Act.openPath stream opening path with
      | .ok () => openAll opening program paths (stream + 1) ((path, stream) :: files)
      | .error e =>
        Act.failed program (toldAfter path e.cause) 1
        openAll opening program paths stream files
  writeAll (program : String) (text : List Char) :
      List (String × Nat) → Act (List (String × Nat))
    | [] => return []
    | (path, stream) :: files => do
      let fault : Option String ← Act.draw fun s =>
        let (s, e) := s.write stream (Text.toBytes text)
        (e, s)
      Act.awaitRoom stream
      match fault with
      | none => return (path, stream) :: (← writeAll program text files)
      | some e =>
        Act.failed program (toldAfter path e) 1
        writeAll program text files

end Cutover.Shell
