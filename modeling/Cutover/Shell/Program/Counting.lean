import Cutover.Shell.Pattern
import Cutover.Shell.Program.Input

/-!
# Counting

The program that counts the lines, words and bytes of its inputs.
-/
namespace Cutover.Shell

/-- The numbers of lines, words and bytes so far, and of the longest line. -/
structure Counts where
  lines : Nat := 0
  words : Nat := 0
  bytes : Nat := 0
  longest : Nat := 0
  /-- How long the line is so far, and whether it ends inside of a word. -/
  width : Nat := 0
  inWord : Bool := false

namespace Counts

def char (k : Counts) (c : Char) : Counts :=
  let k := { k with bytes := k.bytes + 1 }
  let ended (k : Counts) : Counts :=
    { k with longest := max k.longest k.width, width := 0, inWord := false }
  match c with
  | '\n' => ended { k with lines := k.lines + 1 }
  | '\r' | '\x0c' => ended k
  | '\t' => { k with width := k.width + 8 - k.width % 8, inWord := false }
  | '\x0b' => { k with inWord := false }
  | ' ' => { k with width := k.width + 1, inWord := false }
  | c =>
    if isOfKind "print" c then
      { k with width := k.width + 1, words := if k.inWord then k.words else k.words + 1
               inWord := true }
    else k

def finish (k : Counts) : Counts := { k with longest := max k.longest k.width }

def add (a b : Counts) : Counts :=
  { lines := a.lines + b.lines, words := a.words + b.words, bytes := a.bytes + b.bytes
    longest := max a.longest b.longest }

def chosen (k : Counts) (letters : List Char) : List Nat :=
  letters.map fun c =>
    match c with
    | 'l' => k.lines
    | 'w' => k.words
    | 'L' => k.longest
    | _ => k.bytes

end Counts

namespace Counting

/-- When a line with the sum of all counts is shown. -/
def totals : List String := ["auto", "always", "only", "never"]

/-- How wide the numbers are: so that the sum of the sizes fits, if they are known. -/
def widthOf (s : State) (letters : List Char) (inputs : List String) : Nat :=
  if inputs.length = 1 && letters.length = 1 then 1
  else
    let node (arg : String) : Except Unit (Option Nat) :=
      let size : FileEntry → Option Nat
        | .file bytes => some bytes.size
        | _ => none
      if arg = "-" then
        match s.channel 0 with
        | .ok (_, .file number _ _) => .ok (some (s.content number).size)
        | .ok (_, .stored bytes _) => .ok (some bytes.size)
        | .ok _ => .ok none
        | .error _ => .error ()
      else
        match s.entryAt? arg with
        | some e => .ok (size e)
        | none => .error ()
    let known := inputs.filterMap fun a => (node a).toOption
    let sum := known.foldl (fun n k => n + k.getD 0) 0
    max (if known.any Option.isNone then 7 else 1) (toString sum).length

end Counting

def count : Program := fun n program args => do
  let u : Usage :=
    { letters := "clLmw"
      valued := "\x01"
      names := [("bytes", 'c'), ("chars", 'm'), ("lines", 'l'), ("words", 'w'),
        ("max-line-length", 'L'), ("total", '\x01')] }
  withUsage u program args fun r => do
    let letters := if r.options.all (·.1 = '\x01') then ['l', 'w', 'c']
      else "lwmcL".toList.filter r.has
    let total := (r.value? '\x01').getD "auto"
    if !Counting.totals.contains total then
      let list := Counting.totals.map fun t => "\n  - " ++ Quoted.plain t
      let what := s!"invalid argument {Quoted.plain total} for " ++ Quoted.plain "--total"
      Act.misused program (what ++ "\nValid arguments are:" ++ String.join list) 1
    else
      let inputs := r.inputs
      let width ← Act.get fun s => if total = "only" then 1 else Counting.widthOf s letters inputs
      let line (k : Counts) (name : String) : Act Unit := do
        let numbers := (k.chosen letters).map fun n => rightIn width (toString n)
        Act.change (·.outputTelling program 1 (fun _ => "write error")
          (Text.toBytes (" ".intercalate numbers ++ name ++ "\n").toList))
        Act.awaitRoom 1
      let shown (k : Counts) (arg : String) : Act Unit :=
        if total = "only" then pure ()
        else line k (if r.operands.isEmpty then "" else " " ++ arg)
      let step (k : Counts) (part : List Char) : Act Counts := return part.foldl Counts.char k
      let use (sum : Counts) (arg : String) (stream : Nat) : Act (Except String Counts) := do
        match ← Act.overParts stream step n {} with
        | .ok k =>
          shown k.finish arg
          return .ok (sum.add k.finish)
        | .error e =>
          let name := if arg = "-" then "standard input" else arg
          Act.failed program (toldAfter name e) 1
          shown {} arg
          return .ok sum
      Act.finish 0
      let (unnamed, named) := inputs.partition (· = "")
      if unnamed ≠ [] then Act.failed program "invalid zero-length file name" 1
      let sum ← Act.eachInput program {} use named {}
      if total = "always" || total = "only" || (total = "auto" && 1 < inputs.length) then
        line sum (if total = "only" then "" else " total")
      Act.closeOwn program {} inputs

end Cutover.Shell
