import Cutover.Shell.Printing
import Cutover.Shell.Program.Input
import Cutover.Shell.Program.Size

/-!
# Showing bytes

The program that shows the bytes of its inputs as numbers and characters. Several ways to show
them stand one below the other, so that what is shown of the same bytes ends in the same column.
-/
namespace Cutover.Shell

namespace Dump

/-- How bytes are shown. -/
inductive Style where
  | named
  | chars
  | signed
  | unsigned (base : Nat)
  deriving DecidableEq

/-- A way to show bytes: some at a time, and perhaps all of a line as text behind them. -/
structure Format where
  style : Style
  size : Nat := 1
  withText : Bool := false

def names : List String :=
  ["nul", "soh", "stx", "etx", "eot", "enq", "ack", "bel", "bs", "ht", "nl", "vt", "ff", "cr",
    "so", "si", "dle", "dc1", "dc2", "dc3", "dc4", "nak", "syn", "etb", "can", "em", "sub", "esc",
    "fs", "gs", "rs", "us", "sp"]

def Format.width (f : Format) : Nat :=
  let digits (base : Nat) : Nat := (Nat.toDigits base (Nat.pow 256 f.size - 1)).length
  match f.style with
  | .named | .chars => 3
  | .signed => (Nat.toDigits 10 (Nat.pow 256 f.size / 2)).length + 1
  | .unsigned base => digits base

def charText (byte : Nat) : String :=
  match byte with
  | 0 => "\\0"
  | 7 => "\\a"
  | 8 => "\\b"
  | 9 => "\\t"
  | 10 => "\\n"
  | 11 => "\\v"
  | 12 => "\\f"
  | 13 => "\\r"
  | _ =>
    if 32 ≤ byte && byte < 127 then String.singleton (Char.ofNat byte)
    else String.ofList (atLeast 3 (Nat.toDigits 8 byte))

/-- Some bytes, the least important one first, as they are shown. -/
def Format.text (f : Format) (bytes : List Nat) : String :=
  let value := bytes.reverse.foldl (fun n b => 256 * n + b) 0
  match f.style with
  | .named =>
    let code := value % 128
    if code = 127 then "del"
    else (names[code]?).getD (String.singleton (Char.ofNat code))
  | .chars => charText value
  | .signed =>
    let bound := Nat.pow 256 f.size
    if bound / 2 ≤ value then s!"-{bound - value}" else toString value
  | .unsigned 10 => toString value
  | .unsigned base => String.ofList (atLeast f.width (Nat.toDigits base value))

def inParts (size : Nat) : Nat → List Nat → List (List Nat)
  | 0, _ => []
  | _ + 1, [] => []
  | n + 1, bytes => bytes.take size :: inParts size n (bytes.drop size)

/-- The fields of a line, with blanks between them so that it is as wide as others. -/
def Format.fields (f : Format) (lineBytes lineWidth : Nat) (bytes : List Nat) (swapped : Bool) :
    String :=
  let count := lineBytes / f.size
  let free := lineWidth - count * (f.width + 1)
  let parts := (inParts f.size bytes.length bytes).map fun p =>
    p ++ List.replicate (f.size - p.length) 0
  String.join (parts.zipIdx.map fun (p, i) =>
    let before := free * (count - i) / count
    let after := free * (count - i - 1) / count
    rightIn (before - after + f.width + 1) (f.text (if swapped then p.reverse else p)))

def Format.line (f : Format) (lineBytes lineWidth : Nat) (bytes : List Nat) (swapped : Bool) :
    String :=
  let fields := f.fields lineBytes lineWidth bytes swapped
  if !f.withText then fields
  else
    let shown := bytes.map fun b => if 32 ≤ b && b < 127 then Char.ofNat b else '.'
    fields ++ String.ofList (List.replicate (lineWidth - fields.length) ' ') ++
      "  >" ++ String.ofList shown ++ "<"

/-- What is asked for. -/
structure Plan where
  formats : List Format
  base : Option Nat
  lineBytes : Nat
  full : Bool
  /-- Whether the most important byte of a number comes first. -/
  swapped : Bool

def Plan.address (plan : Plan) (position : Nat) : String :=
  match plan.base with
  | none => ""
  | some base =>
    String.ofList (atLeast (if base = 16 then 6 else 7) (Nat.toDigits base position))

def Plan.line (plan : Plan) (position : Nat) (bytes : List Nat) : String :=
  let widths := plan.formats.map fun f => plan.lineBytes / f.size * (f.width + 1)
  let width := widths.foldl max 0
  let address := plan.address position
  let blanks := String.ofList (List.replicate address.length ' ')
  String.join (plan.formats.zipIdx.map fun (f, i) =>
    (if i = 0 then address else blanks) ++ f.line plan.lineBytes width bytes plan.swapped ++ "\n")

/-- All lines, those left out that are equal to the one before. -/
def Plan.lines (plan : Plan) : Nat → List (List Nat) → Option (List Nat) → Bool → List String
  | position, [], _, _ =>
    if plan.base.isSome then [plan.address position ++ "\n"] else []
  | position, part :: rest, last, isLeftOut =>
    let next := position + part.length
    if !plan.full && last = some part && part.length = plan.lineBytes then
      (if isLeftOut then [] else ["*\n"]) ++ plan.lines next rest (some part) true
    else plan.line position part :: plan.lines next rest (some part) false

/-- The texts of at least so many characters that a zero ends, with their positions. -/
def Plan.texts (plan : Plan) (least : Nat) :
    (position : Nat) → (held : List Char) → List Nat → List String
  | _, _, [] => []
  | position, held, byte :: bytes =>
    let next := position + 1
    if 32 ≤ byte && byte < 127 then texts plan least next (Char.ofNat byte :: held) bytes
    else
      let rest := texts plan least next [] bytes
      if byte = 0 && least ≤ held.length then
        let text := String.ofList held.reverse
        (plan.address (position - held.length) ++ " " ++ text ++ "\n") :: rest
      else rest

/-- How many bytes stand in a line, with a warning if it cannot be as many as are asked for. -/
def lineBytes (formats : List Format) (asked : Option Nat) : Nat × Option String :=
  let unit := formats.foldl (fun n f => Nat.lcm n f.size) 1
  match asked with
  | none => (unit * (max 16 unit / unit), none)
  | some width =>
    if width ≠ 0 && width % unit = 0 then (width, none)
    else (unit, some s!"warning: invalid width {width}; using {unit} instead")

def short? (letter : Char) : Option Format :=
  match letter with
  | 'a' => some ⟨.named, 1, false⟩
  | 'b' => some ⟨.unsigned 8, 1, false⟩
  | 'c' => some ⟨.chars, 1, false⟩
  | 'd' => some ⟨.unsigned 10, 2, false⟩
  | 'D' => some ⟨.unsigned 10, 4, false⟩
  | 'h' | 'x' => some ⟨.unsigned 16, 2, false⟩
  | 'H' | 'X' => some ⟨.unsigned 16, 4, false⟩
  | 'i' => some ⟨.signed, 4, false⟩
  | 'I' | 'l' | 'L' => some ⟨.signed, 8, false⟩
  | 'o' | 'B' => some ⟨.unsigned 8, 2, false⟩
  | 'O' => some ⟨.unsigned 8, 4, false⟩
  | 's' => some ⟨.signed, 2, false⟩
  | _ => none

def size? : List Char → Option (Nat × List Char)
  | 'C' :: s => some (1, s)
  | 'S' :: s => some (2, s)
  | 'I' :: s => some (4, s)
  | 'L' :: s => some (8, s)
  | s =>
    match s.takeWhile Char.isDigit with
    | [] => some (4, s)
    | ds =>
      let n := digitsValue 10 ds
      if [1, 2, 4, 8].contains n then some (n, s.drop ds.length) else none

def formats (whole : String) : Nat → List Char → Except String (List Format)
  | 0, _ => .ok []
  | _ + 1, [] => .ok []
  | n + 1, c :: s => do
    let invalid : Except String (List Format) :=
      .error (s!"invalid character '{c}' in type string " ++ Quoted.plain whole)
    let style : Option Style := match c with
      | 'a' => some .named
      | 'c' => some .chars
      | 'd' => some .signed
      | 'u' => some (.unsigned 10)
      | 'o' => some (.unsigned 8)
      | 'x' => some (.unsigned 16)
      | _ => none
    match style with
    | none => invalid
    | some style =>
      let sized := if style = .named || style = .chars then some (1, s) else size? s
      match sized with
      | none =>
        let digits := String.ofList (s.takeWhile Char.isDigit)
        .error (s!"invalid type string " ++ Quoted.plain whole ++
          s!";\nthis system doesn't provide a {digits}-byte integral type")
      | some (size, s) =>
        let (withText, s) := match s with
          | 'z' :: s => (true, s)
          | s => (false, s)
        return ⟨style, size, withText⟩ :: (← formats whole n s)

def formatsOf : List (Char × String) → Except String (List Format)
  | [] => .ok []
  | (letter, value) :: options => do
    let here ← if letter = 't' then formats value (value.length + 1) value.toList
      else .ok (short? letter).toList
    return here ++ (← formatsOf options)

def readUpTo (stream : Nat) : Nat → Nat → ByteArray → Act (Except String ByteArray)
  | 0, _, _ => Act.lost
  | n + 1, most, sofar => do
    if most ≤ sofar.size then return .ok sofar
    match ← Act.take stream fun bytes => bytes.extract 0 (most - sofar.size) with
    | .error e => return .error e
    | .ok bytes =>
      if bytes.isEmpty then return .ok sofar
      else
        if ← Act.get (·.isEndless stream) then Act.delay Act.endlessTime
        readUpTo stream n most (sofar ++ bytes)

/-- What options tell. -/
structure Asked where
  base : Option Nat
  formats : List Format
  skipped : Option Nat
  most : Option Nat
  width : Option Nat
  least : Option Nat

end Dump

def dump : Program := fun n program args => do
  let u : Usage :=
    { letters := "abcdDeFfhHxXiIlLoBOsv"
      valued := "AjNtwS\x01"
      names := [("address-radix", 'A'), ("skip-bytes", 'j'), ("read-bytes", 'N'), ("format", 't'),
        ("output-duplicates", 'v'), ("width", 'w'), ("strings", 'S'), ("endian", '\x01')] }
  let args := args.map fun a => if a = "-w" || a = "--width" then "-w32" else a
  withUsage u program args fun r => do
    let base : Except String (Option Nat) := match r.value? 'A' with
      | none | some "o" => .ok (some 8)
      | some "d" => .ok (some 10)
      | some "x" => .ok (some 16)
      | some "n" => .ok none
      | some text =>
        .error (s!"invalid output address radix " ++ Quoted.plain (text.take 1).toString ++
          "; it must be one character from [doxn]")
    let number (letter : Char) : Except String (Option Nat) :=
      match r.value? letter with
      | none => .ok none
      | some text =>
        match readWhole? 0 text.toList with
        | some w =>
          match Size.factor? w.rest with
          | some f =>
            if w.value < 0 then .error s!"invalid -{letter} argument {Quoted.plain text}"
            else .ok (some (w.value.toNat * f))
          | none => .error s!"invalid suffix in -{letter} argument {Quoted.plain text}"
        | none => .error s!"invalid -{letter} argument {Quoted.plain text}"
    let read : Except String Dump.Asked := do
      let base ← base
      let formats ← Dump.formatsOf r.options
      return ⟨base, formats, ← number 'j', ← number 'N', ← number 'w', ← number 'S'⟩
    match read with
    | .error e => Act.failed program e 1
    | .ok ⟨base, formats, skipped, most, width, least⟩ =>
      let formats := if formats = [] then [⟨.unsigned 8, 2, false⟩] else formats
      let (lineBytes, warning) := Dump.lineBytes formats width
      let plan : Dump.Plan :=
        { formats, base, lineBytes, full := r.has 'v', swapped := r.value? '\x01' = some "big" }
      Act.finish 0
      if let some text := warning then Act.change (·.complain program text)
      let skipped := skipped.getD 0
      let bound := most.map (skipped + ·)
      let use (sofar : ByteArray × Bool) (_ : String) (stream : Nat) :
          Act (Except String (ByteArray × Bool)) := do
        match bound with
        | none =>
          match ← Act.takeAll stream with
          | .ok bytes => return .ok (sofar.1 ++ bytes, true)
          | .error e => return .error e
        | some bound =>
          match ← Dump.readUpTo stream n bound sofar.1 with
          | .ok bytes => return .ok (bytes, true)
          | .error e => return .error e
      let told (name : String) (fault : InputFault) : String :=
        toldAfter (if name = "-" then "standard input" else name) fault.why
      let (bytes, isRead) ← Act.eachInput program { told } use r.inputs (ByteArray.empty, false)
      let isOpened ← Act.get fun s => r.inputs.any fun name => name = "-" || s.isFolder name
      if bytes.size < skipped then
        Act.failed program "cannot skip past end of combined input" 1
      else if isRead || isOpened then
        let all := (bytes.extract skipped bytes.size).toList.map UInt8.toNat
        let parts := Dump.inParts plan.lineBytes (all.length + 1) all
        let lines := match least with
          | some least => plan.texts least skipped [] all
          | none => plan.lines skipped parts none false
        Act.outputText program (String.join lines).toList
      Act.closeOwn program { own := "standard input" } r.inputs

end Cutover.Shell
