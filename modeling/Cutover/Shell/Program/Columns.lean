import Cutover.Shell.Number
import Cutover.Shell.Program.Input

/-!
# Columns

The programs that cut parts out of lines, and put the lines of several inputs side by side.
-/
namespace Cutover.Shell

/-- Numbers from one to another, or without an end. -/
structure NumberSpan where
  low : Nat
  high : Option Nat

namespace Cutting

/-- What is cut out of lines. -/
inductive CutUnit where
  | bytes
  | fields
  deriving DecidableEq

/-- What has been read of a list of ranges. -/
structure Reading where
  spans : List NumberSpan := []
  value : Nat := 0
  /-- Where the range begins that is being read, after its hyphen. -/
  start : Option Nat := none
  left : Bool := false
  right : Bool := false

/-- What is said of a list of ranges. -/
structure Wording where
  numbered : String
  range : String
  value : String
  large : String

/-- How faults in lists of ranges are told. -/
def CutUnit.wording : CutUnit → Wording
  | bytes =>
    { numbered := "byte/character positions are numbered from 1"
      range := "invalid byte or character range"
      value := "invalid byte/character position "
      large := "byte/character offset " }
  | fields =>
    { numbered := "fields are numbered from 1"
      range := "invalid field range"
      value := "invalid field value "
      large := "field number " }

def Reading.finish (w : Wording) (r : Reading) : Except String Reading :=
  let add (s : NumberSpan) : Except String Reading := .ok { spans := r.spans ++ [s] }
  match r.start with
  | none => if r.value = 0 then .error w.numbered else add ⟨r.value, some r.value⟩
  | some low =>
    if !r.left && !r.right then .error "invalid range with no endpoint: -"
    else if !r.right then add ⟨low, none⟩
    else if r.value < low then .error "invalid decreasing range"
    else add ⟨low, some r.value⟩

def greatest : Nat := 18446744073709551614

def ranges (w : Wording) : List Char → Reading → Except String (List NumberSpan)
  | [], r => (r.finish w).map (·.spans)
  | c :: s, r =>
    if c = '-' then
      if r.start.isSome then .error w.range
      else if r.left && r.value = 0 then .error w.numbered
      else ranges w s { r with start := some (if r.left then r.value else 1), value := 0 }
    else if c = ',' || c = ' ' || c = '\t' then
      match r.finish w with
      | .ok r => ranges w s r
      | .error e => .error e
    else if c.isDigit then
      let value := 10 * r.value + (c.toNat - '0'.toNat)
      if greatest < value then .error (w.large ++ Quoted.plain (toString value) ++ " is too large")
      else if r.start.isSome then ranges w s { r with value, right := true }
      else ranges w s { r with value, left := true }
    else .error (w.value ++ Quoted.plain (String.ofList (c :: s)))

def merged (spans : List NumberSpan) : List NumberSpan :=
  let rec go : List NumberSpan → List NumberSpan
    | a :: b :: rest =>
      if a.high.all (b.low ≤ ·) then
        let high := match a.high, b.high with
          | some m, some n => some (max m n)
          | _, _ => none
        go (⟨a.low, high⟩ :: rest)
      else a :: go (b :: rest)
    | rest => rest
  termination_by l => l.length
  go (spans.mergeSort fun a b => a.low ≤ b.low)

def complement (from_ : Nat) : List NumberSpan → List NumberSpan
  | [] => [⟨from_, none⟩]
  | s :: rest =>
    let before := if from_ < s.low then [⟨from_, some (s.low - 1)⟩] else []
    before ++ match s.high with
      | some high => complement (high + 1) rest
      | none => []

/-- What is asked for. -/
structure Plan where
  unit : CutUnit
  spans : List NumberSpan
  delimiter : Char
  between : Option String
  suppress : Bool
  ending : Char

def within {α : Type} (parts : List α) (s : NumberSpan) : List α :=
  let rest := parts.drop (s.low - 1)
  match s.high with
  | some high => rest.take (high + 1 - s.low)
  | none => rest

def Plan.line (plan : Plan) (line : List Char) : List Char :=
  match plan.unit with
  | .bytes =>
    let parts := (plan.spans.map (within line)).filter (· ≠ [])
    ((plan.between.getD "").toList).intercalate parts ++ [plan.ending]
  | .fields =>
    if line.contains plan.delimiter then
      let fields := line.splitOn plan.delimiter
      let kept := plan.spans.flatMap (within fields)
      (plan.between.elim [plan.delimiter] (·.toList)).intercalate kept ++ [plan.ending]
    else if plan.suppress then []
    else line ++ [plan.ending]

def planOf (r : Request) : Except String Plan :=
  let lists := r.options.filter fun o => "bcf".toList.contains o.1
  let delimiters := (r.options.filter (·.1 = 'd')).map (·.2)
  match lists with
  | _ :: _ :: _ => .error "only one list may be specified"
  | found =>
    if delimiters.any (1 < ·.length) then .error "the delimiter must be a single character"
    else
      match found with
      | [(letter, list)] =>
        let unit := if letter = 'f' then CutUnit.fields else .bytes
        if delimiters ≠ [] && unit = .bytes then
          .error "an input delimiter may be specified only when operating on fields"
        else if r.has 's' && unit = .bytes then
          .error "suppressing non-delimited lines makes sense\n\tonly when operating on fields"
        else
          (ranges unit.wording list.toList {}).map fun spans =>
            let spans := merged spans
            { unit, spans := if r.has '\x02' then complement 1 spans else spans
              delimiter := match delimiters.getLast? with
                | some d => (d.toList.head?).getD '\x00'
                | none => '\t'
              between := r.value? '\x01', suppress := r.has 's', ending := r.lineEnding }
      | _ => .error "you must specify a list of bytes, characters, or fields"

end Cutting

def cut : Program := fun n program args => do
  let u : Usage :=
    { letters := "nsz"
      valued := "bcdf\x01"
      names := [("bytes", 'b'), ("characters", 'c'), ("delimiter", 'd'), ("fields", 'f'),
        ("only-delimited", 's'), ("zero-terminated", 'z'), ("output-delimiter", '\x01'),
        ("complement", '\x02')] }
  withUsage u program args fun r =>
    match Cutting.planOf r with
    | .error e => Act.misused program e 1
    | .ok plan => do
      let step (_ : Unit) (lines : List (List Char)) : Act Unit :=
        Act.outputText program ((lines.map (bare plan.ending)).flatMap plan.line)
      Act.finish 0
      Act.eachLine plan.ending n program {} step r.inputs ()

namespace Pasting

def delimiters : List Char → Except String (List (List Char))
  | [] => .ok []
  | ['\\'] => .error "delimiter list ends with an unescaped backslash: "
  | '\\' :: c :: s =>
    let text := match c with
      | '0' => []
      | 'n' => ['\n']
      | 't' => ['\t']
      | 'b' => ['\x08']
      | 'f' => ['\x0c']
      | 'r' => ['\r']
      | 'v' => ['\x0b']
      | c => [c]
    (delimiters s).map (text :: ·)
  | c :: s => (delimiters s).map ([c] :: ·)

def joined (delimiters : List (List Char)) (texts : List (List Char)) : List Char :=
  let between (i : Nat) : List Char :=
    if delimiters = [] then [] else (delimiters[i % delimiters.length]?).getD []
  (texts.zipIdx.map fun (t, i) => (if i = 0 then [] else between (i - 1)) ++ t).flatten

/-- The lines of all inputs. The own input is given out by turns where it is named more often. -/
def readAll (program : String) (ending : Char) (serial : Bool) (inputs : List String) :
    List String → Act (List (List (List Char)))
  | [] => return []
  | arg :: rest => do
    let before := inputs.take (inputs.length - rest.length - 1)
    if arg = "-" && before.contains "-" then
      return [] :: (← readAll program ending serial inputs rest)
    else
      match ← Act.readInput arg with
      | .error fault =>
        Act.failed program (toldAfter arg fault.why) 1
        if serial || !fault.atOpening then
          return [] :: (← readAll program ending serial inputs rest)
        else
          Act.change (·.turn .ended)
          return []
      | .ok bytes =>
        let lines := (linesOf ending (Text.ofBytes bytes)).map (bare ending)
        return lines :: (← readAll program ending serial inputs rest)

def every (step start : Nat) (lines : List (List Char)) : List (List Char) :=
  (lines.zipIdx.filter fun e => e.2 % step = start).map (·.1)

end Pasting

/-- Puts the lines of inputs side by side, or those of each input after one another. -/
def paste : Program := fun _ program args => do
  let u : Usage :=
    { letters := "sz"
      valued := "d"
      names := [("delimiters", 'd'), ("serial", 's'), ("zero-terminated", 'z')] }
  withUsage u program args fun r => do
    let list := (r.value? 'd').getD "\t"
    match Pasting.delimiters list.toList with
    | .error e => Act.failed program (e ++ list) 1
    | .ok delimiters =>
      Act.finish 0
      let inputs := r.inputs
      let all ← Pasting.readAll program r.lineEnding (r.has 's') inputs inputs
      let own := inputs.zipIdx.filter (·.1 = "-")
      let ownLines := match own.head? with
        | some (_, i) => (all[i]?).getD []
        | none => []
      let columns := if r.has 's' then all
        else
          (all.zip inputs.zipIdx).map fun (lines, arg, i) =>
            if arg = "-" then Pasting.every own.length (own.countP (·.2 < i)) ownLines else lines
      let rows := if r.has 's' then columns
        else
          let height := columns.foldl (fun h c => max h c.length) 0
          let table := columns.map List.toArray
          (List.range height).map fun i => table.map fun column => (column[i]?).getD []
      Act.outputText program (rows.flatMap fun row =>
        Pasting.joined delimiters row ++ [r.lineEnding])

end Cutover.Shell
