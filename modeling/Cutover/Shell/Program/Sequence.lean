import Cutover.Shell.Printing
import Cutover.Shell.Program.Input

/-!
# Sequences

The programs that print numbers from one to another, and one line without an end.
-/
namespace Cutover.Shell

namespace Sequence

/-- A number with places after the point, which it is written with. -/
structure Decimal where
  digits : Int
  places : Nat

def Decimal.scaled (d : Decimal) (places : Nat) : Int := d.digits * Nat.pow 10 (places - d.places)

/-- What an argument tells. -/
inductive Number where
  | finite (d : Decimal)
  | infinite (negative : Bool)
  | undefined

def Number.read (text : String) : Option Number :=
  let (negative, s) := readSign text.toList
  let whole := s.takeWhile Char.isDigit
  let (places, rest) := readPlaces Char.isDigit (s.drop whole.length)
  let (power, rest) := readPower (fun c => c == 'e' || c == 'E') rest
  if whole ≠ [] || places ≠ [] then
    if rest ≠ [] then
      match readWhole? 16 text.toList with
      | some w => if w.rest = [] && startsWithWord "0x" s then some (.finite ⟨w.value, 0⟩) else none
      | none => none
    else
      let n : Int := digitsValue 10 (whole ++ places)
      let shift : Int := places.length - max (-farthest) (min farthest power)
      some (.finite ⟨(if negative then -n else n) * Nat.pow 10 (-shift).toNat, shift.toNat⟩)
  else
    match readReal? .extended text.toList with
    | some (⟨negative, .infinite, _⟩, []) => some (.infinite negative)
    | some (⟨_, .undefined, _⟩, []) => some .undefined
    | _ => none

/-- What is asked for. -/
structure Plan where
  first : Int
  step : Int
  /-- Where the sequence ends, unless it does not. -/
  last : Option Int
  places : Nat
  separator : String
  width : Nat
  format : Option String

/-- Whether an argument begins with a hyphen and is a number. -/
def isNegative (a : String) : Bool :=
  match a.toList with
  | '-' :: c :: _ => c.isDigit || c = '.'
  | _ => false

def Plan.plain (plan : Plan) (n : Int) : String :=
  let digits := atLeast (plan.places + 1) (Nat.toDigits 10 n.natAbs)
  let whole := digits.take (digits.length - plan.places)
  let rest := digits.drop (digits.length - plan.places)
  let text := if rest = [] then whole else whole ++ '.' :: rest
  let sign := if n < 0 then ['-'] else []
  String.ofList (sign ++ atLeast (plan.width - sign.length) text)

def Plan.text (plan : Plan) (n : Int) : String :=
  match plan.format with
  | some format =>
    let manner : FormatManner := { precision := .extended }
    String.ofList (Formatting.all format.toList 1 { manner, args := [plan.plain n] }).text
  | none => plan.plain n

/-- Whether a number is still part of the sequence. -/
def Plan.includes (plan : Plan) (n : Int) : Bool :=
  match plan.last with
  | some last => if 0 < plan.step then n ≤ last else last ≤ n
  | none => true

/-- How many numbers are printed at a time. -/
def batch : Nat := 1000

def Plan.some (plan : Plan) : Nat → Int → List String
  | 0, _ => []
  | n + 1, k => if plan.includes k then plan.text k :: plan.some n (k + plan.step) else []

def Plan.print (plan : Plan) (program : String) : Nat → Int → Act Unit
  | 0, _ => Act.lost
  | n + 1, k => do
    let texts := plan.some batch k
    if texts = [] then pure ()
    else
      let next := k + plan.step * batch
      let goesOn := plan.includes next
      let separator := plan.separator
      let text := separator.intercalate texts ++ if goesOn then separator else "\n"
      Act.outputText program text.toList
      if plan.last.isNone then Act.delay batch
      if goesOn then plan.print program n next

def formatFault? (format : String) : Option String :=
  let quoted := "format " ++ Quoted.plain format
  let rec directives : List Char → List (List Char)
    | '%' :: '%' :: s => directives s
    | '%' :: s => s :: directives s
    | _ :: s => directives s
    | [] => []
  match directives format.toList with
  | [] => some (quoted ++ " has no % directive")
  | s :: rest =>
    let after := (s.dropWhile "#-+ 0'".toList.contains).dropWhile fun c => c.isDigit || c == '.'
    match after with
    | [] => some (quoted ++ " ends in %")
    | c :: _ =>
      if !"efgaEFGA".toList.contains c then some (quoted ++ s!" has unknown %{c} directive")
      else if rest ≠ [] then some (quoted ++ " has too many % directives")
      else none

end Sequence

def sequence : Program := fun n program args => do
  let u : Usage :=
    { letters := "w"
      valued := "fs"
      names := [("separator", 's'), ("format", 'f'), ("equal-width", 'w')]
      ordered := true }
  let options := args.takeWhile fun a => !Sequence.isNegative a
  let negatives := args.drop options.length
  let bounded := if negatives = [] || options.contains "--" then args
    else options ++ "--" :: negatives
  withUsage u program bounded fun r => do
    let wrong (a : String) : Act Unit :=
      Act.misused program ("invalid floating point argument: " ++ Quoted.plain a) 1
    let zero (a : String) : Act Unit :=
      Act.misused program ("invalid Zero increment value: " ++ Quoted.plain a) 1
    let format := r.value? 'f'
    let given := if bounded = args then r.operands else r.operands.erase "--"
    match given, format.bind Sequence.formatFault? with
    | [], _ => Act.misused program "missing operand" 1
    | _ :: _ :: _ :: extra :: _, _ => Act.misused program ("extra operand " ++ Quoted.plain extra) 1
    | _, some fault => Act.failed program fault 1
    | operands, none =>
      if format.isSome && r.has 'w' then
        Act.misused program
          "format string may not be specified when printing equal width strings" 1
      else
        match operands.find? fun a => (Sequence.Number.read a).isNone with
        | some a => wrong a
        | none =>
          let isUndefined (a : String) : Bool := match Sequence.Number.read a with
            | some .undefined => true
            | _ => false
          match operands.find? isUndefined with
          | some a =>
            let what := "invalid " ++ Quoted.plain "not-a-number" ++ " argument: "
            Act.misused program (what ++ Quoted.plain a) 1
          | none =>
            let one : Sequence.Number := .finite ⟨1, 0⟩
            let (first, step, last) := match operands.filterMap Sequence.Number.read with
              | [last] => (one, one, last)
              | [first, last] => (first, one, last)
              | first :: step :: last :: _ => (first, step, last)
              | [] => (one, one, one)
            match first, step with
            | .finite first, .finite step =>
              if step.digits = 0 then zero ((operands[1]?).getD "0")
              else
                let shown := max first.places step.places
                let (last?, lastPlaces) := match last with
                  | .finite d => (some d, d.places)
                  | _ => (none, 0)
                let places := max shown lastPlaces
                let cut : Nat := Nat.pow 10 (places - shown)
                let isNever : Bool := match last with
                  | .infinite negative => negative = decide (0 < step.digits)
                  | _ => false
                let bound := last?.map fun d =>
                  let exact := d.scaled places
                  if 0 < step.digits then Int.fdiv exact cut else -Int.fdiv (-exact) cut
                let plan : Sequence.Plan :=
                  { first := first.scaled shown, step := step.scaled shown, last := bound
                    places := shown, separator := (r.value? 's').getD "\n", width := 0, format }
                let width := if r.has 'w' then
                    max (plan.plain plan.first).length
                      (((bound.map plan.plain).map String.length).getD 0)
                  else 0
                let plan := { plan with width }
                Act.finish 0
                unless isNever do plan.print program n plan.first
            | _, _ => Act.finish 0

def repeatLine : Program := fun n program args =>
  withUsage {} program args fun r => do
    let line := " ".intercalate (if r.operands = [] then ["y"] else r.operands) ++ "\n"
    let times := 1 + 8192 / line.length
    let text := Text.toBytes (List.replicate times line.toList).flatten
    let told (e : String) : String := s!"standard output: {e}"
    let rec go : Nat → Act Unit
      | 0 => Act.lost
      | k + 1 => do
        Act.change (·.outputTelling program 1 told text)
        Act.awaitRoom 1
        Act.delay 10000
        go k
    Act.finish 0
    go n

end Cutover.Shell
