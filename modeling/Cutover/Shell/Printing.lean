import Cutover.Shell.Real
import Cutover.Shell.State

/-!
# Printing commands

The escapes and the formats of the two commands that print.
-/
namespace Cutover.Shell

def isOctal (c : Char) : Bool := '0' ≤ c && c ≤ '7'

def byteChar (n : Nat) : Char := Char.ofNat (n % 256)

/-- Reads what follows a backslash; a backslash before anything else stands for itself. -/
def readEscape (s : List Char) : Char × List Char :=
  match s with
  | 'a' :: r => ('\x07', r)
  | 'b' :: r => ('\x08', r)
  | 'e' :: r => ('\x1b', r)
  | 'f' :: r => ('\x0c', r)
  | 'n' :: r => ('\n', r)
  | 'r' :: r => ('\r', r)
  | 't' :: r => ('\t', r)
  | 'v' :: r => ('\x0b', r)
  | '\\' :: r => ('\\', r)
  | s =>
    match (s.take 3).takeWhile isOctal with
    | [] => ('\\', s)
    | ds => (byteChar (digitsValue 8 ds), s.drop ds.length)

/-- A text with its escapes replaced, and whether one of them ends all printing. An octal number
may have one more zero in front. -/
def unescape : Nat → List Char → List Char × Bool
  | 0, _ => ([], false)
  | _ + 1, [] => ([], false)
  | n + 1, c :: s =>
    if c ≠ '\\' then
      let (text, ended) := unescape n s
      (c :: text, ended)
    else if s.head? = some 'c' then ([], true)
    else
      let s := match s with
        | '0' :: d :: r => if isOctal d then d :: r else s
        | s => s
      let (c, s) := readEscape s
      let (text, ended) := unescape n s
      (c :: text, ended)

/-- A text with what its backslashes stand for, and whether it ends all that is printed. -/
def unescaped (s : String) : List Char × Bool := unescape (s.length + 1) s.toList

/-- The texts that are printed one after the other with blanks between them. -/
def spaced : List String → List Char × Bool
  | [] => ([], false)
  | [a] => unescaped a
  | a :: others =>
    let (text, ended) := unescaped a
    if ended then (text, true)
    else
      let (rest, ended) := spaced others
      (text ++ ' ' :: rest, ended)

/-- Prints arguments with blanks between them and a newline after them. -/
def echo (args : List String) (s : State) : State :=
  let (text, ended) := spaced (if args.head? = some "-n" then args.tail else args)
  s.print (if ended || args.head? = some "-n" then text else text ++ ['\n']) 0

/-- How an argument is to be printed. -/
structure Directive where
  left : Bool := false
  plus : Bool := false
  blank : Bool := false
  zeros : Bool := false
  full : Bool := false
  width : Nat := 0
  precision : Option Nat := none

namespace Directive

/-- Text with blanks on one side up to the width. -/
def pad (d : Directive) (s : List Char) : List Char :=
  let blanks := List.replicate (d.width - s.length) ' '
  if d.left then s ++ blanks else blanks ++ s

/-- Digits with what stands in front of them, zeros or blanks up to the width. -/
def padNumber (d : Directive) (zeros : Bool) (front digits : List Char) : List Char :=
  if zeros && d.zeros && !d.left then front ++ atLeast (d.width - front.length) digits
  else d.pad (front ++ digits)

def sign (d : Directive) (negative : Bool) : List Char :=
  if negative then ['-'] else if d.plus then ['+'] else if d.blank then [' '] else []

/-- The digits of a whole number with at least as many as the precision tells. -/
def whole (d : Directive) (base n : Nat) : List Char :=
  match d.precision with
  | some 0 => if n = 0 then [] else Nat.toDigits base n
  | some p => atLeast p (Nat.toDigits base n)
  | none => Nat.toDigits base n

def decimal (d : Directive) (n : Int) : List Char :=
  d.padNumber d.precision.isNone (d.sign (n < 0)) (d.whole 10 n.natAbs)

def unsigned (d : Directive) (letter : Char) (n : Nat) : List Char :=
  let capital (s : List Char) := if letter = 'X' then s.map Char.toUpper else s
  let (base, front) := match letter with
    | 'o' => (8, [])
    | 'u' => (10, [])
    | _ => (16, if d.full && n ≠ 0 then ['0', 'x'] else [])
  let digits := d.whole base n
  let digits := if letter = 'o' && d.full && digits.head? ≠ some '0' then '0' :: digits else digits
  d.padNumber d.precision.isNone (capital front) (capital digits)

def real (d : Directive) (p : Precision) (letter : Char) (x : Real) : List Char :=
  let (isRatio, front, digits) := match letter.toLower, x.magnitude with
    | 'a', .ratio num den => (true, ['0', 'x'], hexDigits p num den d.precision d.full)
    | 'a', m => (false, [], m.digits 'g' 0 false)
    | c, .ratio num den =>
      (true, [], (Magnitude.ratio num den).digits c (d.precision.getD 6) d.full)
    | c, m => (false, [], m.digits c 0 false)
  let cased (s : List Char) : List Char := if letter.isUpper then s.map Char.toUpper else s
  d.padNumber isRatio (d.sign x.negative ++ cased front) (cased digits)

def string (d : Directive) (s : List Char) : List Char :=
  d.pad (match d.precision with
    | some p => s.take p
    | none => s)

end Directive

/-- What is wrong with an argument that has to be a number. -/
inductive NumberFault where
  | absent
  | incomplete
  | tooLarge
  | surplus (rest : String)

/-- What the commands that know formats differ in. -/
structure FormatManner where
  /-- Reads what follows a backslash, or tells that it ends all printing. -/
  escape : List Char → Option (List Char × List Char) := fun s =>
    let (c, rest) := readEscape s
    some ([c], rest)
  /-- A text with its escapes replaced, and whether one of them ends all printing. -/
  unescape : String → List Char × Bool := unescaped
  /-- How arguments are shown for a letter that only some commands know. -/
  shown : Char → Option (String → String) := fun _ => none
  flags : List Char := "#-+ 0".toList
  sizes : List Char := []
  /-- Whether what stands between the percent sign and a letter does not fit the letter. -/
  isUnfit : List Char → Char → Bool := fun _ _ => false
  strict : Bool := false
  precision : Precision := .double
  invalid : String := "invalid directive"
  unfinished : List Char → String := fun _ => "missing format character"
  tooWide : String := "xvsnprintf failed"

/-- A part of what comes of a format. -/
inductive Outcome where
  | text (s : List Char)
  | fault (arg : String) (why : NumberFault)

def Outcome.text? : Outcome → Option (List Char)
  | text s => some s
  | fault _ _ => none

def Outcome.fault? : Outcome → Option (String × NumberFault)
  | text _ => none
  | fault arg why => some (arg, why)

/-- A format under way. -/
structure Formatting where
  manner : FormatManner := {}
  parts : List Outcome := []
  args : List String
  used : Bool := false
  ended : Bool := false
  fault : Option String := none

namespace Formatting

def add (f : Formatting) (s : List Char) : Formatting := { f with parts := .text s :: f.parts }

def addFault (f : Formatting) (arg : String) (why : NumberFault) : Formatting :=
  { f with parts := .fault arg why :: f.parts }

def text (f : Formatting) : List Char := (f.parts.reverse.filterMap Outcome.text?).flatten

def faults (f : Formatting) : List (String × NumberFault) :=
  f.parts.reverse.filterMap Outcome.fault?

def argument (f : Formatting) : Option String × Formatting :=
  match f.args with
  | [] => (none, f)
  | a :: args => (some a, { f with args, used := true })

def note (f : Formatting) (arg : String) (rest : List Char) (clipped : Bool) : Formatting :=
  if rest ≠ [] then f.addFault arg (if rest.length = arg.length then .absent else .incomplete)
  else if clipped then f.addFault arg .tooLarge
  else f

def quotedCode? (arg : String) : Option Nat :=
  match arg.toList with
  | '\x22' :: s | '\x27' :: s => some ((s.head?.map Char.toNat).getD 0)
  | _ => none

def noteQuoted (f : Formatting) (arg : String) : Formatting :=
  if !f.manner.strict then f
  else
    match arg.toList.drop 1 with
    | [] => f.addFault arg .absent
    | [_] => f
    | _ :: rest => f.addFault arg (.surplus (String.ofList rest))

def number (f : Formatting) (low high : Int) : Int × Formatting :=
  match f.argument with
  | (none, f) => (0, f)
  | (some arg, f) =>
    match quotedCode? arg with
    | some n => (n, f.noteQuoted arg)
    | none =>
      let (negative, digits) := readSign arg.toList
      match readDigits 0 digits with
      | none => (0, f.note arg arg.toList false)
      | some (n, rest) =>
        let v := if negative then -(n : Int) else n
        let w := if low = 0 && v < 0 && -high ≤ v then Whole.mk (v + high + 1) false rest
          else if low = 0 && v < 0 then Whole.mk high true rest
          else clip low high v rest
        (w.value, f.note arg w.rest w.clipped)

def realNumber (f : Formatting) : Real × Formatting :=
  match f.argument with
  | (none, f) => ({ magnitude := .ratio 0 1 }, f)
  | (some arg, f) =>
    match quotedCode? arg with
    | some n => ({ magnitude := .ratio n 1 }, f.noteQuoted arg)
    | none =>
      match readReal? f.manner.precision arg.toList with
      | none => ({ magnitude := .ratio 0 1 }, f.note arg arg.toList false)
      | some (x, rest) => (x, f.note arg rest x.isOut)

/-- Tells that there is no such thing as what stands behind a percent sign. -/
def refuse (f : Formatting) (shown : List Char) : Formatting :=
  { f with fault := some ("%" ++ String.ofList shown ++ ": " ++ f.manner.invalid) }

/-- Prints the next argument as a letter tells, or tells that there is no such letter. -/
def directive (f : Formatting) (d : Directive) (letter : Char) (shown : List Char) :
    Formatting :=
  if letter = 'd' || letter = 'i' then
    let (n, f) := f.number least greatest
    f.add (d.decimal n)
  else if "ouxX".toList.contains letter then
    let (n, f) := f.number 0 18446744073709551615
    f.add (d.unsigned letter n.toNat)
  else if "aAeEfFgG".toList.contains letter then
    let (x, f) := f.realNumber
    f.add (d.real f.manner.precision letter x)
  else if letter = 's' then
    let (a, f) := f.argument
    f.add (d.string (a.getD "").toList)
  else if letter = 'c' then
    let (a, f) := f.argument
    f.add (d.pad [((a.getD "").toList.head?).getD '\x00'])
  else if letter = 'b' then
    let (a, f) := f.argument
    let (text, ended) := f.manner.unescape (a.getD "")
    { f.add (d.string text) with ended }
  else
    match f.manner.shown letter with
    | some change =>
      let (a, f) := f.argument
      f.add (d.string (change (a.getD "")).toList)
    | none =>
      f.refuse shown

def widest : Int := 1000000

def mostWide : Nat := 2147483647

/-- Takes a width or a precision, which an argument may give. -/
def measure (f : Formatting) (s : List Char) : Option Int × List Char × Formatting :=
  match s with
  | '*' :: s =>
    let (n, f) := f.number least greatest
    (some (max (-widest) (min widest (Int.bmod n 4294967296))), s, f)
  | s =>
    match s.takeWhile Char.isDigit with
    | [] => (none, s, f)
    | ds =>
      let n := digitsValue 10 ds
      let f := if mostWide < n then { f with fault := some f.manner.tooWide } else f
      (some (min widest n), s.drop ds.length, f)

def once : Nat → List Char → Formatting → Formatting
  | 0, _, f => f
  | _ + 1, [], f => f
  | n + 1, '\\' :: s, f =>
    match f.manner.escape s with
    | some (text, s) => once n s (f.add text)
    | none => { f with ended := true }
  | n + 1, '%' :: '%' :: s, f => once n s (f.add ['%'])
  | n + 1, '%' :: s, f =>
    let flags := s.takeWhile f.manner.flags.contains
    let (width, rest, f) := f.measure (s.drop flags.length)
    let (precision, rest, f) := match rest with
      | '.' :: rest =>
        let (p, rest, f) := f.measure rest
        (some (p.getD 0), rest, f)
      | rest => (none, rest, f)
    match rest.dropWhile f.manner.sizes.contains with
    | [] => { f with fault := some (f.manner.unfinished s) }
    | letter :: rest =>
      let w := width.getD 0
      let d : Directive :=
        { left := flags.contains '-' || w < 0
          plus := flags.contains '+'
          blank := flags.contains ' '
          zeros := flags.contains '0'
          full := flags.contains '#'
          width := w.natAbs
          precision := precision.bind fun p => if p < 0 then none else some p.toNat }
      let shown := s.take (s.length - rest.length)
      let done := if f.manner.isUnfit shown.dropLast letter then f.refuse shown
        else f.directive d letter shown
      let f := if f.fault = done.fault && f.fault.isSome then { done with parts := done.parts.tail }
        else done
      if f.ended || f.fault.isSome then f else once n rest f
  | n + 1, c :: s, f => once n s (f.add [c])

def all (format : List Char) : Nat → Formatting → Formatting
  | 0, f => f
  | n + 1, f =>
    let f := once (format.length + 1) format f
    if f.args.isEmpty || !f.used || f.ended || f.fault.isSome then f else all format n f

end Formatting

def NumberFault.message : NumberFault → String
  | absent => "expected numeric value"
  | incomplete => "not completely converted"
  | tooLarge => "Numerical result out of range"
  | surplus rest => rest

def printFormat (format : String) (args : List String) (s : State) : State :=
  let f := Formatting.all format.toList (args.length + 1) { args }
  let s := f.faults.foldl (fun s e => s.warn (e.1 ++ ": " ++ e.2.message)) s
  match f.fault with
  | some e => ((s.error e).print f.text 2).finish 2
  | none => s.print f.text (if f.faults.isEmpty then 0 else 1)

def printf (args : List String) (s : State) : State :=
  let usage := "usage: printf format [arg ...]"
  match args with
  | [] | ["--"] => s.error usage
  | "--" :: format :: args => printFormat format args s
  | format :: args =>
    match format.toList with
    | '-' :: c :: _ => s.error s!"Illegal option -{c}"
    | _ => printFormat format args s

end Cutover.Shell
