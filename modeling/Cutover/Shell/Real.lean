import Cutover.Shell.Number

/-!
# Numbers with a fraction

A number is kept as the exact ratio that the nearest number in some precision has. It is written
with a given number of places, and a half goes to the even neighbour.
-/
namespace Cutover.Shell

/-- How far a number is from zero. -/
inductive Magnitude where
  | ratio (num den : Nat)
  | infinite
  | undefined
  deriving DecidableEq, Repr

/-- A number with its sign, which zero has too. -/
structure Real where
  negative : Bool := false
  magnitude : Magnitude
  /-- Whether the number is far from what has been read, being too large or too small. -/
  isOut : Bool := false

/-- How exact numbers are. -/
structure Precision where
  bits : Nat
  lowest : Int
  highest : Int

def Precision.double : Precision := ⟨53, -1074, 971⟩

def Precision.extended : Precision := ⟨64, -16445, 16320⟩

def roundRatio (num den : Nat) : Nat :=
  let q := num / den
  let twice := 2 * (num % den)
  if twice < den || (twice = den && q % 2 = 0) then q else q + 1

def scaled (num den : Nat) (e : Int) : Nat × Nat :=
  (num * Nat.pow 2 e.toNat, den * Nat.pow 2 (-e).toNat)

/-- The nearest number in a precision, and whether it is too large or too small for that. It is
too small if it has lost places, and has fewer of them even after it has been rounded. -/
def nearest (p : Precision) (num den : Nat) : Magnitude × Bool :=
  if num = 0 then (.ratio 0 1, false)
  else
    let guess : Int := (Nat.log2 num : Int) - Nat.log2 den - (p.bits - 1)
    let (n, d) := scaled num den (-guess)
    let free := if n / d < Nat.pow 2 (p.bits - 1) then guess - 1 else guess
    let e := max free p.lowest
    let (n, d) := scaled num den (-e)
    let m := roundRatio n d
    if Nat.pow 2 p.bits ≤ m && p.highest ≤ e || p.highest < e then (.infinite, true)
    else
      let (freeNum, freeDen) := scaled num den (-free)
      let grows := free + 1 = p.lowest && Nat.pow 2 p.bits ≤ roundRatio freeNum freeDen
      let isSmall := free < p.lowest && !grows
      let (num, den) := scaled m 1 e
      (.ratio num den, isSmall && n % d ≠ 0)

def readPlaces (isPlace : Char → Bool) : List Char → List Char × List Char
  | '.' :: s => (s.takeWhile isPlace, s.dropWhile isPlace)
  | s => ([], s)

def readPower (isLetter : Char → Bool) (s : List Char) : Int × List Char :=
  match s with
  | c :: r =>
    let (negative, r) := match r with
      | '-' :: r => (true, r)
      | '+' :: r => (false, r)
      | r => (false, r)
    let ds := r.takeWhile Char.isDigit
    if isLetter c && ds ≠ [] then
      let n : Int := digitsValue 10 ds
      (if negative then -n else n, r.drop ds.length)
    else (0, s)
  | [] => (0, s)

def farthest : Int := 100000

def readScaled (p : Precision) (digitBase base : Nat) (isLetter : Char → Bool) (s : List Char) :
    Option ((Magnitude × Bool) × List Char) :=
  let whole := s.takeWhile (isDigitIn digitBase)
  let (places, r) := readPlaces (isDigitIn digitBase) (s.drop whole.length)
  if whole = [] && places = [] then none
  else
    let (power, r) := readPower isLetter r
    let n := digitsValue digitBase (whole ++ places)
    let power := max (-farthest) (min farthest power)
    let shift : Int := power - places.length * (if digitBase = 16 then 4 else 1)
    some (nearest p (n * Nat.pow base shift.toNat) (Nat.pow base (-shift).toNat), r)

/-- Whether a text starts with a word, small and capital letters being the same. -/
def startsWithWord (word : String) (s : List Char) : Bool :=
  (s.take word.length).map Char.toLower == word.toList

def dropRemark (s : List Char) : List Char :=
  match s with
  | '(' :: r =>
    match r.dropWhile isNameRest with
    | ')' :: r => r
    | _ => s
  | s => s

def readReal? (p : Precision) (s : List Char) : Option (Real × List Char) :=
  let (negative, s) := readSign s
  if startsWithWord "infinity" s then some ({ negative, magnitude := .infinite }, s.drop 8)
  else if startsWithWord "inf" s then some ({ negative, magnitude := .infinite }, s.drop 3)
  else if startsWithWord "nan" s then
    some ({ negative, magnitude := .undefined }, dropRemark (s.drop 3))
  else
    let decimal := readScaled p 10 10 (fun c => c == 'e' || c == 'E') s
    let found :=
      if startsWithWord "0x" s then
        (readScaled p 16 2 (fun c => c == 'p' || c == 'P') (s.drop 2)).or decimal
      else decimal
    found.map fun ((magnitude, isOut), r) => ({ negative, magnitude, isOut }, r)

def atLeast (n : Nat) (digits : List Char) : List Char :=
  List.replicate (n - digits.length) '0' ++ digits

def fixedDigits (num den places : Nat) (point : Bool) : List Char :=
  let all := atLeast (places + 1)
    (Nat.toDigits 10 (roundRatio (num * Nat.pow 10 places) den))
  let whole := all.take (all.length - places)
  let rest := all.drop (all.length - places)
  whole ++ (if point || places ≠ 0 then '.' :: rest else [])

def powerOf (num den : Nat) : Int :=
  let guess : Int := (Nat.toDigits 10 num).length - (Nat.toDigits 10 den).length
  let reached (k : Int) : Bool := den * Nat.pow 10 k.toNat ≤ num * Nat.pow 10 (-k).toNat
  if reached guess then guess else guess - 1

def leadingDigits (num den places : Nat) : List Char × Int :=
  if num = 0 then (List.replicate (places + 1) '0', 0)
  else
    let k := powerOf num den
    let shift := (places : Int) - k
    let r := roundRatio (num * Nat.pow 10 shift.toNat) (den * Nat.pow 10 (-shift).toNat)
    let ds := Nat.toDigits 10 r
    if places + 1 < ds.length then (ds.dropLast, k + 1) else (ds, k)

def powerDigits (digits : List Char) (power : Int) (point : Bool) : List Char :=
  let rest := digits.drop 1
  let sign := if power < 0 then '-' else '+'
  digits.take 1 ++ (if point || rest ≠ [] then '.' :: rest else []) ++
    'e' :: sign :: atLeast 2 (Nat.toDigits 10 power.natAbs)

def dropZeros (digits : List Char) : List Char := (digits.reverse.dropWhile (· == '0')).reverse

/-- Digits with a point without the zeros at the end, and without the point if it is last. -/
def dropPlaces (digits : List Char) : List Char :=
  if digits.contains '.' then
    let d := dropZeros digits
    if d.getLast? = some '.' then d.dropLast else d
  else digits

/-- A ratio in the shorter of both ways; `full` keeps the zeros at the end. -/
def generalDigits (num den precision : Nat) (full : Bool) : List Char :=
  let p := max precision 1
  let (digits, power) := leadingDigits num den (p - 1)
  if -4 ≤ power && power < p then
    let fixed := fixedDigits num den (p - 1 - power).toNat full
    if full then fixed else dropPlaces fixed
  else powerDigits (if full then digits else digits.take 1 ++ dropZeros (digits.drop 1)) power full

/-- The power of two that the digit in front of the point counts in base 16, for a ratio that is
not zero. -/
def Precision.power (p : Precision) (num den : Nat) : Int :=
  let guess : Int := (Nat.log2 num : Int) - Nat.log2 den
  let (n, d) := scaled num den (-guess)
  max (p.lowest + p.bits - 1) (if n < d then guess - 1 else guess) - (p.bits - 1) % 4

/-- A ratio in base 16 with a power of two behind it. Without a number of places there are as many
as are needed; a half goes to the even neighbour. -/
def hexDigits (p : Precision) (num den : Nat) (places : Option Nat) (full : Bool) : List Char :=
  let power := if num = 0 then 0 else p.power num den
  let (n, d) := scaled num den (-power)
  let count := places.getD ((p.bits - 1) / 4)
  let digits := atLeast (count + 1) (Nat.toDigits 16 (roundRatio (n * Nat.pow 16 count) d))
  let (digits, power) :=
    if count + 1 < digits.length then (digits.dropLast, power + 4) else (digits, power)
  let lead := digits.take 1
  let rest := if places.isSome then digits.drop 1 else dropZeros (digits.drop 1)
  let sign := if power < 0 then '-' else '+'
  lead ++ (if full || rest ≠ [] then '.' :: rest else []) ++
    'p' :: sign :: Nat.toDigits 10 power.natAbs

/-- A number as one of the letters `e`, `f` and `g` has it written, its sign aside. -/
def Magnitude.digits (m : Magnitude) (letter : Char) (precision : Nat) (full : Bool) :
    List Char :=
  match m with
  | .infinite => "inf".toList
  | .undefined => "nan".toList
  | .ratio num den =>
    match letter with
    | 'f' => fixedDigits num den precision full
    | 'e' =>
      let (digits, power) := leadingDigits num den precision
      powerDigits digits power full
    | _ => generalDigits num den precision full

end Cutover.Shell
