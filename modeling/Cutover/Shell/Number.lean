import Cutover.Shell.Script

/-!
# Numbers in shell scripts

Whole numbers are signed words of 64 bits. In base 0 the beginning of a number tells its base.
-/
namespace Cutover.Shell

def greatest : Int := 9223372036854775807

def least : Int := -9223372036854775808

def wrap (n : Int) : Int := Int.bmod n 18446744073709551616

def digit? (c : Char) : Option Nat :=
  if c.isDigit then some (c.toNat - '0'.toNat)
  else if c.isLower then some (c.toNat - 'a'.toNat + 10)
  else if c.isUpper then some (c.toNat - 'A'.toNat + 10)
  else none

def isDigitIn (base : Nat) (c : Char) : Bool := (digit? c).any (· < base)

def digitsValue (base : Nat) (digits : List Char) : Nat :=
  digits.foldl (fun n c => base * n + (digit? c).getD 0) 0

/-- White space as numbers may have it in front. -/
def isSpace (c : Char) : Bool := c == ' ' || ('\t' ≤ c && c ≤ '\r')

/-- Reads digits without a sign, in base 0 with the sign of their base in front. -/
def readDigits (base : Nat) (s : List Char) : Option (Nat × List Char) :=
  let digits (base : Nat) (s : List Char) :=
    match s.takeWhile (isDigitIn base) with
    | [] => none
    | ds => some (digitsValue base ds, s.drop ds.length)
  match base, s with
  | 0, '0' :: 'x' :: r | 0, '0' :: 'X' :: r | 16, '0' :: 'x' :: r | 16, '0' :: 'X' :: r =>
    (digits 16 r).or (some (0, s.drop 1))
  | 0, '0' :: 'b' :: r | 0, '0' :: 'B' :: r => (digits 2 r).or (some (0, s.drop 1))
  | 0, '0' :: _ => digits 8 s
  | 0, _ => digits 10 s
  | base, _ => digits base s

/-- What a text starts with that is a number. -/
structure Whole where
  value : Int
  /-- Whether the number did not fit and became the nearest that does. -/
  clipped : Bool
  rest : List Char

/-- Brings a number between two bounds. -/
def clip (low high n : Int) (rest : List Char) : Whole :=
  if n < low then ⟨low, true, rest⟩ else if high < n then ⟨high, true, rest⟩ else ⟨n, false, rest⟩

def readSign (s : List Char) : Bool × List Char :=
  match s.dropWhile isSpace with
  | '-' :: s => (true, s)
  | '+' :: s => (false, s)
  | s => (false, s)

def readWhole? (base : Nat) (s : List Char) : Option Whole :=
  let (negative, digits) := readSign s
  (readDigits base digits).map fun (n, rest) =>
    clip least greatest (if negative then -(n : Int) else n) rest

/-- The number that a text is, white space around it aside. -/
def number? (base : Nat) (s : String) : Option Int :=
  match readWhole? base s.toList with
  | some w => if w.rest.all isSpace && !w.clipped then some w.value else none
  | none => if base = 0 && s.toList.all isSpace then some 0 else none

def count? (s : String) : Option Nat :=
  (number? 10 s).bind fun n => if 0 ≤ n && n ≤ 2147483647 then some n.toNat else none

def noNumber (s : String) : String := s!"Illegal number: {s}"

end Cutover.Shell
