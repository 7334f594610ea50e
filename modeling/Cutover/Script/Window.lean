import Cutover.Text.Folding

/-!
# Rolling time windows

A script that looks back from the day it runs says so in one form:
DATE_SUB(CURDATE(), INTERVAL 3 MONTH). Letter case is free in ASCII, and between the words
stands white space of four kinds only. The first such place in the script counts.
-/
namespace Cutover

open Text

/-- The unit of a look-back window. -/
inductive TimeUnit where
  | year
  | month
  | day
  deriving DecidableEq, Repr

namespace TimeUnit

def all : List TimeUnit := [.year, .month, .day]

def name : TimeUnit → String
  | year => "year"
  | month => "month"
  | day => "day"

end TimeUnit

/-- A look-back window such as three months, with the advice on it. -/
structure TimeRange where
  interval : Nat
  unit : TimeUnit
  recommendation : String
  deriving DecidableEq

def TimeRange.of (interval : Nat) (unit : TimeUnit) : TimeRange :=
  ⟨interval, unit, s!"start: compute the date {interval} {unit.name} before the run date"⟩

namespace Window

def anchor : List Char := "date_sub(curdate(),".toList

/-- The white space allowed inside a window. -/
def isSpace (c : Char) : Bool := c == ' ' || c == '\t' || c == '\r' || c == '\n'

/-- Skips white space, of which there must be some. -/
def readSpace (s : List Char) : Option (List Char) :=
  if s.head?.any isSpace then some (s.dropWhile isSpace) else none

/-- The largest interval that is told apart; a longer one counts as this. -/
def largest : Nat := 18446744073709551615

/-- Reads decimal digits, of which there must be some. -/
def readInterval (s : List Char) : Option (Nat × List Char) :=
  if s.head?.any Char.isDigit then
    some (min (Nat.ofDigitChars 10 (s.takeWhile Char.isDigit) 0) largest,
      s.dropWhile Char.isDigit)
  else none

def readUnit (s : List Char) : Option (TimeUnit × List Char) :=
  TimeUnit.all.findSome? fun u => (readAscii u.name.toList s).map (u, ·)

def readAt (s : List Char) : Option (Nat × TimeUnit) := do
  let s ← readAscii anchor s
  let s ← readSpace s
  let s ← readAscii "interval".toList s
  let s ← readSpace s
  let (interval, s) ← readInterval s
  let s ← readSpace s
  let (unit, s) ← readUnit s
  let _ ← readAscii [')'] s
  some (interval, unit)

def first? : List Char → Option (Nat × TimeUnit)
  | [] => none
  | c :: s => (readAt (c :: s)).orElse fun _ => first? s

end Window

/-- The look-back window of a script, if it has one. -/
def TimeRange.ofScript? (sql : String) : Option TimeRange :=
  (Window.first? sql.toList).map fun w => TimeRange.of w.1 w.2

end Cutover
