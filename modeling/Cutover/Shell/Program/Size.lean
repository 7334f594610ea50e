import Cutover.Shell.Number

/-!
# Sizes

Programs are told sizes by a number and letters behind it that tell what the number counts.
-/
namespace Cutover.Shell.Size

/-- What is wrong with a text that has to be a size. -/
inductive Fault where
  | malformed
  | tooLarge

def greatest : Nat := 18446744073709551615

/-- How often a letter multiplies by its base. -/
def powers : List (Char × Nat) :=
  [('k', 1), ('K', 1), ('m', 2), ('M', 2), ('G', 3), ('T', 4), ('P', 5), ('E', 6), ('Z', 7),
    ('Y', 8), ('R', 9), ('Q', 10)]

/-- What the letters behind a number multiply it by. -/
def factor? : List Char → Option Nat
  | [] => some 1
  | ['b'] => some 512
  | ['B'] => some 1
  | c :: rest =>
    (powers.lookup c).bind fun p =>
      match rest with
      | [] | ['i', 'B'] => some (Nat.pow 1024 p)
      | ['B'] => some (Nat.pow 1000 p)
      | _ => none

def read (text : List Char) : Except Fault Nat :=
  match text.takeWhile Char.isDigit with
  | [] => .error .malformed
  | ds =>
    match factor? (text.drop ds.length) with
    | none => .error .malformed
    | some f =>
      let n := digitsValue 10 ds * f
      if greatest < n then .error .tooLarge else .ok n

def Fault.message : Fault → String
  | malformed => ""
  | tooLarge => ": Value too large for defined data type"

end Cutover.Shell.Size
