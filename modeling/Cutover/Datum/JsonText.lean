import Cutover.Datum.Basic

/-!
# Writing JSON

The layout of reports and state files: one item or field a line, two spaces for each depth,
nothing between the brackets of an empty list or record, no line end after the last one.
-/
namespace Cutover.Json

/-- A digit of a character code. -/
def hexChar (n : Nat) : Char := if n < 10 then Char.ofNat (48 + n) else Char.ofNat (87 + n)

/-- A character as it stands between quotes: only quote, backslash and control characters
are written otherwise. -/
def escape (c : Char) : List Char :=
  if c = '"' then ['\\', '"']
  else if c = '\\' then ['\\', '\\']
  else if c = '\u0008' then ['\\', 'b']
  else if c = '\u000c' then ['\\', 'f']
  else if c = '\n' then ['\\', 'n']
  else if c = '\r' then ['\\', 'r']
  else if c = '\t' then ['\\', 't']
  else if c.toNat < 0x20 then
    ['\\', 'u', '0', '0', hexChar (c.toNat / 16), hexChar (c.toNat % 16)]
  else [c]

def quote (s : String) : List Char := '"' :: s.toList.flatMap escape ++ ['"']

/-- The digits of a whole number, after a sign if it is negative. -/
def writeInt (n : Int) : List Char :=
  if n < 0 then '-' :: Nat.toDigits 10 n.natAbs else Nat.toDigits 10 n.natAbs

def newLine (depth : Nat) : List Char := '\n' :: List.replicate (2 * depth) ' '

mutual

def write (depth : Nat) : Datum → List Char
  | .null => "null".toList
  | .bool true => "true".toList
  | .bool false => "false".toList
  | .int n => writeInt n
  | .real literal => literal.toList
  | .str s => quote s
  | .list [] => ['[', ']']
  | .list (d :: ds) => '[' :: writeItems (depth + 1) (d :: ds) ++ newLine depth ++ [']']
  | .record [] => ['\x7b', '\x7d']
  | .record (f :: fs) =>
    '\x7b' :: writeFields (depth + 1) (f :: fs) ++ newLine depth ++ ['\x7d']
  | .garbled => "null".toList

/-- The items, each on a line of its own, with commas between them. -/
def writeItems (depth : Nat) : List Datum → List Char
  | [] => []
  | [d] => newLine depth ++ write depth d
  | d :: e :: ds => newLine depth ++ write depth d ++ ',' :: writeItems depth (e :: ds)

/-- The fields, each on a line of its own, with commas between them. -/
def writeFields (depth : Nat) : List (String × Datum) → List Char
  | [] => []
  | [(name, d)] => newLine depth ++ quote name ++ [':', ' '] ++ write depth d
  | (name, d) :: e :: fs =>
    newLine depth ++ quote name ++ [':', ' '] ++ write depth d ++ ',' :: writeFields depth (e :: fs)

end

def render (d : Datum) : String := String.ofList (write 0 d)

end Cutover.Json
