import Cutover.Datum.Basic

/-!
# Reading JSON

Readers over the characters still to be read: each gives what it found and the rest. A
document is one value with white space around it, and nothing else.
-/
namespace Cutover.Json

def isSpace (c : Char) : Bool := c == ' ' || c == '\n' || c == '\t' || c == '\r'

def skipSpace (s : List Char) : List Char := s.dropWhile isSpace

def hexDigit? (c : Char) : Option Nat :=
  if c.isDigit then some (c.toNat - '0'.toNat)
  else if 'a' ≤ c && c ≤ 'f' then some (c.toNat - 'a'.toNat + 10)
  else if 'A' ≤ c && c ≤ 'F' then some (c.toNat - 'A'.toNat + 10)
  else none

/-- The number that four hexadecimal digits write. -/
def hex4? (a b c d : Char) : Option Nat := do
  return ((← hexDigit? a) * 16 + (← hexDigit? b)) * 256 + (← hexDigit? c) * 16 + (← hexDigit? d)

/-- One unit of a text in quotes: a character, or a code that may be half of one. -/
inductive TextUnit where
  | char (c : Char)
  | code (n : Nat)
  deriving DecidableEq, Repr

def escaped? (c : Char) : Option Char :=
  match c with
  | '"' => some '"'
  | '\\' => some '\\'
  | '/' => some '/'
  | 'b' => some '\u0008'
  | 'f' => some '\u000c'
  | 'n' => some '\n'
  | 'r' => some '\r'
  | 't' => some '\t'
  | _ => none

/-- Reads the units of a text up to and over the closing quote. -/
def readUnits : List Char → Option (List TextUnit × List Char)
  | [] => none
  | '"' :: s => some ([], s)
  | '\\' :: 'u' :: a :: b :: c :: d :: s => do
    let n ← hex4? a b c d
    let (us, rest) ← readUnits s
    some (.code n :: us, rest)
  | '\\' :: e :: s => do
    let c ← escaped? e
    let (us, rest) ← readUnits s
    some (.char c :: us, rest)
  | c :: s =>
    if c.toNat < 0x20 || c = '\\' then none
    else do
      let (us, rest) ← readUnits s
      some (.char c :: us, rest)

/-- The first half of a surrogate pair. -/
def isHigh (n : Nat) : Bool := 0xD800 ≤ n && n ≤ 0xDBFF

/-- The second half of a surrogate pair. -/
def isLow (n : Nat) : Bool := 0xDC00 ≤ n && n ≤ 0xDFFF

/-- Joins the halves of surrogate pairs; half a pair alone is no text. -/
def joinUnits : List TextUnit → Option (List Char)
  | [] => some []
  | .char c :: us => (joinUnits us).map (c :: ·)
  | .code n :: .code m :: us =>
    if isHigh n then
      if isLow m then
        (joinUnits us).map (Char.ofNat (0x10000 + (n - 0xD800) * 0x400 + (m - 0xDC00)) :: ·)
      else none
    else if isLow n then none
    else (joinUnits (.code m :: us)).map (Char.ofNat n :: ·)
  | .code n :: us =>
    if isHigh n || isLow n then none else (joinUnits us).map (Char.ofNat n :: ·)

/-- Reads a text after its opening quote: nothing in place of the text if it is garbled. -/
def readText (s : List Char) : Option (Option String × List Char) :=
  (readUnits s).map fun (us, rest) => ((joinUnits us).map String.ofList, rest)

def readDigits (s : List Char) : Option (List Char × List Char) :=
  if s.head?.any Char.isDigit then some (s.takeWhile Char.isDigit, s.dropWhile Char.isDigit)
  else none

/-- Reads the digits of a whole number: zero alone, or no zero in front. -/
def readWhole (s : List Char) : Option (List Char × List Char) := do
  let (digits, rest) ← readDigits s
  if digits.head? = some '0' && digits.length ≠ 1 then none else some (digits, rest)

def readFraction : List Char → Option (List Char × List Char)
  | '.' :: s => (readDigits s).map fun (digits, rest) => ('.' :: digits, rest)
  | s => some ([], s)

def readExponent : List Char → Option (List Char × List Char)
  | c :: s =>
    if c = 'e' || c = 'E' then
      match s with
      | '+' :: t => (readDigits t).map fun (digits, rest) => (c :: '+' :: digits, rest)
      | '-' :: t => (readDigits t).map fun (digits, rest) => (c :: '-' :: digits, rest)
      | t => (readDigits t).map fun (digits, rest) => (c :: digits, rest)
    else some ([], c :: s)
  | [] => some ([], [])

/-- Reads a number without sign. A minus sign before zero makes it no whole number. -/
def readUnsigned (negative : Bool) (s : List Char) : Option (Datum × List Char) := do
  let (whole, s) ← readWhole s
  let (fraction, s) ← readFraction s
  let (exponent, s) ← readExponent s
  let n := Nat.ofDigitChars 10 whole 0
  if fraction = [] && exponent = [] && !(negative && n == 0) then
    some (.int (if negative then -n else n), s)
  else
    let sign := if negative then ['-'] else []
    some (.real (String.ofList (sign ++ whole ++ fraction ++ exponent)), s)

def readNumber : List Char → Option (Datum × List Char)
  | '-' :: s => readUnsigned true s
  | s => readUnsigned false s

mutual

def readValue : Nat → List Char → Option (Datum × List Char)
  | 0, _ => none
  | fuel + 1, s =>
    match skipSpace s with
    | 'n' :: 'u' :: 'l' :: 'l' :: r => some (.null, r)
    | 't' :: 'r' :: 'u' :: 'e' :: r => some (.bool true, r)
    | 'f' :: 'a' :: 'l' :: 's' :: 'e' :: r => some (.bool false, r)
    | '"' :: r =>
      match readText r with
      | some (some t, r) => some (.str t, r)
      | some (none, r) => some (.garbled, r)
      | none => none
    | '[' :: r =>
      match skipSpace r with
      | ']' :: r => some (.list [], r)
      | r => (readItems fuel r).map fun (items, rest) => (.list items, rest)
    | '\x7b' :: r =>
      match skipSpace r with
      | '\x7d' :: r => some (.record [], r)
      | r =>
        match readFields fuel r with
        | some (some fields, rest) => some (.record fields, rest)
        | some (none, rest) => some (.garbled, rest)
        | none => none
    | r => readNumber r

def readItems : Nat → List Char → Option (List Datum × List Char)
  | 0, _ => none
  | fuel + 1, s =>
    match readValue fuel s with
    | none => none
    | some (item, s) =>
      match skipSpace s with
      | ']' :: r => some ([item], r)
      | ',' :: r => (readItems fuel r).map fun (items, rest) => (item :: items, rest)
      | _ => none

/-- Reads the fields of a record up to and over the closing brace: no fields if a name among
them is garbled. -/
def readFields : Nat → List Char → Option (Option (List (String × Datum)) × List Char)
  | 0, _ => none
  | fuel + 1, s =>
    match skipSpace s with
    | '"' :: r =>
      match readText r with
      | none => none
      | some (name, r) =>
        match skipSpace r with
        | ':' :: r =>
          match readValue fuel r with
          | none => none
          | some (value, r) =>
            let field := name.map fun n => (n, value)
            match skipSpace r with
            | '\x7d' :: r => some (field.map fun f => [f], r)
            | ',' :: r =>
              (readFields fuel r).map fun (fields, rest) =>
                (field.bind fun f => fields.map fun fs => f :: fs, rest)
            | _ => none
        | _ => none
    | _ => none

end

/-- Reads a document. Every step that goes deeper or further reads a character or is the
first to look at one, so twice the length of the text bounds their number. -/
def read? (text : String) : Option Datum :=
  let s := text.toList
  match readValue (2 * s.length + 2) s with
  | some (value, rest) => if skipSpace rest = [] then some value else none
  | none => none

end Cutover.Json
