import Cutover.Datum.Basic
import Cutover.Datum.Json

/-!
# Scalars of TOML

Texts in four kinds of quotes, whole and other numbers, truth values and points in time. Each
reader gives what it found and the rest of the text. Steps are bounded by the length of the
text wherever a step reads more than one character.
-/
namespace Cutover.Toml

def isGap (c : Char) : Bool := c == ' ' || c == '\t'

def skipGap (s : List Char) : List Char := s.dropWhile isGap

def readNewline : List Char → Option (List Char)
  | '\n' :: s => some s
  | '\r' :: '\n' :: s => some s
  | _ => none

def isCommentChar (c : Char) : Bool := c == '\t' || (' ' ≤ c && c ≠ '\u007f')

def skipComment : List Char → List Char
  | '#' :: s => s.dropWhile isCommentChar
  | s => s

/-- The characters that stand for themselves in a text; quotes and backslashes are asked for
beforehand. -/
def isPlain (c : Char) : Bool := c == '\t' || (' ' ≤ c && c ≠ '\u007f')

/-- Reads `n` hexadecimal digits on top of the number read so far. -/
def readHex : Nat → Nat → List Char → Option (Nat × List Char)
  | 0, acc, s => some (acc, s)
  | _ + 1, _, [] => none
  | n + 1, acc, c :: s =>
    match Json.hexDigit? c with
    | some d => readHex n (acc * 16 + d) s
    | none => none

/-- The character with a given code, which half a surrogate pair does not have. -/
def charOf? (n : Nat) : Option Char :=
  if n < 0xD800 || (0xDFFF < n && n < 0x110000) then some (Char.ofNat n) else none

def readEscape : List Char → Option (Char × List Char)
  | 'b' :: s => some ('\u0008', s)
  | 't' :: s => some ('\t', s)
  | 'n' :: s => some ('\n', s)
  | 'f' :: s => some ('\u000c', s)
  | 'r' :: s => some ('\r', s)
  | '"' :: s => some ('"', s)
  | '\\' :: s => some ('\\', s)
  | 'u' :: s => (readHex 4 0 s).bind fun (n, r) => (charOf? n).map fun c => (c, r)
  | 'U' :: s => (readHex 8 0 s).bind fun (n, r) => (charOf? n).map fun c => (c, r)
  | _ => none

/-- Reads a text on one line in double quotes, after the opening one. -/
def readBasic : Nat → List Char → Option (List Char × List Char)
  | 0, _ => none
  | fuel + 1, s =>
    match s with
    | '"' :: r => some ([], r)
    | '\\' :: r => do
      let (c, r) ← readEscape r
      let (cs, r) ← readBasic fuel r
      some (c :: cs, r)
    | c :: r =>
      if isPlain c then (readBasic fuel r).map fun (cs, r) => (c :: cs, r) else none
    | [] => none

/-- Reads a text on one line in single quotes, after the opening one. -/
def readLiteral : List Char → Option (List Char × List Char)
  | [] => none
  | c :: r =>
    if c = '\'' then some ([], r)
    else if isPlain c then (readLiteral r).map fun (cs, r) => (c :: cs, r)
    else none

def skipLines : List Char → List Char
  | [] => []
  | c :: r =>
    if isGap c || c = '\n' then skipLines r
    else
      match c, r with
      | '\r', '\n' :: r => skipLines r
      | _, _ => c :: r

/-- Reads over several lines up to three quotes in a row, up to two more of which belong to
the text. Backslashes count only if `escapes`; one at the end of a line joins it to the next
text. -/
def readLong (quote : Char) (escapes : Bool) : Nat → List Char → Option (List Char × List Char)
  | 0, _ => none
  | fuel + 1, s =>
    match s with
    | [] => none
    | c :: r =>
      if c = quote then
        let run := s.takeWhile (· = quote)
        if run.length < 3 then
          (readLong quote escapes fuel (s.drop run.length)).map fun (cs, r) => (run ++ cs, r)
        else
          let own := min (run.length - 3) 2
          some (List.replicate own quote, s.drop (own + 3))
      else if escapes && c = '\\' then
        match readNewline (skipGap r) with
        | some r => readLong quote escapes fuel (skipLines r)
        | none => do
          let (e, r) ← readEscape r
          let (cs, r) ← readLong quote escapes fuel r
          some (e :: cs, r)
      else
        match readNewline s with
        | some r => (readLong quote escapes fuel r).map fun (cs, r) => ('\n' :: cs, r)
        | none =>
          if isPlain c then (readLong quote escapes fuel r).map fun (cs, r) => (c :: cs, r)
          else none

/-- Skips the line end that may come right after three opening quotes. -/
def skipFirstNewline (s : List Char) : List Char := (readNewline s).getD s

/-- Reads a text in any kind of quotes. -/
def readText : List Char → Option (List Char × List Char)
  | '"' :: '"' :: '"' :: s => readLong '"' true (s.length + 1) (skipFirstNewline s)
  | '\'' :: '\'' :: '\'' :: s => readLong '\'' false (s.length + 1) (skipFirstNewline s)
  | '"' :: s => readBasic (s.length + 1) s
  | '\'' :: s => readLiteral s
  | _ => none

/-- Reads digits that single underscores may part. -/
def readDigits (isDigit : Char → Bool) : List Char → Option (List Char × List Char)
  | [] => none
  | c :: s =>
    if isDigit c then
      match s with
      | '_' :: t => (readDigits isDigit t).map fun (ds, r) => (c :: ds, r)
      | t =>
        match readDigits isDigit t with
        | some (ds, r) => some (c :: ds, r)
        | none => some ([c], t)
    else none

def isHex (c : Char) : Bool := (Json.hexDigit? c).isSome

def isOctal (c : Char) : Bool := '0' ≤ c && c ≤ '7'

def isBinary (c : Char) : Bool := c == '0' || c == '1'

/-- The number that digits write in a base up to sixteen. -/
def numberOf (base : Nat) (digits : List Char) : Nat :=
  digits.foldl (fun n c => base * n + (Json.hexDigit? c).getD 0) 0

/-- A whole number within the range of 64 bits with sign. -/
def whole? (n : Int) : Option Datum :=
  if -9223372036854775808 ≤ n && n ≤ 9223372036854775807 then some (.int n) else none

/-- Reads a sign, if there is one; tells whether it is a minus. -/
def readSign : List Char → Bool × List Char
  | '+' :: s => (false, s)
  | '-' :: s => (true, s)
  | s => (false, s)

/-- Reads decimal digits without a zero in front of others. -/
def readDecimal (s : List Char) : Option (List Char × List Char) := do
  let (ds, r) ← readDigits Char.isDigit s
  if ds.head? = some '0' && ds.length ≠ 1 then none else some (ds, r)

/-- Reads the digits after the decimal point, if there is one. -/
def readFraction : List Char → Option (List Char × List Char)
  | '.' :: s => readDigits Char.isDigit s
  | s => some ([], s)

def readExponent : List Char → Option (Option Int × List Char)
  | c :: s =>
    if c = 'e' || c = 'E' then
      let (negative, s) := readSign s
      (readDigits Char.isDigit s).map fun (ds, r) =>
        let n : Int := numberOf 10 ds
        (some (if negative then -n else n), r)
    else some (none, c :: s)
  | [] => some (none, [])

/-- Whether digits times a power of ten round to more than the largest double. Only numbers
of about that size are worked out. -/
def overflows (digits : List Char) (power : Int) : Bool :=
  let n := numberOf 10 digits
  let size := power + (Nat.toDigits 10 n).length
  if n = 0 || size < 300 then false
  else if 310 < size then true
  else (Nat.pow 2 1024 - Nat.pow 2 970) * Nat.pow 10 (-power).toNat ≤ n * Nat.pow 10 power.toNat

def readNumber (s : List Char) : Option (Datum × List Char) := do
  let (negative, s) := readSign s
  match s with
  | 'i' :: 'n' :: 'f' :: r => some (.real "inf", r)
  | 'n' :: 'a' :: 'n' :: r => some (.real "nan", r)
  | _ =>
    let (ds, r) ← readDecimal s
    let (fraction, r) ← readFraction r
    let (exponent, r) ← readExponent r
    if fraction = [] && exponent.isNone then
      let n : Int := numberOf 10 ds
      (whole? (if negative then -n else n)).map fun d => (d, r)
    else if !negative && overflows (ds ++ fraction) (exponent.getD 0 - fraction.length) then none
    else some (.real (String.ofList ds), r)

def readPrefixed : List Char → Option (Datum × List Char)
  | '0' :: 'x' :: s =>
    (readDigits isHex s).bind fun (ds, r) => (whole? (numberOf 16 ds)).map fun d => (d, r)
  | '0' :: 'o' :: s =>
    (readDigits isOctal s).bind fun (ds, r) => (whole? (numberOf 8 ds)).map fun d => (d, r)
  | '0' :: 'b' :: s =>
    (readDigits isBinary s).bind fun (ds, r) => (whole? (numberOf 2 ds)).map fun d => (d, r)
  | _ => none

/-- Reads exactly `n` decimal digits whose number lies between two bounds. -/
def readFixed (n low high : Nat) (s : List Char) : Option (Nat × List Char) :=
  let ds := s.take n
  let v := numberOf 10 ds
  if ds.length = n && ds.all Char.isDigit && low ≤ v && v ≤ high then some (v, s.drop n) else none

def daysIn (year month : Nat) : Nat :=
  if month = 2 then
    if year % 4 = 0 && (year % 100 ≠ 0 || year % 400 = 0) then 29 else 28
  else if month = 4 || month = 6 || month = 9 || month = 11 then 30
  else 31

def readChar (c : Char) : List Char → Option (List Char)
  | d :: s => if d = c then some s else none
  | [] => none

def readDate (s : List Char) : Option (List Char) := do
  let (year, s) ← readFixed 4 0 9999 s
  let s ← readChar '-' s
  let (month, s) ← readFixed 2 1 12 s
  let s ← readChar '-' s
  let (_, s) ← readFixed 2 1 (daysIn year month) s
  some s

/-- Reads a time of day; the second 60 may be a leap second. -/
def readTime (s : List Char) : Option (List Char) := do
  let (_, s) ← readFixed 2 0 23 s
  let s ← readChar ':' s
  let (_, s) ← readFixed 2 0 59 s
  let s ← readChar ':' s
  let (_, s) ← readFixed 2 0 60 s
  match s with
  | '.' :: t => if t.head?.any Char.isDigit then some (t.dropWhile Char.isDigit) else none
  | s => some s

def readOffset : List Char → Option (List Char)
  | 'Z' :: s => some s
  | 'z' :: s => some s
  | c :: s =>
    if c = '+' || c = '-' then do
      let (_, s) ← readFixed 2 0 23 s
      let s ← readChar ':' s
      let (_, s) ← readFixed 2 0 59 s
      some s
    else some (c :: s)
  | [] => some []

/-- A point in time, as a record with a field that no reader asks for. -/
def moment : Datum := .record [("date-time", .null)]

/-- Whether a text starts as a date or as a time does, and as no number does. -/
def startsMoment (s : List Char) : Bool :=
  ((s.take 4).length == 4 && (s.take 4).all Char.isDigit && (s.drop 4).head? == some '-') ||
    ((s.take 2).length == 2 && (s.take 2).all Char.isDigit && (s.drop 2).head? == some ':')

def readMoment (s : List Char) : Option (Datum × List Char) :=
  if (s.drop 2).head? = some ':' then (readTime s).map fun r => (moment, r)
  else do
    let r ← readDate s
    match r with
    | c :: t =>
      if c = 'T' || c = 't' || (c = ' ' && (t.take 2).all Char.isDigit && 2 ≤ t.length &&
          (t.drop 2).head? = some ':') then do
        let r ← readTime t
        let r ← readOffset r
        some (moment, r)
      else some (moment, r)
    | [] => some (moment, [])

def readBare (s : List Char) : Option (Datum × List Char) :=
  match s with
  | 't' :: 'r' :: 'u' :: 'e' :: r => some (.bool true, r)
  | 'f' :: 'a' :: 'l' :: 's' :: 'e' :: r => some (.bool false, r)
  | _ =>
    if startsMoment s then readMoment s
    else
      match s with
      | '0' :: 'x' :: _ => readPrefixed s
      | '0' :: 'o' :: _ => readPrefixed s
      | '0' :: 'b' :: _ => readPrefixed s
      | _ => readNumber s

end Cutover.Toml
