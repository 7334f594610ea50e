import Cutover.Shell.Pattern
import Cutover.Shell.Program.Quoted
import Cutover.Shell.Real

/-!
# Keys of lines

Lines are put in order by keys. A key is a part of the line, from one field to another, and a
manner in which that part is compared.
-/
namespace Cutover.Shell

/-- A part of lines by which they are put in order. -/
structure SortKey where
  field : Nat := 0
  char : Nat := 0
  /-- How many fields and characters come before its end; without fields it goes on to the end of
  the line, without characters to the end of the field. -/
  lastField : Option Nat := none
  lastChar : Nat := 0
  /-- Whether blanks in front are left out where the part begins, and where it ends. -/
  skips : Bool := false
  lastSkips : Bool := false
  manner : List Char := []
  deriving DecidableEq

namespace SortKey

def manners : List Char := "dfghiMnRrV".toList

def count (what : String) (s : List Char) : Except String (Nat × List Char) :=
  match s.takeWhile Char.isDigit with
  | [] => .error (what ++ ": invalid count at start of " ++ Quoted.plain (String.ofList s))
  | ds => .ok (digitsValue 10 ds, s.drop ds.length)

def position (spec what : String) (s : List Char) : Except String (Nat × Option Nat × List Char) :=
  let wrong (what : String) : Except String (Nat × Option Nat × List Char) :=
    .error (what ++ ": invalid field specification " ++ Quoted.plain spec)
  match count what s with
  | .error e => .error e
  | .ok (0, _) => wrong "field number is zero"
  | .ok (field, '.' :: s) =>
    match count "invalid number after '.'" s with
    | .error e => .error e
    | .ok (char, s) => .ok (field, some char, s)
  | .ok (field, s) => .ok (field, none, s)

def read (spec : String) : Except String SortKey := do
  let wrong (what : String) : Except String SortKey :=
    .error (what ++ ": invalid field specification " ++ Quoted.plain spec)
  let isLetter (c : Char) : Bool := c = 'b' || manners.contains c
  let (field, char, s) ← position spec "invalid number at field start" spec.toList
  if char = some 0 then wrong "character offset is zero"
  else
    let letters := s.takeWhile isLetter
    let k : SortKey :=
      { field := field - 1, char := char.getD 1 - 1, skips := letters.contains 'b'
        manner := letters.filter (· ≠ 'b') }
    match s.drop letters.length with
    | [] => return k
    | ',' :: s =>
      let (field, char, s) ← position spec "invalid number after ','" s
      let letters := s.takeWhile isLetter
      if s.length ≠ letters.length then wrong "stray character in field spec"
      else
        return { k with
          lastField := some (field - 1), lastChar := char.getD 0
          lastSkips := letters.contains 'b'
          manner := k.manner ++ letters.filter (· ≠ 'b') }
    | _ => wrong "stray character in field spec"

def isPlain (k : SortKey) : Bool := k.manner = [] && !k.skips && !k.lastSkips

/-- The letters of manners that do not go together, if there are such. -/
def clash? (k : SortKey) : Option String :=
  let has (letters : String) : Bool := k.manner.any letters.toList.contains
  let kinds := [has "n", has "g", has "h", has "M", has "VRdi"].countP id
  if kinds ≤ 1 then none
  else some (String.ofList ("dfghiMnRV".toList.filter k.manner.contains))

/-- The rest of a text after fields. Without a separator a field has the blanks in front of it. -/
def dropFields (separator : Option Char) : Nat → List Char → List Char
  | 0, s => s
  | n + 1, s =>
    match separator with
    | some c => dropFields separator n ((s.dropWhile (· ≠ c)).drop 1)
    | none => dropFields separator n ((s.dropWhile isBlank).dropWhile (!isBlank ·))

def part (k : SortKey) (separator : Option Char) (line : List Char) : List Char :=
  let start := dropFields separator k.field line
  let start := (if k.skips then start.dropWhile isBlank else start).drop k.char
  let rest : List Char := match k.lastField with
    | none => []
    | some n =>
      let fields := dropFields separator n line
      if k.lastChar ≠ 0 then
        (if k.lastSkips then fields.dropWhile isBlank else fields).drop k.lastChar
      else
        match separator with
        | some c => fields.dropWhile (· ≠ c)
        | none => (fields.dropWhile isBlank).dropWhile (!isBlank ·)
  start.take (start.length - rest.length)

/-! ### Comparing -/

/-- A number with places after the point. -/
structure Decimal where
  digits : Int
  places : Nat

def Decimal.order (a b : Decimal) : Ordering :=
  compare (a.digits * Nat.pow 10 b.places) (b.digits * Nat.pow 10 a.places)

def number (s : List Char) : Decimal × List Char :=
  let s := s.dropWhile isBlank
  let (negative, s) := match s with
    | '-' :: s => (true, s)
    | s => (false, s)
  let (places, rest) := readPlaces Char.isDigit (s.dropWhile Char.isDigit)
  let n : Int := digitsValue 10 (s.takeWhile Char.isDigit ++ places)
  (⟨if negative then -n else n, places.length⟩, rest)

/-- How often the letter behind a number multiplies it. -/
def power (s : List Char) : Nat :=
  match s with
  | c :: _ => (("kKMGTPEZYRQ".toList.idxOf? c).map fun i => max i 1).getD 0
  | [] => 0

def compareSizes (a b : List Char) : Ordering :=
  let (m, r) := number a
  let (n, t) := number b
  let size (d : Decimal) (rest : List Char) : Int :=
    if d.digits = 0 then 0 else if d.digits < 0 then -(power rest + 1 : Int) else power rest + 1
  (compare (size m r) (size n t)).then (m.order n)

def month (s : List Char) : Nat :=
  let name := String.ofList (((s.dropWhile isBlank).take 3).map Char.toUpper)
  let months := ["JAN", "FEB", "MAR", "APR", "MAY", "JUN", "JUL", "AUG", "SEP", "OCT", "NOV", "DEC"]
  ((months.idxOf? name).map (· + 1)).getD 0

/-- Where a number with an exponent stands: what is no number comes first. -/
def compareReals (a b : List Char) : Ordering :=
  let rank : Option Real → Nat × Int
    | none => (0, 0)
    | some ⟨negative, m, _⟩ =>
      match m with
      | .undefined => (1, 0)
      | .infinite => if negative then (2, 0) else (4, 0)
      | .ratio _ _ => (3, 0)
  let x := (readReal? .extended a).map (·.1)
  let y := (readReal? .extended b).map (·.1)
  let value (r : Option Real) : Int × Nat :=
    match r with
    | some ⟨negative, .ratio n d, _⟩ => (if negative then -(n : Int) else n, d)
    | _ => (0, 1)
  let (n, d) := value x
  let (m, e) := value y
  (compare (rank x).1 (rank y).1).then (compare (n * e) (m * d))

/-- Where a character stands in versions: the end comes early, and a tilde before it. -/
def versionRank : List Char → Int
  | [] => -1
  | c :: _ =>
    if c.isDigit then 0 else if c.isAlpha then c.toNat else if c = '~' then -2 else c.toNat + 256

def compareVersions : Nat → List Char → List Char → Ordering
  | 0, _, _ => .eq
  | _ + 1, [], [] => .eq
  | n + 1, a, b =>
    let isText (s : List Char) : Bool := (s.head?).any (!·.isDigit)
    if isText a || isText b then
      (compare (versionRank a) (versionRank b)).then (compareVersions n (a.drop 1) (b.drop 1))
    else
      let x := (a.takeWhile Char.isDigit).dropWhile (· == '0')
      let y := (b.takeWhile Char.isDigit).dropWhile (· == '0')
      ((compare x.length y.length).then (compare x y)).then
        (compareVersions n (a.dropWhile Char.isDigit) (b.dropWhile Char.isDigit))

def compareParts (manner : List Char) (a b : List Char) : Ordering :=
  let has (c : Char) : Bool := manner.contains c
  if has 'n' then (number a).1.order (number b).1
  else if has 'g' then compareReals a b
  else if has 'h' then compareSizes a b
  else if has 'M' then compare (month a) (month b)
  else
    let kept (s : List Char) : List Char :=
      let s := if has 'd' then s.filter fun c => isBlank c || c.isAlphanum else s
      let s := if has 'i' then s.filter (isOfKind "print") else s
      if has 'f' then s.map Char.toUpper else s
    if has 'V' then compareVersions (a.length + b.length + 1) (kept a) (kept b)
    else compare (kept a) (kept b)

def order (k : SortKey) (separator : Option Char) (a b : List Char) : Ordering :=
  let o := compareParts k.manner (k.part separator a) (k.part separator b)
  if k.manner.contains 'r' then o.swap else o

end SortKey

end Cutover.Shell
