import Cutover.Shell.Field

/-!
# Patterns

Stars, question marks and brackets stand for other characters unless they are quoted. Patterns
are compared with whole texts, and with beginnings and ends of values.
-/
namespace Cutover.Shell

/-- What one character in brackets may be. -/
inductive Member where
  | range (low high : Char)
  | kind (name : String)
  deriving DecidableEq, Repr

/-- A piece of a pattern. -/
inductive PatternPart where
  | one (c : Char)
  | any
  | all
  | among (inverted : Bool) (members : List Member)
  deriving DecidableEq, Repr

abbrev Pattern := List PatternPart

/-- Whether a character is printed and neither a letter nor a digit. -/
def isPunctuation (c : Char) : Bool := '!' ≤ c && c ≤ '~' && !c.isAlphanum

def isOfKind (name : String) (c : Char) : Bool :=
  match name with
  | "alpha" => c.isAlpha
  | "digit" => c.isDigit
  | "alnum" => c.isAlphanum
  | "upper" => c.isUpper
  | "lower" => c.isLower
  | "space" => c == ' ' || ('\t' ≤ c && c ≤ '\r')
  | "blank" => isBlank c
  | "punct" => isPunctuation c
  | "print" => ' ' ≤ c && c ≤ '~'
  | "graph" => '!' ≤ c && c ≤ '~'
  | "cntrl" => c < ' ' || c == '\x7f'
  | "xdigit" => c.isDigit || ('a' ≤ c && c ≤ 'f') || ('A' ≤ c && c ≤ 'F')
  | _ => false

def kinds : List String :=
  ["alpha", "digit", "alnum", "upper", "lower", "space", "blank", "punct", "print", "graph",
    "cntrl", "xdigit"]

/-- Where a character stands in ranges: those that are not in the basic alphabet come first. -/
def rank (c : Char) : Int := if c.toNat < 128 then c.toNat else c.toNat - 256

def Member.fits (c : Char) : Member → Bool
  | .range low high => rank low ≤ rank c && rank c ≤ rank high
  | .kind name => isOfKind name c

/-- Reads the name of a class after its opening bracket and colon. -/
def readKind (cells : List Cell) : Option (String × List Cell) :=
  let letter : Cell → Bool
    | .char c false => c.isAlpha
    | _ => false
  let name := textOf (cells.takeWhile letter)
  match cells.dropWhile letter with
  | .char ':' false :: .char ']' false :: rest =>
    if kinds.contains name then some (name, rest) else none
  | _ => none

/-- Reads what stands in brackets up to the closing one, which may itself come first. -/
def readMembers : Nat → Bool → List Cell → Option (List Member × List Cell)
  | 0, _, _ => none
  | n + 1, first, cells =>
    match cells with
    | [] => none
    | .mark :: rest => readMembers n first rest
    | .char c quoted :: rest =>
      let more (m : Member) (rest : List Cell) :=
        (readMembers n false rest).map fun r => (m :: r.1, r.2)
      if c = ']' && !quoted && !first then some ([], rest)
      else
        match (if c = '[' && !quoted then
            match rest with
            | .char ':' false :: rest => readKind rest
            | _ => none
          else none) with
        | some (name, rest) => more (.kind name) rest
        | none =>
          match rest with
          | .char '-' false :: .char d q :: after =>
            if d = ']' && !q then more (.range c c) rest else more (.range c d) after
          | _ => more (.range c c) rest

def patternOf : Nat → List Cell → Pattern
  | 0, _ => []
  | _ + 1, [] => []
  | n + 1, .mark :: rest => patternOf n rest
  | n + 1, .char c true :: rest => .one c :: patternOf n rest
  | n + 1, .char '\\' false :: .char c _ :: rest => .one c :: patternOf n rest
  | n + 1, .char c false :: rest =>
    match c with
    | '*' => .all :: patternOf n rest
    | '?' => .any :: patternOf n rest
    | '[' =>
      let (inverted, members) := match rest with
        | .char '!' false :: rest => (true, rest)
        | rest => (false, rest)
      match readMembers (members.length + 1) true members with
      | some (ms, rest) => .among inverted ms :: patternOf n rest
      | none => .one c :: patternOf n rest
    | _ => .one c :: patternOf n rest

def patternOfCells (cells : List Cell) : Pattern := patternOf (cells.length + 1) cells

def patternOfText (text : String) : Pattern := patternOfCells (text.toList.map (.char · false))

def fits : Pattern → List Char → Bool
  | [], s => s.isEmpty
  | .all :: p, [] => fits p []
  | .all :: p, c :: s => fits p (c :: s) || fits (.all :: p) s
  | _ :: _, [] => false
  | .any :: p, _ :: s => fits p s
  | .one d :: p, c :: s => c = d && fits p s
  | .among inverted ms :: p, c :: s => (ms.any (Member.fits c) != inverted) && fits p s
termination_by p s => (p.length, s.length)

def Pattern.isOpen (p : Pattern) : Bool :=
  p.any fun
    | .one _ => false
    | _ => true

/-- A value less what a pattern takes off one of its ends. A list of arguments is one value: each
text in it is compared up to where the argument ends, and the shorter ways to find something go
no farther than the first argument. -/
def trimmed (p : Pattern) (atEnd longest : Bool) (s : List Char) : List Char :=
  let argument (s : List Char) : List Char := s.takeWhile (· ≠ partition)
  let cuts := if atEnd = longest then List.range ((argument s).length + 1)
    else (List.range (s.length + 1)).reverse
  let compared (k : Nat) : List Char := argument (if atEnd then s.drop k else s.take k)
  match cuts.find? fun k => fits p (compared k) with
  | some k => if atEnd then s.take k else s.drop k
  | none => s

end Cutover.Shell
