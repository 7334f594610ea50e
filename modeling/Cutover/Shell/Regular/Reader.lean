import Cutover.Shell.Number
import Cutover.Shell.Regular.Basic

/-!
# Reading regular expressions

There are two ways to write them. In the basic one the signs for groups, bounds and choices stand
after backslashes; in the extended one they do when they are meant as they are.
-/
namespace Cutover.Shell.Regular

/-- How expressions are written. -/
structure Dialect where
  extended : Bool
  /-- Whether letters after backslashes stand for characters that do not print. -/
  escapes : Bool := false
  strict : Bool := false
  emptyRanges : Bool := false

/-- The parts of a written expression. -/
inductive Sign where
  | plain (c : Char)
  | any
  | edge (e : Edge)
  | kind (inverted : Bool) (members : List Member)
  | star
  | plus
  | question
  | brace
  | bar
  | opening
  | closing
  | bracket
  | again (number : Nat)
  deriving DecidableEq

def wordMembers : List Member := [.kind "alnum", .range '_' '_']

def letterChar? (c : Char) : Option Char :=
  match c with
  | 'n' => some '\n'
  | 't' => some '\t'
  | 'f' => some '\x0c'
  | 'v' => some '\x0b'
  | 'a' => some '\x07'
  | 'r' => some '\r'
  | _ => none

def Dialect.escaped (d : Dialect) (c : Char) : Sign :=
  match c with
  | 'w' => .kind false wordMembers
  | 'W' => .kind true wordMembers
  | 's' => .kind false [.kind "space"]
  | 'S' => .kind true [.kind "space"]
  | '<' => .edge .wordFront
  | '>' => .edge .wordRear
  | 'b' => .edge (.between false)
  | 'B' => .edge (.between true)
  | '\x60' => .edge .front
  | '\x27' => .edge .rear
  | _ =>
    let basic : Option Sign := match c with
      | '(' => some .opening
      | ')' => some .closing
      | '\x7b' => some .brace
      | '|' => some .bar
      | '+' => some .plus
      | '?' => some .question
      | _ => none
    match if d.extended then none else basic with
    | some sign => sign
    | none =>
      if c.isDigit && c ≠ '0' then .again (c.toNat - '0'.toNat)
      else
        match if d.escapes then letterChar? c else none with
        | some c => .plain c
        | none => .plain c

def Dialect.bare (d : Dialect) (c : Char) : Sign :=
  let extended : Option Sign := match c with
    | '(' => some .opening
    | ')' => some .closing
    | '\x7b' => some .brace
    | '|' => some .bar
    | '+' => some .plus
    | '?' => some .question
    | _ => none
  match c with
  | '.' => .any
  | '*' => .star
  | '[' => .bracket
  | _ => if d.extended then extended.getD (.plain c) else .plain c

def Dialect.sign? (d : Dialect) : List Char → Except String (Option (Sign × List Char))
  | [] => .ok none
  | ['\\'] => .error "Trailing backslash"
  | '\\' :: c :: s => .ok (some (d.escaped c, s))
  | c :: s => .ok (some (d.bare c, s))

def unclosedBracket : String := "Unmatched [, [^, [:, [., or [="

/-- The message about an expression that ends where brackets open. -/
def invalid : String := "Invalid regular expression"

/-- Reads what stands between brackets, after the opening one. -/
def Dialect.members (d : Dialect) : Nat → Bool → List Char → List Member →
    Except String (List Member × List Char)
  | 0, _, _, _ => .error unclosedBracket
  | n + 1, first, s, found =>
    let named (mark : Char) (s : List Char) : Option (List Char × List Char) :=
      let name := s.takeWhile fun c => c ≠ mark
      match s.drop name.length with
      | _ :: ']' :: rest => some (name, rest)
      | _ => none
    let single (s : List Char) : Except String (Char × List Char) :=
      match s with
      | [] => .error unclosedBracket
      | '[' :: '.' :: rest =>
        match named '.' rest with
        | some ([c], rest) => .ok (c, rest)
        | some _ => .error "Invalid collation character"
        | none => .error unclosedBracket
      | '\\' :: c :: rest =>
        match if d.escapes then letterChar? c else none with
        | some c => .ok (c, rest)
        | none => .ok ('\\', c :: rest)
      | c :: rest => .ok (c, rest)
    match s with
    | [] => .error unclosedBracket
    | '[' :: ':' :: rest =>
      match named ':' rest with
      | some (name, rest) =>
        if kinds.contains (String.ofList name) then
          members d n false rest (found ++ [.kind (String.ofList name)])
        else .error "Invalid character class name"
      | none => .error unclosedBracket
    | '[' :: '=' :: rest =>
      match named '=' rest with
      | some ([c], rest) => members d n false rest (found ++ [.range c c])
      | some _ => .error "Invalid collation character"
      | none => .error unclosedBracket
    | c :: rest =>
      if c = ']' && !first then .ok (found, rest)
      else
        match single (c :: rest) with
        | .error e => .error e
        | .ok (low, rest) =>
          match rest with
          | '-' :: high :: after =>
            if high = ']' then members d n false rest (found ++ [.range low low])
            else
              match single (high :: after) with
              | .error e => .error e
              | .ok (high, after) =>
                if high < low && !d.emptyRanges then .error "Invalid range end"
                else members d n false after (found ++ [.range low high])
          | _ => members d n false rest (found ++ [.range low low])

def Dialect.bracketed (d : Dialect) (s : List Char) : Except String (Regular × List Char) := do
  let (inverted, s) := match s with
    | '^' :: s => (true, s)
    | s => (false, s)
  if s = [] then throw invalid
  let (members, rest) ← d.members (s.length + 1) true s []
  return (.among inverted members, rest)

def mostTimes : Nat := 32767

/-- Reads bounds after the opening brace, or tells that these are none. -/
def Dialect.bounds (d : Dialect) (s : List Char) :
    Except String (Option (Nat × Option Nat × List Char)) :=
  let number (s : List Char) : Option Nat × List Char :=
    match s.takeWhile Char.isDigit with
    | [] => (none, s)
    | ds => (some (digitsValue 10 ds), s.drop ds.length)
  let (low, rest) := number s
  let (bounded, high, rest) : Bool × Option Nat × List Char := match rest with
    | ',' :: rest =>
      let (high, rest) := number rest
      (true, high, rest)
    | rest => (false, low, rest)
  let after? : Option (List Char) := match rest with
    | '\x7d' :: rest => if d.extended then some rest else none
    | '\\' :: '\x7d' :: rest => if d.extended then none else some rest
    | _ => none
  match after? with
  | none =>
    if d.extended && !d.strict then .ok none
    else if rest.all fun c => c ≠ '\x7d' then
      .error "Unmatched \\\x7b"
    else .error "Invalid content of \\\x7b\\\x7d"
  | some rest =>
    if low.isNone && !bounded then
      if d.extended && !d.strict then .ok none else .error "Invalid content of \\\x7b\\\x7d"
    else if high.any (· < low.getD 0) then .error "Invalid content of \\\x7b\\\x7d"
    else if high.any (mostTimes < ·) || mostTimes < low.getD 0 then
      .error "Regular expression too big"
    else .ok (some (low.getD 0, high, rest))

/-- Puts signs behind an expression that tell how often it is repeated. -/
def Dialect.repetitions (d : Dialect) : Nat → Bool → Regular → List Char →
    Except String (Regular × List Char)
  | 0, _, r, s => .ok (r, s)
  | n + 1, isRepeated, r, s => do
    let isRefused := isRepeated && d.strict && !d.extended
    let refused : Except String (Regular × List Char) :=
      .error "Invalid preceding regular expression"
    match ← d.sign? s with
    | some (.star, s) =>
      if isRefused then refused else d.repetitions n true (.repeated r 0 none) s
    | some (.plus, s) => d.repetitions n true (.repeated r 1 none) s
    | some (.question, s) => d.repetitions n true (.repeated r 0 (some 1)) s
    | some (.brace, rest) =>
      match ← d.bounds rest with
      | some (low, high, rest) =>
        if isRefused then refused else d.repetitions n true (.repeated r low high) rest
      | none => return (r, s)
    | _ => return (r, s)

def Dialect.isBranchEnd (d : Dialect) (s : List Char) : Bool :=
  match d.sign? s with
  | .ok none | .ok (some (.bar, _)) | .ok (some (.closing, _)) => true
  | _ => false

/-- A written expression under way: the number of groups so far, how many of them are not
closed, and the signs that repeat nothing. -/
structure Reading where
  rest : List Char
  groups : Nat := 0
  depth : Nat := 0
  idle : List String := []

mutual

def Dialect.choice (d : Dialect) : Nat → Reading → Except String (Regular × Reading)
  | 0, _ => .error "Regular expression too big"
  | n + 1, s => do
    let (first, s) ← d.branch n true .empty s
    match ← d.sign? s.rest with
    | some (.bar, rest) =>
      let (second, s) ← d.choice n { s with rest }
      return (.either first second, s)
    | _ => return (first, s)

def Dialect.branch (d : Dialect) : Nat → Bool → Regular → Reading →
    Except String (Regular × Reading)
  | 0, _, _, _ => .error "Regular expression too big"
  | n + 1, isFront, sofar, s => do
    let goOn (r : Regular) (s : Reading) : Except String (Regular × Reading) := do
      let (r, rest) ← d.repetitions (s.rest.length + 1) false r s.rest
      d.branch n false (.follow sofar r) { s with rest }
    match s.rest with
    | '^' :: rest =>
      if d.extended || isFront then
        d.branch n true (.follow sofar (.edge .front)) { s with rest }
      else goOn (.one '^') { s with rest }
    | '$' :: rest =>
      if d.extended || d.isBranchEnd rest then
        d.branch n false (.follow sofar (.edge .rear)) { s with rest }
      else goOn (.one '$') { s with rest }
    | _ =>
      match ← d.sign? s.rest with
      | none => return (sofar, s)
      | some (.bar, _) => return (sofar, s)
      | some (.closing, _) =>
        if s.depth ≠ 0 then return (sofar, s)
        else if d.extended && !d.strict then goOn (.one ')') { s with rest := s.rest.drop 1 }
        else .error "Unmatched ) or \\)"
      | some (.opening, rest) =>
        let number := s.groups + 1
        let (inner, s) ← d.choice n { s with rest, groups := number, depth := s.depth + 1 }
        match ← d.sign? s.rest with
        | some (.closing, rest) =>
          goOn (.group number inner) { s with rest, depth := s.depth - 1 }
        | _ => .error "Unmatched ( or \\("
      | some (.bracket, rest) =>
        let (r, rest) ← d.bracketed rest
        goOn r { s with rest }
      | some (.again k, rest) =>
        if s.groups < k then .error "Invalid back reference" else goOn (.again k) { s with rest }
      | some (.any, rest) => goOn .any { s with rest }
      | some (.edge e, rest) => goOn (.edge e) { s with rest }
      | some (.kind inverted members, rest) => goOn (.among inverted members) { s with rest }
      | some (.plain c, rest) => goOn (.one c) { s with rest }
      | some (.star, rest) | some (.plus, rest) | some (.question, rest) =>
        let shown := s.rest.headD '*'
        if d.extended && d.strict then .error "Invalid preceding regular expression"
        else if d.extended then
          d.branch n isFront sofar { s with rest, idle := s.idle ++ [String.singleton shown] }
        else goOn (.one ((s.rest.find? (· ≠ '\\')).getD '*')) { s with rest }
      | some (.brace, rest) =>
        if d.extended && !d.strict then
          match ← d.bounds rest with
          | some (_, _, rest) =>
            d.branch n isFront sofar { s with rest, idle := s.idle ++ ["\x7b...\x7d"] }
          | none => goOn (.one '\x7b') { s with rest }
        else if d.extended || d.strict then .error "Invalid preceding regular expression"
        else goOn (.one '\x7b') { s with rest }

end

/-- Reads a whole expression, and gives the signs in it that repeat nothing. -/
def Dialect.readNoting (d : Dialect) (text : List Char) :
    Except String (Regular × List String) := do
  let (r, s) ← d.choice (2 * text.length + 2) { rest := text }
  return (r, s.idle)

def Dialect.read (d : Dialect) (text : List Char) : Except String Regular :=
  (d.readNoting text).map (·.1)

end Cutover.Shell.Regular
