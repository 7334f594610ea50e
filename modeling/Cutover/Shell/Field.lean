import Cutover.Shell.Script

/-!
# Fields

What a word stands for is first a row of spans. Some spans are split into fields at the
separators in force; quotes leave a mark, so that a field between quotes may be empty.
-/
namespace Cutover.Shell

/-- A part of what a word stands for. -/
inductive Cell where
  | char (c : Char) (quoted : Bool)
  | mark
  deriving DecidableEq, Repr

/-- How a span is split. -/
inductive Splitting where
  | whole
  | separators
  | arguments
  deriving DecidableEq, Repr

/-- A run of cells that is split in one way. -/
structure Span where
  splitting : Splitting
  cells : List Cell

def Cell.char? : Cell → Option Char
  | .char c _ => some c
  | .mark => none

def textOf (cells : List Cell) : String := String.ofList (cells.filterMap Cell.char?)

def cellsOf (spans : List Span) : List Cell := spans.flatMap Span.cells

def cellsOfText (quoted : Bool) (s : List Char) : List Cell := s.map (.char · quoted)

def partition : Char := '\x00'

def spaces : List Char := [' ', '\t', '\n', partition]

/-- A division into fields under way. -/
structure Division where
  fields : List (List Cell) := []
  current : List Cell := []
  /-- Whether white space has just ended a field, so that more of it parts nothing. -/
  spaced : Bool := false
  splitting : Splitting := .whole
  limit : Option Nat := none
  /-- What stands at the end and is left out unless more than separators follows. -/
  tail : Option (List Cell) := none

def Division.last (d : Division) (c : Cell) (isSeparator isSpace : Bool) : Division :=
  if isSpace then
    match d.tail with
    | none => { d with tail := some [c] }
    | some t => { d with tail := some (c :: t) }
  else if isSeparator && d.spaced then
    { d with spaced := false, tail := d.tail.map (c :: ·) }
  else
    let before := (d.tail.getD []) ++ d.current
    { d with spaced := false, tail := none, current := c :: before }

def Division.separates (separators : List Char) (d : Division) : Cell → Bool
  | .char x _ => x == partition || (d.splitting = .separators && separators.contains x)
  | .mark => false

def Division.add (separators : List Char) (after : Bool) (d : Division) (c : Cell) : Division :=
  let isSeparator := d.separates separators c
  let isSpace := isSeparator && (c.char?).any spaces.contains
  if d.limit = some 0 then d.last c isSeparator isSpace
  else
    let was := d.spaced
    if was && isSpace then d
    else if was && isSeparator then { d with spaced := false }
    else if isSeparator then
      let spaced := if after || d.splitting = .arguments then false else isSpace
      if d.current = [] && spaced then { d with spaced := false }
      else if d.limit = some 1 then { d with limit := some 0, spaced, tail := some [c] }
      else
        { d with
          fields := d.current.reverse :: d.fields, current := [], spaced
          limit := d.limit.map (· - 1) }
    else { d with spaced := false, current := c :: d.current }

def Division.span (separators : List Char) (d : Division) (s : Span) : Division :=
  match s.splitting with
  | .whole =>
    match d.tail with
    | some t => { d with tail := some (s.cells.reverse ++ t) }
    | none => { d with current := s.cells.reverse ++ d.current }
  | splitting =>
    let after := d.splitting = .arguments
    s.cells.foldl (Division.add separators after) { d with spaced := false, splitting }

/-- The fields of spans. With a limit the last field takes all that is left, the white space at
its end aside. -/
def fieldsOf (separators : List Char) (limit : Option Nat) (spans : List Span) :
    List (List Cell) :=
  let d := spans.foldl (Division.span separators) { limit }
  let fields := if d.current = [] && d.splitting ≠ .arguments then d.fields
    else d.current.reverse :: d.fields
  fields.reverse

end Cutover.Shell
