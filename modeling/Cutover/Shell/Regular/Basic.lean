import Cutover.Shell.Pattern

/-!
# Regular expressions

An expression leads from a place in a text to the places where what it stands for can end. Of
those that begin first the longest one counts, and within it the parts on the left are as long
as they can be.
-/
namespace Cutover.Shell

/-- A place that nothing is read at. -/
inductive Edge where
  | front
  | rear
  | wordFront
  | wordRear
  | between (inverted : Bool)
  deriving DecidableEq, Repr

/-- A regular expression. -/
inductive Regular where
  | empty
  | one (c : Char)
  | any
  | among (inverted : Bool) (members : List Member)
  | edge (e : Edge)
  | follow (first second : Regular)
  | either (first second : Regular)
  | repeated (r : Regular) (least : Nat) (most : Option Nat)
  | group (number : Nat) (r : Regular)
  | again (number : Nat)
  deriving Repr

namespace Regular

/-- A text in which something is looked for. -/
structure Subject where
  text : Array Char
  fold : Bool := false
  byLine : Bool := false
  /-- Whether spots with other groups are kept apart. -/
  exact : Bool := false

/-- How far a text has been read, and where the groups stand. -/
structure Spot where
  here : Nat
  groups : List (Nat × Nat × Nat) := []
  deriving DecidableEq

def isWordChar (c : Char) : Bool := c.isAlphanum || c = '_'

namespace Subject

def hasWord (t : Subject) (i : Nat) : Bool := (t.text[i]?).any isWordChar

def hasWordBefore (t : Subject) (i : Nat) : Bool := 0 < i && t.hasWord (i - 1)

def isAt (t : Subject) (i : Nat) : Edge → Bool
  | .front => i = 0 || (t.byLine && t.text[i - 1]? = some '\n')
  | .rear => i = t.text.size || (t.byLine && t.text[i]? = some '\n')
  | .wordFront => !t.hasWordBefore i && t.hasWord i
  | .wordRear => t.hasWordBefore i && !t.hasWord i
  | .between inverted => (t.hasWordBefore i != t.hasWord i) != inverted

def same (t : Subject) (c d : Char) : Bool := c = d || (t.fold && c.toLower = d.toLower)

def isAmong (t : Subject) (members : List Member) (c : Char) : Bool :=
  let fits (c : Char) : Bool := members.any (Member.fits c)
  fits c || (t.fold && (fits c.toLower || fits c.toUpper))

/-- Spots with those first that are farthest, each once; of those at one place only the first
unless groups matter. -/
def tidy (t : Subject) (spots : List Spot) : List Spot :=
  match spots with
  | [] => []
  | [s] => [s]
  | spots =>
    let rec thin : List Spot → List Spot → List Spot
      | _, [] => []
      | held, s :: rest =>
        let held := held.filter (·.here = s.here)
        if if t.exact then held.contains s else held ≠ [] then thin held rest
        else s :: thin (s :: held) rest
    thin [] (spots.mergeSort fun a b => b.here ≤ a.here)

def after (t : Subject) (s : Spot) (isRight : Char → Bool) : List Spot :=
  if (t.text[s.here]?).any isRight then [{ s with here := s.here + 1 }] else []

/-- The spots after something has been read again and again. A spot where as much has been read
as needed is not left again for the same place. -/
def loop (t : Subject) (step : Spot → List Spot) (least : Nat) :
    Nat → Option Nat → List Spot → List Spot → List Spot
  | 0, _, _, found => found
  | n + 1, most, spots, found =>
    let isEnough := least = 0
    let fresh := if isEnough then
        spots.filter fun s => !found.any fun f => f.here = s.here && (!t.exact || f = s)
      else spots
    let found := if isEnough then found ++ fresh else found
    if fresh = [] || most = some 0 then found
    else
      let next := t.tidy (fresh.flatMap step)
      loop t step (least - 1) n (most.map (· - 1)) next found
termination_by n => n

end Subject

def ends (t : Subject) : Regular → Spot → List Spot
  | .empty, s => [s]
  | .one c, s => t.after s (t.same c)
  | .any, s => t.after s fun _ => true
  | .among inverted members, s => t.after s fun c => t.isAmong members c != inverted
  | .edge e, s => if t.isAt s.here e then [s] else []
  | .follow a b, s => t.tidy ((ends t a s).flatMap (ends t b))
  | .either a b, s => t.tidy (ends t a s ++ ends t b s)
  | .repeated a least most, s =>
    t.tidy (t.loop (ends t a) least (least + t.text.size + 2) most [s] [])
  | .group n a, s =>
    (ends t a s).map fun e =>
      { e with groups := (n, s.here, e.here) :: e.groups.filter (·.1 ≠ n) }
  | .again n, s =>
    match s.groups.lookup n with
    | none => []
    | some (start, stop) =>
      let part := (t.text.extract start stop).toList
      let there := (t.text.extract s.here (s.here + part.length)).toList
      if part.length = there.length && (part.zip there).all fun e => t.same e.1 e.2 then
        [{ s with here := s.here + part.length }]
      else []

def refers : Regular → Bool
  | .again _ => true
  | .follow a b | .either a b => a.refers || b.refers
  | .repeated a _ _ | .group _ a => a.refers
  | _ => false

/-- What has been found. -/
structure Found where
  start : Nat
  stop : Nat
  groups : List (Nat × Nat × Nat)

def Found.part (f : Found) (text : Array Char) (number : Nat) : List Char :=
  if number = 0 then (text.extract f.start f.stop).toList
  else
    match f.groups.lookup number with
    | some (start, stop) => (text.extract start stop).toList
    | none => []

/-- The first place from one on where an expression stands, as long as it can be. What is found
has to be allowed where it stands. -/
def find? (r : Regular) (t : Subject) (allowed : Nat → Nat → Bool) : Nat → Nat → Option Found
  | 0, _ => none
  | n + 1, start =>
    if t.text.size < start then none
    else
      match (r.ends t ⟨start, []⟩).find? fun e => allowed start e.here with
      | some e => some ⟨start, e.here, e.groups⟩
      | none => find? r t allowed n (start + 1)

def findFrom? (r : Regular) (t : Subject) (start : Nat) : Option Found :=
  r.find? t (fun _ _ => true) (t.text.size + 1) start

end Regular

end Cutover.Shell
