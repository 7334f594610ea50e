import Cutover.Graph.Spec

/-!
# Search for a dependency cycle

A depth-first walk from each declared domain along its prerequisites. A domain is active while
the walk is below it; meeting an active domain again closes a cycle. Each step down makes one
more domain seen, so a walk never goes deeper than there are domains.
-/
namespace Cutover

/-- How far the walk has come with a domain. -/
inductive Mark where
  | unseen
  | active
  | finished
  deriving DecidableEq, Repr

/-- The state of the walk: marks, and the active domains from the first entered on. -/
structure Walk where
  mark : Domain → Mark
  trail : List Domain

/-- What a part of the walk comes to. -/
inductive Finding where
  | clear (w : Walk)
  /-- The domains of a cycle, the first one again at the end. -/
  | cycle (path : List Domain)
  /-- A prerequisite is not declared, or the walk goes deeper than it may. -/
  | stuck

namespace Walk

def start : Walk := ⟨fun _ => .unseen, []⟩

def set (w : Walk) (d : Domain) (m : Mark) : Domain → Mark :=
  fun e => if e = d then m else w.mark e

def enter (w : Walk) (d : Domain) : Walk := ⟨w.set d .active, w.trail ++ [d]⟩

def leave (w : Walk) (d : Domain) : Walk := ⟨w.set d .finished, w.trail.dropLast⟩

def closing (w : Walk) (d : Domain) : List Domain :=
  (match w.trail.idxOf? d with
    | some i => w.trail.drop i
    | none => w.trail) ++ [d]

end Walk

/-- Goes through a list until something other than `clear` is found. -/
def eachClear (f : α → Walk → Finding) : List α → Walk → Finding
  | [], w => .clear w
  | a :: as, w =>
    match f a w with
    | .clear w => eachClear f as w
    | finding => finding

def follow (specs : List DomainSpec) (visit : DomainSpec → Walk → Finding) (d : Domain) (w : Walk) :
    Finding :=
  match specs.find? (·.name = d) with
  | none => .stuck
  | some spec =>
    match w.mark d with
    | .active => .cycle (w.closing d)
    | .unseen => visit spec w
    | .finished => .clear w

/-- Walks below a domain, at most `depth` domains deep. -/
def visit (specs : List DomainSpec) : Nat → DomainSpec → Walk → Finding
  | 0, _, _ => .stuck
  | depth + 1, spec, w =>
    match eachClear (follow specs (visit specs depth)) spec.dependsOn (w.enter spec.name) with
    | .clear w => .clear (w.leave spec.name)
    | finding => finding

/-- Walks from each domain that has not been seen by then. -/
def search (specs : List DomainSpec) : Finding :=
  eachClear
    (fun spec w =>
      if w.mark spec.name = .unseen then visit specs specs.length spec w else .clear w)
    specs Walk.start

def findCycle (specs : List DomainSpec) : Option (List Domain) :=
  match search specs with
  | .cycle path => some path
  | _ => none

end Cutover
