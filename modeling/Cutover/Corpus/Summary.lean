import Cutover.Script.Analysis

/-!
# Summary of a corpus

How many scripts there are of each kind. Every count is the number of analyses with the
property; a kind that no analysis has does not appear.
-/
namespace Cutover

/-- Numbers by kind; kinds that do not occur are absent. -/
abbrev Tally (κ : Type) [Ord κ] := Std.ExtTreeMap κ Nat

/-- One more of the given kind. -/
def Tally.count {κ : Type} [Ord κ] [Std.TransOrd κ] (t : Tally κ) (k : κ) : Tally κ :=
  t.alter k fun n => some (n.getD 0 + 1)

/-- Counts over a list of analyses. -/
structure Summary where
  totalFiles : Nat
  unreadableFiles : Nat
  outcomes : Tally Outcome
  tools : Tally String
  domains : Tally Domain
  layers : Tally Layer

namespace Summary

def empty : Summary := ⟨0, 0, ∅, ∅, ∅, ∅⟩

def add (tools : ToolNames) (s : Summary) (a : Analysis) : Summary where
  totalFiles := s.totalFiles + 1
  unreadableFiles := s.unreadableFiles + if a.isUnreadable then 1 else 0
  outcomes := s.outcomes.count a.outcome
  tools := s.tools.count (a.outcome.tool tools)
  domains := s.domains.count a.domain
  layers := s.layers.count a.layer

def ofAnalyses (tools : ToolNames) (files : List Analysis) : Summary :=
  files.foldl (add tools) empty

end Summary

end Cutover
