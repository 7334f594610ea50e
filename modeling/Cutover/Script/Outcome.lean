import Cutover.Script.Complexity
import Cutover.Script.Dialect

/-!
# Recommendations

Which of two transformation tools should own a script, and why. The reasons are tried in a
fixed order. Which tool stands behind a reason is configured.
-/
namespace Cutover

/-- The reason for a recommendation, in the order in which reasons are tried. -/
inductive Outcome where
  | complexIncremental
  | incremental
  | highComplexity
  | dialectSpecific
  | simpleTransform
  deriving DecidableEq, Repr

/-- The names of the two transformation tools. -/
structure ToolNames where
  /-- For incremental, complex and dialect-bound scripts. -/
  advanced : String := "SQLMesh"
  simple : String := "dbt"
  deriving DecidableEq

namespace Outcome

def all : List Outcome :=
  [.complexIncremental, .incremental, .highComplexity, .dialectSpecific, .simpleTransform]

theorem mem_all (o : Outcome) : o ∈ all := by cases o <;> decide

def name : Outcome → String
  | complexIncremental => "complex_incremental"
  | incremental => "incremental"
  | highComplexity => "high_complexity"
  | dialectSpecific => "dialect_specific"
  | simpleTransform => "simple_transform"

/-- Position in the order of reasons. -/
def rank : Outcome → Nat
  | complexIncremental => 0
  | incremental => 1
  | highComplexity => 2
  | dialectSpecific => 3
  | simpleTransform => 4

theorem rank_injective {a b : Outcome} (h : a.rank = b.rank) : a = b := by
  revert h; cases a <;> cases b <;> decide

instance : Ord Outcome := ⟨compareOn rank⟩

instance : Std.TransOrd Outcome := inferInstanceAs (Std.TransCmp (compareOn rank))

instance : Std.LawfulEqOrd Outcome where
  eq_of_compare h := rank_injective (Nat.compare_eq_eq.1 h)

def reason : Outcome → String
  | complexIncremental => "complex incremental update"
  | incremental => "incremental update"
  | highComplexity => "high complexity"
  | dialectSpecific => "dialect-specific syntax"
  | simpleTransform => "simple transformation"

/-- The tool that owns a script for this reason. -/
def tool (tools : ToolNames) : Outcome → String
  | simpleTransform => tools.simple
  | _ => tools.advanced

/-- Tool and reason, as reports show them. -/
def render (o : Outcome) (tools : ToolNames) : String := s!"{o.tool tools} ({o.reason})"

/-- The first reason that applies. -/
def recommend (incremental : Bool) (level : Level) (generic : Bool) : Outcome :=
  if incremental && level = .high then .complexIncremental
  else if incremental then .incremental
  else if level = .high then .highComplexity
  else if !generic then .dialectSpecific
  else .simpleTransform

end Outcome

end Cutover
