import Cutover.Rollout.Clock
import Cutover.Warehouse.Domain

/-!
# Stages of a run

A run of one domain passes four gates in a fixed order. A gate is named for the stage it leads
to. Failing the tests never ends a run; failing any other gate does.
-/
namespace Cutover

/-- How far a migration has come. -/
inductive Stage where
  | notStarted
  | dependencyChecked
  | modelsMigrated
  | testsRun
  | consistencyVerified
  | done
  | aborted
  deriving DecidableEq, Repr

namespace Stage

def all : List Stage :=
  [.notStarted, .dependencyChecked, .modelsMigrated, .testsRun, .consistencyVerified, .done,
    .aborted]

/-- The stages that have a gate, in the order in which a run passes them. -/
def gates : List Stage := [.dependencyChecked, .modelsMigrated, .testsRun, .consistencyVerified]

def name : Stage → String
  | notStarted => "not_started"
  | dependencyChecked => "dependency_checked"
  | modelsMigrated => "models_migrated"
  | testsRun => "tests_run"
  | consistencyVerified => "consistency_verified"
  | done => "done"
  | aborted => "aborted"

def label : Stage → String
  | notStarted => "not started"
  | dependencyChecked => "dependency check"
  | modelsMigrated => "model migration"
  | testsRun => "test run"
  | consistencyVerified => "consistency verification"
  | done => "done"
  | aborted => "aborted"

/-- The stage after this one, where the run can go on. -/
def next? : Stage → Option Stage
  | notStarted => some .dependencyChecked
  | dependencyChecked => some .modelsMigrated
  | modelsMigrated => some .testsRun
  | testsRun => some .consistencyVerified
  | consistencyVerified => some .done
  | done => none
  | aborted => none

/-- Whether failing the gate to this stage ends the run. -/
def canAbort : Stage → Bool
  | dependencyChecked => true
  | modelsMigrated => true
  | consistencyVerified => true
  | _ => false

def isTerminal : Stage → Bool
  | done => true
  | aborted => true
  | _ => false

end Stage

/-- Why a run was aborted. -/
inductive Failure where
  | dependencyNotSatisfied (domain prerequisite : Domain)
  | stateUnavailable (prerequisite : Domain) (reason : String)
  | modelMigration (model reason : String)
  | consistencyCheck (domain : Domain) (reason : String)
  | cancelled (gate : Stage)
  deriving DecidableEq, Repr

def Failure.message : Failure → String
  | dependencyNotSatisfied domain prerequisite =>
    s!"prerequisite domain '{prerequisite.name}' of '{domain.name}' has not been migrated"
  | stateUnavailable prerequisite reason =>
    s!"could not read migration state of '{prerequisite.name}': {reason}"
  | modelMigration model reason => s!"model {model} failed: {reason}"
  | consistencyCheck domain reason =>
    s!"consistency check for '{domain.name}' failed: {reason}"
  | cancelled gate => s!"cancelled before {gate.label}"

/-- The outcome of one gate. -/
structure GateOutcome where
  gate : Stage
  passed : Bool
  detail : Option String
  time : Instant
  deriving DecidableEq, Repr

/-- The run of one domain. -/
structure Run where
  domain : Domain
  stage : Stage := .notStarted
  gates : List GateOutcome := []
  failure : Option Failure := none
  deriving DecidableEq, Repr

namespace Run

/-- Whether the run came to its good end. -/
def isSuccess (r : Run) : Bool := r.stage = .done

/-- Why the run was aborted, in words. -/
def reason? (r : Run) : Option String := r.failure.map Failure.message

def advance (r : Run) (o : GateOutcome) : Run :=
  { r with stage := o.gate, gates := r.gates ++ [o] }

def abort (r : Run) (o : GateOutcome) (f : Failure) : Run :=
  { r with stage := .aborted, gates := r.gates ++ [o], failure := some f }

def complete (r : Run) : Run := { r with stage := .done }

end Run

end Cutover
