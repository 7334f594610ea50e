import Cutover.Graph.Basic
import Cutover.Rollout.Stage

/-!
# Migrating one domain

A run asks its surroundings: whether the prerequisites are migrated, to run each model, to run
the tests, to verify the data. It goes through the gates in order and stops at the first that
fails, the tests excepted. Whether it was cancelled is looked up before the first gate, before
each model and before the verification. Everything that happens is written down in order, the
looks included.
-/
namespace Cutover

/-- How a step outside came out. -/
inductive StepOutcome where
  | passed
  | failed (reason : String)
  deriving DecidableEq, Repr

/-- A question or order to the surroundings. -/
inductive Call where
  | state (d : Domain)
  | run (m : Model)
  | test (d : Domain)
  | verify (d : Domain)
  deriving DecidableEq, Repr

/-- What came back. -/
inductive Reply where
  | migrated (yes : Bool)
  | unavailable (e : Error)
  | step (o : StepOutcome)
  deriving DecidableEq, Repr

/-- Whether the run may go on after a reply as far as this call goes. -/
def Reply.isPositive : Reply → Bool
  | migrated yes => yes
  | unavailable _ => false
  | step o => o = .passed

/-- What is told to those who follow the run. -/
inductive Event where
  | checking (d : Domain)
  | migrating (m : Model)
  | testing
  | verifying
  | gate (o : GateOutcome)
  deriving DecidableEq, Repr

/-- One entry of a run's transcript. -/
inductive Entry where
  | event (e : Event)
  /-- A look whether the run was cancelled, on the way to a gate. -/
  | look (gate : Stage) (cancelled : Bool)
  | call (c : Call) (r : Reply)
  deriving DecidableEq, Repr

abbrev Transcript := List Entry

namespace Transcript

def events (t : Transcript) : List Event :=
  t.filterMap fun
    | .event e => some e
    | _ => none

def calls (t : Transcript) : List Call :=
  t.filterMap fun
    | .call c _ => some c
    | _ => none

@[simp] theorem events_append (t u : Transcript) :
    events (t ++ u) = events t ++ events u := by simp [events]

@[simp] theorem calls_append (t u : Transcript) :
    calls (t ++ u) = calls t ++ calls u := by simp [calls]

end Transcript

/-- What a run finds around it. Each call and each look may find the surroundings changed, and
with them all later replies, the cancellation and the time. -/
structure Environment (σ : Type) where
  now : σ → Instant
  /-- Whether the run turns out to be cancelled on the way to a gate. -/
  cancelled : Stage → σ → Bool × σ
  isMigrated : Domain → σ → Except Error Bool × σ
  runModel : Model → σ → StepOutcome × σ
  runTests : Domain → σ → StepOutcome × σ
  verify : DomainSpec → σ → StepOutcome × σ

/-- A run under way. -/
structure Attempt (σ : Type) where
  world : σ
  run : Run
  log : Transcript := []

namespace Attempt

variable {σ : Type}

def tell (a : Attempt σ) (e : Event) : Attempt σ := { a with log := a.log ++ [.event e] }

/-- Writes down a call, its reply and the surroundings after it. -/
def heard (a : Attempt σ) (c : Call) (r : Reply) (w : σ) : Attempt σ :=
  { a with world := w, log := a.log ++ [.call c r] }

/-- Writes down a look, and the surroundings after it. -/
def looked (a : Attempt σ) (gate : Stage) (cancelled : Bool) (w : σ) : Attempt σ :=
  { a with world := w, log := a.log ++ [.look gate cancelled] }

@[simp] theorem run_tell (a : Attempt σ) (e : Event) : (a.tell e).run = a.run := rfl

@[simp] theorem world_tell (a : Attempt σ) (e : Event) : (a.tell e).world = a.world := rfl

@[simp] theorem events_tell (a : Attempt σ) (e : Event) :
    (a.tell e).log.events = a.log.events ++ [e] := by
  simp [tell]; rfl

@[simp] theorem calls_tell (a : Attempt σ) (e : Event) :
    (a.tell e).log.calls = a.log.calls := by
  simp [tell, Transcript.calls]

@[simp] theorem run_heard (a : Attempt σ) (c : Call) (r : Reply) (w : σ) :
    (a.heard c r w).run = a.run := rfl

@[simp] theorem world_heard (a : Attempt σ) (c : Call) (r : Reply) (w : σ) :
    (a.heard c r w).world = w := rfl

@[simp] theorem events_heard (a : Attempt σ) (c : Call) (r : Reply) (w : σ) :
    (a.heard c r w).log.events = a.log.events := by
  simp [heard, Transcript.events]

@[simp] theorem calls_heard (a : Attempt σ) (c : Call) (r : Reply) (w : σ) :
    (a.heard c r w).log.calls = a.log.calls ++ [c] := by
  simp [heard, Transcript.calls]

@[simp] theorem run_looked (a : Attempt σ) (g : Stage) (b : Bool) (w : σ) :
    (a.looked g b w).run = a.run := rfl

@[simp] theorem world_looked (a : Attempt σ) (g : Stage) (b : Bool) (w : σ) :
    (a.looked g b w).world = w := rfl

@[simp] theorem events_looked (a : Attempt σ) (g : Stage) (b : Bool) (w : σ) :
    (a.looked g b w).log.events = a.log.events := by
  simp [looked, Transcript.events]

@[simp] theorem calls_looked (a : Attempt σ) (g : Stage) (b : Bool) (w : σ) :
    (a.looked g b w).log.calls = a.log.calls := by
  simp [looked, Transcript.calls]

def advance (env : Environment σ) (a : Attempt σ) (gate : Stage) (passed : Bool)
    (detail : Option String) : Attempt σ :=
  let o : GateOutcome := ⟨gate, passed, detail, env.now a.world⟩
  { a with run := a.run.advance o }.tell (.gate o)

def abort (env : Environment σ) (a : Attempt σ) (gate : Stage) (f : Failure) : Attempt σ :=
  let o : GateOutcome := ⟨gate, false, some f.message, env.now a.world⟩
  { a with run := a.run.abort o f }.tell (.gate o)

/-- Looks whether the run was cancelled, on the way to a gate: ends there if it was, and goes on
with `f` if not. -/
def unlessCancelled (env : Environment σ) (a : Attempt σ) (gate : Stage)
    (f : Attempt σ → Attempt σ) : Attempt σ :=
  match env.cancelled gate a.world with
  | (true, w) => (a.looked gate true w).abort env gate (.cancelled gate)
  | (false, w) => f (a.looked gate false w)

/-- Asks for the prerequisites one after the other. -/
def checkPrerequisites (env : Environment σ) (spec : DomainSpec) :
    List Domain → Attempt σ → Attempt σ
  | [], a => a.advance env .dependencyChecked true none
  | d :: ds, a =>
    match env.isMigrated d a.world with
    | (.ok true, w) =>
      checkPrerequisites env spec ds ((a.tell (.checking d)).heard (.state d) (.migrated true) w)
    | (.ok false, w) =>
      ((a.tell (.checking d)).heard (.state d) (.migrated false) w).abort env .dependencyChecked
        (.dependencyNotSatisfied spec.name d)
    | (.error e, w) =>
      ((a.tell (.checking d)).heard (.state d) (.unavailable e) w).abort env .dependencyChecked
        (.stateUnavailable d e.message)

def runModels (env : Environment σ) (spec : DomainSpec) : List Model → Attempt σ → Attempt σ
  | [], a => a.advance env .modelsMigrated true (some s!"{spec.modelCount} models")
  | m :: ms, a =>
    a.unlessCancelled env .modelsMigrated fun a =>
      match env.runModel m a.world with
      | (.passed, w) =>
        runModels env spec ms ((a.tell (.migrating m)).heard (.run m) (.step .passed) w)
      | (.failed reason, w) =>
        ((a.tell (.migrating m)).heard (.run m) (.step (.failed reason)) w).abort env
          .modelsMigrated (.modelMigration m.label reason)

/-- Runs the tests. Their failure is written down and otherwise without effect. -/
def runTests (env : Environment σ) (spec : DomainSpec) (a : Attempt σ) : Attempt σ :=
  match env.runTests spec.name a.world with
  | (.passed, w) =>
    ((a.tell .testing).heard (.test spec.name) (.step .passed) w).advance env .testsRun true none
  | (.failed reason, w) =>
    ((a.tell .testing).heard (.test spec.name) (.step (.failed reason)) w).advance env .testsRun
      false (some reason)

/-- Verifies the data of the domain, and completes the run if they agree. -/
def verifyConsistency (env : Environment σ) (spec : DomainSpec) (a : Attempt σ) : Attempt σ :=
  a.unlessCancelled env .consistencyVerified fun a =>
    match env.verify spec a.world with
    | (.passed, w) =>
      let a := ((a.tell .verifying).heard (.verify spec.name) (.step .passed) w).advance env
        .consistencyVerified true none
      { a with run := a.run.complete }
    | (.failed reason, w) =>
      ((a.tell .verifying).heard (.verify spec.name) (.step (.failed reason)) w).abort env
        .consistencyVerified (.consistencyCheck spec.name reason)

/-- Goes on with `f` unless the run has ended. -/
def andThen (a : Attempt σ) (f : Attempt σ → Attempt σ) : Attempt σ :=
  if a.run.stage = .aborted then a else f a

/-- Takes a run that has not started through the gates. -/
def passGates (env : Environment σ) (spec : DomainSpec) (a : Attempt σ) : Attempt σ :=
  a.unlessCancelled env .dependencyChecked fun a =>
    (((checkPrerequisites env spec spec.dependsOn a).andThen
      (runModels env spec spec.models)).andThen (runTests env spec)).andThen
        (verifyConsistency env spec)

end Attempt

/-- Migrates the domain that a user's text names. Only a text that names no declared domain is
an error; all else that goes wrong is told by the run. -/
def migrate {σ : Type} (env : Environment σ) (g : DomainGraph) (text : String) (w : σ) :
    Except Error (Attempt σ) :=
  (g.lookup text).map fun spec => Attempt.passGates env spec ⟨w, { domain := spec.name }, []⟩

end Cutover
