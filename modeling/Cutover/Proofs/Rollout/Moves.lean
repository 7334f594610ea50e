import Cutover.Proofs.Rollout.Course
import Mathlib.Logic.Relation
import Mathlib.Tactic.Common

/-!
# The moves of a run

A run is made of moves of few kinds: a look, a call, going on from a gate, with or without a
warning, ending at a gate, and completing. Each may be made from one stage only, and the stage
changes to the next one or to the end of an aborted run. The gates of `passGates` make no other
moves.
-/
namespace Cutover

/-- The gate at which a failure ends a run. -/
def Failure.gate : Failure → Stage
  | dependencyNotSatisfied _ _ => .dependencyChecked
  | stateUnavailable _ _ => .dependencyChecked
  | modelMigration _ _ => .modelsMigrated
  | consistencyCheck _ _ => .consistencyVerified
  | cancelled gate => gate

namespace Call

/-- The gate on the way to which a call is made. -/
def gate : Call → Stage
  | state _ => .dependencyChecked
  | run _ => .modelsMigrated
  | test _ => .testsRun
  | verify _ => .consistencyVerified

/-- What is told before a call. -/
def event : Call → Event
  | state d => .checking d
  | run m => .migrating m
  | test _ => .testing
  | verify _ => .verifying

/-- Whether a call is the order to run a model. -/
def isRun : Call → Bool
  | run _ => true
  | _ => false

end Call

/-- The failure that an entry of a run of `spec` ends the run with, unless it goes on. -/
def Entry.failure? (spec : DomainSpec) : Entry → Option Failure
  | look gate true => some (.cancelled gate)
  | call (.state d) (.migrated false) => some (.dependencyNotSatisfied spec.name d)
  | call (.state d) (.unavailable e) => some (.stateUnavailable d e.message)
  | call (.run m) (.step (.failed reason)) => some (.modelMigration m.label reason)
  | call (.verify _) (.step (.failed reason)) => some (.consistencyCheck spec.name reason)
  | _ => none

/-- How many models were run. -/
def Transcript.modelRuns (t : Transcript) : Nat := t.calls.countP Call.isRun

namespace Attempt

variable {σ : Type}

@[simp] theorem modelRuns_tell (a : Attempt σ) (e : Event) :
    (a.tell e).log.modelRuns = a.log.modelRuns := by
  simp [Transcript.modelRuns]

@[simp] theorem modelRuns_heard (a : Attempt σ) (c : Call) (r : Reply) (w : σ) :
    (a.heard c r w).log.modelRuns = a.log.modelRuns + if c.isRun then 1 else 0 := by
  simp [Transcript.modelRuns]

@[simp] theorem modelRuns_looked (a : Attempt σ) (g : Stage) (b : Bool) (w : σ) :
    (a.looked g b w).log.modelRuns = a.log.modelRuns := by
  simp [Transcript.modelRuns]

@[simp] theorem modelRuns_advance (env : Environment σ) (a : Attempt σ) (g : Stage) (passed : Bool)
    (detail : Option String) : (a.advance env g passed detail).log.modelRuns = a.log.modelRuns := by
  simp [advance]

@[simp] theorem modelRuns_abort (env : Environment σ) (a : Attempt σ) (g : Stage) (f : Failure) :
    (a.abort env g f).log.modelRuns = a.log.modelRuns := by
  simp [abort]

/-- What is told of a gate that is passed: of the models how many were run, of others nothing. -/
def passDetail (a : Attempt σ) (gate : Stage) : Option String :=
  if gate = .modelsMigrated then some s!"{a.log.modelRuns} models" else none

/-- A move of a run of `spec`, with the conditions under which it may be made. -/
inductive Move (env : Environment σ) (spec : DomainSpec) : Attempt σ → Attempt σ → Prop
  /-- A look on the way to the next gate. -/
  | look {a : Attempt σ} {gate : Stage} (cancelled : Bool) (w : σ)
      (hn : a.run.stage.next? = some gate) : Move env spec a (a.looked gate cancelled w)
  /-- A call on the way to the next gate. -/
  | ask {a : Attempt σ} (c : Call) (r : Reply) (w : σ) (hn : a.run.stage.next? = some c.gate) :
      Move env spec a ((a.tell c.event).heard c r w)
  /-- The next gate is passed. -/
  | pass {a : Attempt σ} {gate : Stage} (hg : gate ∈ Stage.gates)
      (hn : a.run.stage.next? = some gate) :
      Move env spec a (a.advance env gate true (a.passDetail gate))
  /-- The next gate is failed, but is none that can end the run. -/
  | warn {a : Attempt σ} {gate : Stage} (reason : String) (hg : gate ∈ Stage.gates)
      (hc : gate.canAbort = false) (hn : a.run.stage.next? = some gate) :
      Move env spec a (a.advance env gate false (some reason))
  /-- The last look or call ends the run at the next gate, one that can end it. -/
  | stop {a : Attempt σ} {e : Entry} {f : Failure} (he : a.log.steps.getLast? = some e)
      (hf : e.failure? spec = some f) (hc : f.gate.canAbort)
      (hn : a.run.stage.next? = some f.gate) : Move env spec a (a.abort env f.gate f)
  /-- All gates are passed. -/
  | finish {a : Attempt σ} (hs : a.run.stage = .consistencyVerified) :
      Move env spec a { a with run := a.run.complete }

/-- Moves one after the other. -/
abbrev Moves (env : Environment σ) (spec : DomainSpec) : Attempt σ → Attempt σ → Prop :=
  Relation.ReflTransGen (Move env spec)

section

variable {env : Environment σ} {spec : DomainSpec} {a b : Attempt σ} {gate mid : Stage}

/-- Once a run has ended no move is left. -/
theorem Move.isTerminal_eq_false (h : Move env spec a b) : a.run.stage.isTerminal = false := by
  cases h with
  | look _ _ hn | ask _ _ _ hn | pass _ hn | warn _ _ _ hn | stop _ _ _ hn =>
    cases hs : a.run.stage <;> simp_all [Stage.next?, Stage.isTerminal]
  | finish hs => simp [hs, Stage.isTerminal]

/-- A move that changes the stage leads to the next one, or ends the run. -/
theorem Move.stage (h : Move env spec a b) :
    b.run.stage = a.run.stage ∨ a.run.stage.next? = some b.run.stage ∨
      b.run.stage = .aborted := by
  cases h with
  | look _ _ _ | ask _ _ _ _ => exact .inl rfl
  | pass _ hn | warn _ _ _ hn => exact .inr (.inl hn)
  | stop _ _ _ _ => exact .inr (.inr rfl)
  | finish hs => exact .inr (.inl (by simp [hs, Run.complete, Stage.next?]))

/-- One part of a run after another. -/
theorem Moves.andThen {f : Attempt σ → Attempt σ} (h : Moves env spec a b)
    (hs : b.run.stage = mid ∨ b.run.stage = .aborted)
    (hf : b.run.stage = mid → Moves env spec b (f b)) : Moves env spec a (b.andThen f) := by
  unfold Attempt.andThen
  split
  · exact h
  · next hne => exact h.trans (hf (hs.resolve_right hne))

theorem unlessCancelled_moves {f : Attempt σ → Attempt σ} (hn : a.run.stage.next? = some gate)
    (hc : gate.canAbort)
    (hf : ∀ w, Moves env spec (a.looked gate false w) (f (a.looked gate false w))) :
    Moves env spec a (a.unlessCancelled env gate f) := by
  unfold unlessCancelled
  split
  · next w _ =>
    refine .head (.look true w hn) (.single ?_)
    exact .stop (e := .look gate true) (f := .cancelled gate) (by simp) rfl hc hn
  · next w _ => exact .head (.look false w hn) (hf w)

/-- A call whose reply ends the run at the gate it is made for. -/
theorem ask_stop {c : Call} {r : Reply} {f : Failure} (w : σ)
    (hn : a.run.stage.next? = some c.gate) (hf : (Entry.call c r).failure? spec = some f)
    (hg : f.gate = c.gate) (hc : c.gate.canAbort) :
    Moves env spec a (((a.tell c.event).heard c r w).abort env c.gate f) := by
  refine .head (.ask c r w hn) ?_
  rw [← hg] at hn hc ⊢
  exact .single (.stop (e := .call c r) (by simp) hf hc hn)

theorem checkPrerequisites_moves (ds : List Domain) (hs : a.run.stage = .notStarted) :
    Moves env spec a (checkPrerequisites env spec ds a) := by
  induction ds generalizing a with
  | nil => exact .single (.pass (by decide) (by rw [hs]; rfl))
  | cons d ds ih =>
    have hn : a.run.stage.next? = some .dependencyChecked := by rw [hs]; rfl
    unfold checkPrerequisites
    split
    case h_1 w _ => exact .head (.ask (.state d) _ w hn) (ih hs)
    case h_2 w _ => exact ask_stop (c := .state d) w hn rfl rfl rfl
    case h_3 e w _ => exact ask_stop (c := .state d) w hn rfl rfl rfl

theorem runModels_moves (ms : List Model) (hs : a.run.stage = .dependencyChecked)
    (hm : a.log.modelRuns + ms.length = spec.modelCount) :
    Moves env spec a (runModels env spec ms a) := by
  induction ms generalizing a with
  | nil =>
    have hd : a.passDetail .modelsMigrated = some s!"{spec.modelCount} models" := by
      simp [passDetail, ← hm]
    rw [runModels, ← hd]
    exact .single (.pass (by decide) (by rw [hs]; rfl))
  | cons m ms ih =>
    have hn : a.run.stage.next? = some .modelsMigrated := by rw [hs]; rfl
    unfold runModels
    refine unlessCancelled_moves hn rfl fun w => ?_
    split
    case h_1 w' _ =>
      refine .head (.ask (.run m) _ w' hn) (ih hs ?_)
      simp only [modelRuns_heard, modelRuns_tell, modelRuns_looked, Call.isRun, if_true]
      rw [← hm, List.length_cons]
      omega
    case h_2 reason w' _ => exact ask_stop (c := .run m) w' hn rfl rfl rfl

theorem runTests_moves (hs : a.run.stage = .modelsMigrated) :
    Moves env spec a (runTests env spec a) := by
  have hn : a.run.stage.next? = some .testsRun := by rw [hs]; rfl
  unfold runTests
  split
  case h_1 w _ => exact .head (.ask (.test spec.name) _ w hn) (.single (.pass (by decide) hn))
  case h_2 reason w _ =>
    exact .head (.ask (.test spec.name) _ w hn) (.single (.warn reason (by decide) rfl hn))

theorem verifyConsistency_moves (hs : a.run.stage = .testsRun) :
    Moves env spec a (verifyConsistency env spec a) := by
  have hn : a.run.stage.next? = some .consistencyVerified := by rw [hs]; rfl
  refine unlessCancelled_moves hn rfl fun w => ?_
  split
  case h_1 w' _ =>
    refine .head (.ask (.verify spec.name) (.step .passed) w' hn) (.head (.pass (by decide) hn) ?_)
    exact .single (.finish rfl)
  case h_2 reason w' _ => exact ask_stop (c := .verify spec.name) w' hn rfl rfl rfl

theorem modelRuns_checkPrerequisites (ds : List Domain) :
    (checkPrerequisites env spec ds a).log.modelRuns = a.log.modelRuns := by
  induction ds generalizing a with
  | nil => simp [checkPrerequisites]
  | cons d ds ih =>
    unfold checkPrerequisites
    split <;> simp [ih, Call.isRun]

/-- A part of a run comes to its stage or ends the run. -/
theorem Follows.stage_or {ss : List Step} (h : Follows env spec ss mid a b) :
    b.run.stage = mid ∨ b.run.stage = .aborted := by
  cases hw : env.favours spec ss a.world with
  | true => exact .inl (h.well hw).1
  | false => exact .inr (h.ill hw).1

/-- A run takes its way through the gates by moves. -/
theorem passGates_moves (env : Environment σ) (spec : DomainSpec) (w : σ) :
    Moves env spec (fresh spec w) (passGates env spec (fresh spec w)) := by
  refine unlessCancelled_moves rfl rfl fun w' => ?_
  generalize ha : (fresh spec w).looked .dependencyChecked false w' = a
  have hstart : a.run.stage = .notStarted := by rw [← ha]; rfl
  have hruns : a.log.modelRuns = 0 := by rw [← ha]; rfl
  have hcheck := checkPrerequisites_follows env spec spec.dependsOn a
  have hmodels := hcheck.andThen (by decide) (runModels_follows env spec spec.models _)
  have htests := hmodels.andThen (by decide) (runTests_follows env spec _)
  refine Moves.andThen (Moves.andThen (Moves.andThen ?_ hcheck.stage_or fun hs => ?_)
    hmodels.stage_or fun hs => ?_) htests.stage_or fun hs => ?_
  · exact checkPrerequisites_moves _ hstart
  · exact runModels_moves _ hs (by rw [modelRuns_checkPrerequisites, hruns, Nat.zero_add]; rfl)
  · exact runTests_moves hs
  · exact verifyConsistency_moves hs

end

end Attempt

end Cutover
