import Cutover.Proofs.Rollout.Course
import Cutover.Rollout.Session

/-!
# When a run succeeds

A run succeeds exactly if it can go on after every step of its plan. How the tests come out is
not among the conditions, and shows nowhere but in the outcome of their own gate.
-/
namespace Cutover

/-- The outcome of a gate without what it tells of the tests. -/
def GateOutcome.withoutTests (o : GateOutcome) : GateOutcome :=
  if o.gate = .testsRun then { o with passed := true, detail := none } else o

/-- An event without what it tells of the tests. -/
def Event.withoutTests : Event → Event
  | gate o => .gate o.withoutTests
  | e => e

/-- A run without what it tells of the tests. -/
def Run.withoutTests (r : Run) : Run := { r with gates := r.gates.map (·.withoutTests) }

variable {σ : Type}

/-- The surroundings with other results of the tests, and nothing else changed. -/
def Environment.withTests (env : Environment σ) (result : Domain → σ → StepOutcome) :
    Environment σ :=
  { env with runTests := fun d w => (result d w, (env.runTests d w).2) }

section

variable (env : Environment σ) (result : Domain → σ → StepOutcome)

@[simp] theorem Environment.now_withTests : (env.withTests result).now = env.now := rfl

@[simp] theorem Environment.cancelled_withTests :
    (env.withTests result).cancelled = env.cancelled := rfl

@[simp] theorem Environment.isMigrated_withTests :
    (env.withTests result).isMigrated = env.isMigrated := rfl

@[simp] theorem Environment.runModel_withTests :
    (env.withTests result).runModel = env.runModel := rfl

@[simp] theorem Environment.verify_withTests : (env.withTests result).verify = env.verify := rfl

end

namespace Attempt

/-- Two runs under way that differ in what they tell of the tests and in nothing else. -/
structure Alike (a b : Attempt σ) : Prop where
  world : a.world = b.world
  run : a.run.withoutTests = b.run.withoutTests
  calls : a.log.calls = b.log.calls
  events : a.log.events.map (·.withoutTests) = b.log.events.map (·.withoutTests)

namespace Alike

variable {env : Environment σ} {result : Domain → σ → StepOutcome} {a b : Attempt σ}

theorem refl (a : Attempt σ) : Alike a a := ⟨rfl, rfl, rfl, rfl⟩

theorem stage (h : Alike a b) : a.run.stage = b.run.stage := by
  simpa [Run.withoutTests] using congrArg Run.stage h.run

theorem tell (h : Alike a b) (e : Event) : Alike (a.tell e) (b.tell e) where
  world := h.world
  run := h.run
  calls := by simp [h.calls]
  events := by simp [h.events]

theorem heard (h : Alike a b) (c : Call) (r r' : Reply) (w : σ) :
    Alike (a.heard c r w) (b.heard c r' w) where
  world := rfl
  run := h.run
  calls := by simp [h.calls]
  events := by simp [h.events]

theorem looked (h : Alike a b) (g : Stage) (c : Bool) (w : σ) :
    Alike (a.looked g c w) (b.looked g c w) where
  world := rfl
  run := h.run
  calls := by simp [h.calls]
  events := by simp [h.events]

/-- Going on from a gate keeps two runs alike, from that of the tests whatever it tells. -/
theorem advance (h : Alike a b) {g : Stage} {passed passed' : Bool} {detail detail' : Option String}
    (hg : g = .testsRun ∨ passed = passed' ∧ detail = detail') :
    Alike (a.advance env g passed detail)
      (b.advance (env.withTests result) g passed' detail') := by
  have ho : GateOutcome.withoutTests ⟨g, passed, detail, env.now a.world⟩ =
      GateOutcome.withoutTests ⟨g, passed', detail', env.now b.world⟩ := by
    rcases hg with rfl | ⟨rfl, rfl⟩ <;> simp [GateOutcome.withoutTests, h.world]
  have hr : a.run.withoutTests = b.run.withoutTests := h.run
  simp only [Run.withoutTests, Run.mk.injEq] at hr
  constructor
  · exact h.world
  · simp [Attempt.advance, Attempt.tell, Run.withoutTests, Run.advance, hr, ho]
  · simp [Attempt.advance, h.calls]
  · have he : Event.withoutTests (.gate ⟨g, passed, detail, env.now a.world⟩) =
        Event.withoutTests (.gate ⟨g, passed', detail', env.now b.world⟩) := congrArg Event.gate ho
    simp [Attempt.advance, h.events, he]

theorem abort (h : Alike a b) (g : Stage) (f : Failure) :
    Alike (a.abort env g f) (b.abort (env.withTests result) g f) := by
  have hr : a.run.withoutTests = b.run.withoutTests := h.run
  simp only [Run.withoutTests, Run.mk.injEq] at hr
  constructor
  · exact h.world
  · simp [Attempt.abort, Attempt.tell, Run.withoutTests, Run.abort, hr, h.world]
  · simp [Attempt.abort, h.calls]
  · simp [Attempt.abort, h.events, h.world]

theorem complete (h : Alike a b) :
    Alike { a with run := a.run.complete } { b with run := b.run.complete } := by
  have hr : a.run.withoutTests = b.run.withoutTests := h.run
  simp only [Run.withoutTests, Run.mk.injEq] at hr
  exact ⟨h.world, by simp [Run.withoutTests, Run.complete, hr], h.calls, h.events⟩

theorem andThen {f f' : Attempt σ → Attempt σ} (h : Alike a b)
    (hf : ∀ {a b}, Alike a b → Alike (f a) (f' b)) : Alike (a.andThen f) (b.andThen f') := by
  unfold Attempt.andThen
  rw [h.stage]
  split
  · exact h
  · exact hf h

theorem unlessCancelled {f f' : Attempt σ → Attempt σ} (h : Alike a b) (g : Stage)
    (hf : ∀ {a b}, Alike a b → Alike (f a) (f' b)) :
    Alike (a.unlessCancelled env g f) (b.unlessCancelled (env.withTests result) g f') := by
  unfold Attempt.unlessCancelled
  rw [h.world, Environment.cancelled_withTests]
  obtain ⟨cancelled, w⟩ := env.cancelled g b.world
  cases cancelled with
  | true => exact (h.looked _ _ _).abort _ _
  | false => exact hf (h.looked _ _ _)

theorem checkPrerequisites (spec : DomainSpec) (ds : List Domain) (h : Alike a b) :
    Alike (checkPrerequisites env spec ds a)
      (checkPrerequisites (env.withTests result) spec ds b) := by
  induction ds generalizing a b with
  | nil => exact h.advance (.inr ⟨rfl, rfl⟩)
  | cons d ds ih =>
    unfold Attempt.checkPrerequisites
    rw [h.world, Environment.isMigrated_withTests]
    obtain ⟨answer, w⟩ := env.isMigrated d b.world
    cases answer with
    | error e => exact ((h.tell _).heard _ _ _ _).abort _ _
    | ok yes =>
      cases yes with
      | true => exact ih ((h.tell _).heard _ _ _ _)
      | false => exact ((h.tell _).heard _ _ _ _).abort _ _

theorem runModels (spec : DomainSpec) (ms : List Model) (h : Alike a b) :
    Alike (runModels env spec ms a) (runModels (env.withTests result) spec ms b) := by
  induction ms generalizing a b with
  | nil => exact h.advance (.inr ⟨rfl, rfl⟩)
  | cons m ms ih =>
    apply h.unlessCancelled
    intro a b h
    rw [h.world, Environment.runModel_withTests]
    obtain ⟨outcome, w⟩ := env.runModel m b.world
    cases outcome with
    | passed => exact ih ((h.tell _).heard _ _ _ _)
    | failed reason => exact ((h.tell _).heard _ _ _ _).abort _ _

theorem runTests (spec : DomainSpec) (h : Alike a b) :
    Alike (runTests env spec a) (runTests (env.withTests result) spec b) := by
  have hr : (env.withTests result).runTests spec.name b.world =
      (result spec.name b.world, (env.runTests spec.name b.world).2) := rfl
  unfold Attempt.runTests
  rw [h.world, hr]
  obtain ⟨outcome, w⟩ := env.runTests spec.name b.world
  cases outcome <;> cases result spec.name b.world <;>
    exact ((h.tell _).heard _ _ _ _).advance (.inl rfl)

theorem verifyConsistency (spec : DomainSpec) (h : Alike a b) :
    Alike (verifyConsistency env spec a) (verifyConsistency (env.withTests result) spec b) := by
  apply h.unlessCancelled
  intro a b h
  rw [h.world, Environment.verify_withTests]
  obtain ⟨outcome, w⟩ := env.verify spec b.world
  cases outcome with
  | passed => exact (((h.tell _).heard _ _ _ _).advance (.inr ⟨rfl, rfl⟩)).complete
  | failed reason => exact ((h.tell _).heard _ _ _ _).abort _ _

theorem passGates (spec : DomainSpec) (h : Alike a b) :
    Alike (passGates env spec a) (passGates (env.withTests result) spec b) := by
  apply h.unlessCancelled
  intro a b h
  exact (((h.checkPrerequisites spec _).andThen (runModels spec _)).andThen
    (runTests spec)).andThen (verifyConsistency spec)

theorem failure (h : Alike a b) : a.run.failure = b.run.failure := by
  simpa [Run.withoutTests] using congrArg Run.failure h.run

theorem gates (h : Alike a b) :
    a.run.gates.map (·.withoutTests) = b.run.gates.map (·.withoutTests) := by
  simpa [Run.withoutTests] using congrArg Run.gates h.run

end Alike

end Attempt

/-- A run succeeds exactly if it is done, if it has no failure, if its surroundings let it go on
after each look and call for the prerequisites, the models of one tool and of the other, the tests
and the verification, and if it did take all these steps and could go on after each. With other
results of the tests it makes the same calls and comes to the same stage and failure, and what it
tells differs in the outcome of the tests alone. -/
theorem migrate_success_iff (env : Environment σ) (g : DomainGraph) (text : String) (w : σ)
    (spec : DomainSpec) (h : g.lookup text = .ok spec) :
    let models := spec.sqlmeshModels.map (Model.mk .sqlmesh) ++ spec.dbtModels.map (Model.mk .dbt)
    let steps : List Step := .look .dependencyChecked ::
      (spec.dependsOn.map (.call <| .state ·) ++
        models.flatMap (fun m => [.look .modelsMigrated, .call (.run m)]) ++
        [.call (.test spec.name), .look .consistencyVerified, .call (.verify spec.name)])
    ∃ a, migrate env g text w = .ok a ∧
      (a.run.isSuccess ↔ a.run.stage = .done) ∧
      (a.run.stage = .done ↔ a.run.failure = none) ∧
      (a.run.failure = none ↔ env.favours spec steps w) ∧
      (a.run.failure = none ↔ a.log.filterMap Entry.step? = steps ∧ ∀ e ∈ a.log, e.goesOn) ∧
      ∀ result, ∃ b, migrate (env.withTests result) g text w = .ok b ∧
        b.log.calls = a.log.calls ∧ b.run.stage = a.run.stage ∧ b.run.failure = a.run.failure ∧
        b.run.gates.map (·.withoutTests) = a.run.gates.map (·.withoutTests) ∧
        b.log.events.map (·.withoutTests) = a.log.events.map (·.withoutTests) := by
  intro models steps
  have hsteps : steps = spec.plan := by
    simp [steps, DomainSpec.plan, DomainSpec.questions, DomainSpec.orders, models,
      DomainSpec.models]
  rw [hsteps]
  obtain ⟨hd, hn⟩ := Attempt.passGates_done_iff env spec w
  refine ⟨_, migrate_of_lookup env h w, by simp [Run.isSuccess], hd.trans hn.symm, hn, ?_, ?_⟩
  · rw [hn, Environment.favours_iff, ← Attempt.steps_passGates, Transcript.filterMap_steps,
      Transcript.forall_steps]
  · intro result
    have ha : Attempt.Alike (Attempt.passGates env spec (.fresh spec w))
        (Attempt.passGates (env.withTests result) spec (.fresh spec w)) :=
      (Attempt.Alike.refl _).passGates spec
    exact ⟨_, migrate_of_lookup _ h w, ha.calls.symm, ha.stage.symm, ha.failure.symm,
      ha.gates.symm, ha.events.symm⟩

/-- A domain with a prerequisite, in surroundings that are a list of the migrated domains: once with
the prerequisite in it, whatever the tests say, and once without it. -/
theorem migrate_success_iff_production :
    let env : Environment (List Domain) :=
      { now := fun _ => ⟨0, 0⟩
        cancelled := fun _ known => (false, known)
        isMigrated := fun d known => (.ok (known.contains d), known)
        runModel := fun _ known => (.passed, known)
        runTests := fun _ known => (.passed, known)
        verify := fun _ known => (.passed, known) }
    let failing := env.withTests fun _ _ => .failed "2 of 14 tests failed"
    DomainGraph.builtin.lookup "production" = .ok DomainGraph.builtin.specs[1] ∧
      ∃ a b c, migrate env .builtin "production" [.sales] = .ok a ∧
        migrate failing .builtin "production" [.sales] = .ok b ∧
        migrate env .builtin "production" [.purchase] = .ok c ∧
        a.run.isSuccess ∧ b.run.stage = .done ∧ b.log.calls = a.log.calls ∧
        ¬c.run.isSuccess ∧ c.run.failure ≠ none := by
  intro env failing
  have h : DomainGraph.builtin.lookup "production" = .ok DomainGraph.builtin.specs[1] := rfl
  obtain ⟨a, ha, hdone, hnone, hfavours, -, htests⟩ :=
    migrate_success_iff env .builtin "production" [.sales] _ h
  obtain ⟨b, hb, hcalls, hstage, -⟩ := htests fun _ _ => .failed "2 of 14 tests failed"
  obtain ⟨c, hc, hdone', hnone', hfavours', -⟩ :=
    migrate_success_iff env .builtin "production" [.purchase] _ h
  have hgood : a.run.stage = .done := hnone.mpr (hfavours.mpr (by decide))
  have hbad : c.run.failure ≠ none := fun hn => absurd (hfavours'.mp hn) (by decide)
  exact ⟨h, a, b, c, ha, hb, hc, hdone.mpr hgood, hstage.trans hgood, hcalls,
    fun hs => hbad (hnone'.mp (hdone'.mp hs)), hbad⟩

end Cutover
