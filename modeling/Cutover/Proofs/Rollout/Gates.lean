import Cutover.Proofs.Rollout.Moves
import Cutover.Rollout.Session

/-!
# The gates of a run

At each stage a run has written down the gates behind it, in their order and all of them passed,
the tests excepted. When it is ended it has written down one more gate, failed, with the failure
in words. Each move keeps this, and so does a whole run.
-/
namespace Cutover

/-- The gates that lie behind a run at a stage, if it was not aborted. -/
def Stage.behind : Stage → List Stage
  | notStarted => []
  | dependencyChecked => [.dependencyChecked]
  | modelsMigrated => [.dependencyChecked, .modelsMigrated]
  | testsRun => [.dependencyChecked, .modelsMigrated, .testsRun]
  | consistencyVerified => gates
  | done => gates
  | aborted => []

theorem Stage.behind_of_next {s g : Stage} (hg : g ∈ gates) (hn : s.next? = some g) :
    g.behind = s.behind ++ [g] := by
  cases s <;> simp only [next?, Option.some.injEq, reduceCtorEq] at hn <;> subst hn
  case consistencyVerified => simp [gates] at hg
  all_goals rfl

theorem Stage.behind_prefix (s : Stage) : s.behind <+: gates := by
  cases s <;> decide

theorem Stage.mem_gates_of_canAbort {g : Stage} (h : g.canAbort) : g ∈ gates := by
  cases g <;> simp_all [canAbort, gates]

/-- The tests have the one gate that cannot end a run. -/
theorem Stage.eq_testsRun {g : Stage} (hg : g ∈ gates) (hc : g.canAbort = false) :
    g = .testsRun := by
  cases g <;> simp_all [canAbort, gates]

namespace Attempt

variable {σ : Type} {env : Environment σ} {spec : DomainSpec} {a b : Attempt σ} {gate : Stage}
  {f : Failure}

/-- Whether the gate of the models, where it is passed, tells how many were run. -/
def TellsModels (a : Attempt σ) : Prop :=
  ∀ o ∈ a.run.gates, o.gate = .modelsMigrated → o.passed →
    o.detail = some s!"{a.log.modelRuns} models"

/-- A run that has not been aborted. -/
structure UnderWay (a : Attempt σ) : Prop where
  stage : a.run.stage ≠ .aborted
  failure : a.run.failure = none
  gates : a.run.gates.map (·.gate) = a.run.stage.behind
  passed : ∀ o ∈ a.run.gates, o.gate ≠ .testsRun → o.passed
  models : a.TellsModels

/-- A run that was aborted, for the failure that its last look or call gives rise to. -/
structure Stopped (spec : DomainSpec) (f : Failure) (a : Attempt σ) : Prop where
  stage : a.run.stage = .aborted
  failure : a.run.failure = some f
  cause : ∃ e, a.log.steps.getLast? = some e ∧ e.failure? spec = some f
  gates : a.run.gates.map (·.gate) <+: Stage.gates
  passed : ∀ o ∈ a.run.gates.dropLast, o.gate ≠ .testsRun → o.passed
  last : ∃ o, a.run.gates.getLast? = some o ∧ o.gate = f.gate ∧ o.passed = false ∧
    o.detail = some f.message
  canAbort : f.gate.canAbort
  models : a.TellsModels

namespace UnderWay

theorem fresh (spec : DomainSpec) (w : σ) : UnderWay (.fresh spec w) where
  stage := by simp [Attempt.fresh]
  failure := rfl
  gates := rfl
  passed := by simp [Attempt.fresh]
  models := by simp [TellsModels, Attempt.fresh]

/-- As long as the models' gate is not behind a run, it has told nothing of them. -/
theorem not_modelsMigrated (h : UnderWay a) (hn : a.run.stage.next? = some .modelsMigrated) :
    ∀ o ∈ a.run.gates, o.gate ≠ .modelsMigrated := by
  have hs : a.run.stage = .dependencyChecked := by
    cases hs : a.run.stage <;> simp_all [Stage.next?]
  intro o ho hm
  have hmem := List.mem_map_of_mem (f := (·.gate)) ho
  rw [h.gates, hs, hm] at hmem
  simp [Stage.behind] at hmem

theorem ask (h : UnderWay a) {c : Call} (r : Reply) (w : σ)
    (hn : a.run.stage.next? = some c.gate) : UnderWay ((a.tell c.event).heard c r w) where
  stage := h.stage
  failure := h.failure
  gates := h.gates
  passed := h.passed
  models := by
    intro o ho hm hp
    cases c with
    | run m => exact absurd hm (h.not_modelsMigrated hn o ho)
    | state d | test d | verify d =>
      simpa [Call.isRun] using h.models o ho hm hp

/-- A gate is added, passed or with a warning. -/
theorem advance (h : UnderWay a) (hg : gate ∈ Stage.gates) (hn : a.run.stage.next? = some gate)
    {passed : Bool} {detail : Option String} (hp : gate ≠ .testsRun → passed)
    (hd : gate = .modelsMigrated → detail = some s!"{a.log.modelRuns} models") :
    UnderWay (a.advance env gate passed detail) where
  stage := by
    rintro rfl
    simp [Stage.gates] at hg
  failure := h.failure
  gates := by
    simp only [Attempt.advance, run_tell, Run.advance, List.map_append, List.map_singleton, h.gates]
    exact (Stage.behind_of_next hg hn).symm
  passed := by
    intro o ho
    rcases List.mem_append.mp ho with ho | ho
    · exact h.passed o ho
    · rw [List.mem_singleton.mp ho]
      exact hp
  models := by
    intro o ho hm hp
    rw [modelRuns_advance]
    rcases List.mem_append.mp ho with ho | ho
    · exact h.models o ho hm hp
    · rw [List.mem_singleton.mp ho] at hm ⊢
      exact hd hm

/-- The gate at which a run is ended comes after all that it has passed. -/
theorem abort (h : UnderWay a) {e : Entry} (he : a.log.steps.getLast? = some e)
    (hf : e.failure? spec = some f) (hc : f.gate.canAbort)
    (hn : a.run.stage.next? = some f.gate) : Stopped spec f (a.abort env f.gate f) where
  stage := rfl
  failure := rfl
  cause := ⟨e, by simpa using he, hf⟩
  gates := by
    simp only [Attempt.abort, run_tell, Run.abort, List.map_append, List.map_singleton, h.gates]
    rw [← Stage.behind_of_next (Stage.mem_gates_of_canAbort hc) hn]
    exact Stage.behind_prefix _
  passed := by
    intro o ho
    simp only [Attempt.abort, run_tell, Run.abort, List.dropLast_concat] at ho
    exact h.passed o ho
  last := ⟨_, List.getLast?_concat, rfl, rfl, rfl⟩
  canAbort := hc
  models := by
    intro o ho hm hp
    rw [modelRuns_abort]
    rcases List.mem_append.mp ho with ho | ho
    · exact h.models o ho hm hp
    · simp [List.mem_singleton.mp ho] at hp

/-- A move keeps a run under way or ends it. -/
theorem move (h : UnderWay a) (hm : Move env spec a b) : UnderWay b ∨ ∃ f, Stopped spec f b := by
  cases hm with
  | look cancelled w hn =>
    exact .inl ⟨h.stage, h.failure, h.gates, h.passed,
      fun o ho hm hp => by simpa only [modelRuns_looked] using h.models o ho hm hp⟩
  | ask c r w hn => exact .inl (h.ask r w hn)
  | pass hg hn =>
    refine .inl (h.advance hg hn (fun _ => rfl) ?_)
    rintro rfl
    rfl
  | warn reason hg hc hn =>
    obtain rfl := Stage.eq_testsRun hg hc
    exact .inl (h.advance hg hn (absurd rfl) (by simp))
  | stop he hf hc hn => exact .inr ⟨_, h.abort he hf hc hn⟩
  | finish hs =>
    have hg := h.gates
    rw [hs] at hg
    exact .inl ⟨by simp [Run.complete], h.failure, hg, h.passed, h.models⟩

end UnderWay

/-- Moves lead from a run under way to one under way, or to one that was aborted and stays so. -/
theorem Moves.underWay_or_stopped (h : Moves env spec a b) (ha : UnderWay a) :
    UnderWay b ∨ ∃ f, Stopped spec f b := by
  induction h with
  | refl => exact .inl ha
  | tail _ hm ih =>
    rcases ih with hu | ⟨f, hs⟩
    · exact hu.move hm
    · have ht := hm.isTerminal_eq_false
      simp [hs.stage, Stage.isTerminal] at ht

theorem underWay_or_stopped_passGates (env : Environment σ) (spec : DomainSpec) (w : σ) :
    UnderWay (passGates env spec (.fresh spec w)) ∨
      ∃ f, Stopped spec f (passGates env spec (.fresh spec w)) :=
  (passGates_moves env spec w).underWay_or_stopped (.fresh spec w)

/-- A run that came to its good end has passed all gates, the last one included. -/
theorem UnderWay.of_done (h : UnderWay a) (hs : a.run.stage = .done) :
    a.run.gates.map (·.gate) = Stage.gates ∧
      ∃ o, a.run.gates.getLast? = some o ∧ o.passed := by
  have hg : a.run.gates.map (·.gate) = Stage.gates := by rw [h.gates, hs]; rfl
  refine ⟨hg, ?_⟩
  have hlast := congrArg List.getLast? hg
  rw [List.getLast?_map] at hlast
  obtain ⟨o, ho, hgate⟩ := Option.map_eq_some_iff.mp hlast
  exact ⟨o, ho, h.passed o (List.mem_of_getLast? ho) (by simp [hgate])⟩

/-- A run ends done or aborted. -/
theorem stage_passGates (env : Environment σ) (spec : DomainSpec) (w : σ) :
    (passGates env spec (.fresh spec w)).run.stage = .done ∨
      (passGates env spec (.fresh spec w)).run.stage = .aborted :=
  (passGates_follows env spec (.fresh spec w)).stage_or

end Attempt

/-- A run is made of moves, which take its stage to the next one or end the run. It writes down
its gates in order from the first on, each passed but the last and that of the tests. It is done
exactly if all of them are there, the last one passed and no failure; it is aborted exactly if
there is a failure, and the last gate, one that can end a run, failed with it in words. The gate
of the models tells how many were run. -/
theorem migrate_gates {σ : Type} (env : Environment σ) (g : DomainGraph) (text : String) (w : σ)
    (spec : DomainSpec) (h : g.lookup text = .ok spec) :
    ∃ a, migrate env g text w = .ok a ∧
      Attempt.Moves env spec (.fresh spec w) a ∧
      (∀ b c, Attempt.Move env spec b c → c.run.stage = b.run.stage ∨
        b.run.stage.next? = some c.run.stage ∨ c.run.stage = .aborted) ∧
      a.run.gates ≠ [] ∧ a.run.gates.map (·.gate) <+: Stage.gates ∧
      (∀ o ∈ a.run.gates.dropLast, o.gate ≠ .testsRun → o.passed) ∧
      (a.run.stage = .done ∨ a.run.stage = .aborted) ∧
      (a.run.stage = .done ↔ a.run.gates.map (·.gate) = Stage.gates ∧
        (∃ o, a.run.gates.getLast? = some o ∧ o.passed) ∧ a.run.failure = none) ∧
      (a.run.stage = .aborted ↔ a.run.failure ≠ none) ∧
      (a.run.stage = .aborted ↔ ∃ f o, a.run.failure = some f ∧ a.run.gates.getLast? = some o ∧
        o.gate.canAbort ∧ o.passed = false ∧ o.detail = some f.message ∧ f.gate = o.gate) ∧
      ∀ o ∈ a.run.gates, o.gate = .modelsMigrated → o.passed →
        o.detail = some s!"{a.log.modelRuns} models" := by
  have hmoves := Attempt.passGates_moves env spec w
  have hstage := Attempt.stage_passGates env spec w
  have hproper := Attempt.underWay_or_stopped_passGates env spec w
  refine ⟨_, migrate_of_lookup env h w, hmoves, fun _ _ hm => hm.stage, ?_⟩
  generalize Attempt.passGates env spec (.fresh spec w) = a at hstage hproper
  rcases hproper with hu | ⟨f, hs⟩
  · have hdone := hstage.resolve_right hu.stage
    obtain ⟨hgates, hlast⟩ := hu.of_done hdone
    refine ⟨?_, hgates ▸ List.prefix_rfl, ?_, .inl hdone, ?_, ?_, ?_, hu.models⟩
    · rintro hnil
      simp [hnil, Stage.gates] at hgates
    · exact fun o ho => hu.passed o (List.dropLast_subset _ ho)
    · exact ⟨fun _ => ⟨hgates, hlast, hu.failure⟩, fun _ => hdone⟩
    · simp [hdone, hu.failure]
    · simp [hdone, hu.failure]
  · obtain ⟨o, ho, hgate, hfail, hdetail⟩ := hs.last
    refine ⟨?_, hs.gates, hs.passed, .inr hs.stage, ?_, ?_, ?_, hs.models⟩
    · rintro hnil
      simp [hnil] at ho
    · simp [hs.stage, hs.failure]
    · simp [hs.stage, hs.failure]
    · exact ⟨fun _ => ⟨f, o, hs.failure, ho, hgate ▸ hs.canAbort, hfail, hdetail, hgate.symm⟩,
        fun _ => hs.stage⟩

theorem migrate_gates_inventory :
    DomainGraph.builtin.lookup "inventory" = .ok DomainGraph.builtin.specs[2] ∧
      ∃ a, migrate (Session.environment { Collaborators.helpful with
          runTests := fun _ _ => .failed "2 of 14 tests failed" } [] "state.json") .builtin
          "inventory" ⟨.empty, false, []⟩ = .ok a ∧
        a.run.gates.map (·.gate) = Stage.gates ∧
        (∀ o ∈ a.run.gates.dropLast, o.gate ≠ .testsRun → o.passed) ∧ a.log.modelRuns = 3 ∧
        ∀ o ∈ a.run.gates, o.gate = .modelsMigrated → o.passed → o.detail = some "3 models" := by
  have h : DomainGraph.builtin.lookup "inventory" = .ok DomainGraph.builtin.specs[2] := rfl
  obtain ⟨a, ha, -, -, -, -, hpassed, -, hdone, -, -, hmodels⟩ := migrate_gates
    (Session.environment { Collaborators.helpful with
      runTests := fun _ _ => .failed "2 of 14 tests failed" } [] "state.json") .builtin "inventory"
    ⟨.empty, false, []⟩ _ h
  have hend : (migrate (Session.environment { Collaborators.helpful with
      runTests := fun _ _ => .failed "2 of 14 tests failed" } [] "state.json") .builtin "inventory"
      ⟨.empty, false, []⟩).map (fun a => (a.run.stage, a.log.modelRuns)) = .ok (.done, 3) := rfl
  rw [ha] at hend
  obtain ⟨hstage, hruns⟩ := Prod.mk.inj (Except.ok.inj hend)
  rw [hruns] at hmodels
  exact ⟨h, a, ha, (hdone.mp hstage).1, hpassed, hruns, hmodels⟩

end Cutover
