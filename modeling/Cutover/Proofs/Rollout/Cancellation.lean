import Cutover.Proofs.Rollout.CallOrder
import Cutover.Proofs.Rollout.Gates
import Mathlib.Data.List.Basic

/-!
# What a cancellation stops

A run may be cancelled before it starts and during each of its calls. From then on it runs no
model and verifies nothing, since there is a look right before each of these calls. It may still
ask for prerequisites and run the tests once, and ends cancelled if nothing ends it before. Only
during the verification itself does a cancellation come too late.
-/
namespace Cutover

/-- Whether a run looks for a cancellation right before this call. -/
def Call.isGuarded : Call → Bool
  | state _ => false
  | run _ => true
  | test _ => false
  | verify _ => true

/-- A call, and whether the run was cancelled when the call began and when it had ended. -/
structure Watched where
  call : Call
  before : Bool
  after : Bool
  deriving DecidableEq, Repr

/-- Surroundings with a flag by which a run is cancelled, and with all calls so far. -/
structure Flagged (σ : Type) where
  world : σ
  flag : Bool
  calls : List Watched := []

variable {σ : Type}

/-- The flagged surroundings after a call that leaves the world as `w`. The call may set the flag
and does not take it back. -/
def Flagged.after (sets : Call → σ → Bool) (c : Call) (w : σ) (s : Flagged σ) : Flagged σ :=
  ⟨w, s.flag || sets c s.world, s.calls ++ [⟨c, s.flag, s.flag || sets c s.world⟩]⟩

/-- Surroundings in which each call may set a flag, and a look finds what the flag is. -/
def Environment.flagged (env : Environment σ) (sets : Call → σ → Bool) :
    Environment (Flagged σ) where
  now s := env.now s.world
  cancelled _ s := (s.flag, s)
  isMigrated d s :=
    ((env.isMigrated d s.world).1, s.after sets (.state d) (env.isMigrated d s.world).2)
  runModel m s := ((env.runModel m s.world).1, s.after sets (.run m) (env.runModel m s.world).2)
  runTests d s := ((env.runTests d s.world).1, s.after sets (.test d) (env.runTests d s.world).2)
  verify spec s :=
    ((env.verify spec s.world).1, s.after sets (.verify spec.name) (env.verify spec s.world).2)

namespace Flagged

variable {env : Environment σ} {sets : Call → σ → Bool} {spec : DomainSpec}

/-- Whether a step is one of a run of `spec`: no other domain is verified. -/
def Concerns (spec : DomainSpec) (step : Step) : Prop :=
  ∀ d, step = .call (.verify d) → d = spec.name

theorem concerns_of_mem_plan {step : Step} (h : step ∈ spec.plan) : Concerns spec step := by
  rintro d rfl
  simpa [DomainSpec.plan, DomainSpec.questions, DomainSpec.orders] using h

/-- What a call leaves behind. -/
theorem exists_take_call (env : Environment σ) (sets : Call → σ → Bool) {c : Call}
    (hc : Concerns spec (.call c)) (s : Flagged σ) :
    ∃ w, ((env.flagged sets).take spec (.call c) s).2 = s.after sets c w := by
  cases c with
  | state d | run m | test d => exact ⟨_, rfl⟩
  | verify d =>
    obtain rfl := hc d rfl
    exact ⟨_, rfl⟩

/-- The calls that are kept are those of the transcript. -/
theorem map_call_course {ss : List Step} (hss : ∀ step ∈ ss, Concerns spec step) (s : Flagged σ) :
    ((env.flagged sets).course spec ss s).2.calls.map (·.call) =
      s.calls.map (·.call) ++ ((env.flagged sets).course spec ss s).1.calls := by
  induction ss generalizing s with
  | nil => simp [Environment.course, Transcript.calls]
  | cons step ss ih =>
    have ih := ih fun step' hstep' => hss step' (by simp [hstep'])
    have hstep : ((env.flagged sets).take spec step s).2.calls.map (·.call) =
        s.calls.map (·.call) ++ Transcript.calls [((env.flagged sets).take spec step s).1] := by
      cases step with
      | look gate => simp [Environment.take, Environment.flagged, Transcript.calls]
      | call c =>
        obtain ⟨w, hw⟩ := exists_take_call env sets (hss (.call c) (by simp)) s
        rw [hw]
        cases c <;> simp [after, Environment.take, Transcript.calls]
    simp only [Environment.course]
    split
    · rw [ih, hstep, List.append_assoc, ← Transcript.calls_append]
      rfl
    · exact hstep

/-- Once the flag is set it stays so: it was set after no call if it was not before a later one. -/
structure Sticky (s : Flagged σ) : Prop where
  later : s.calls.Pairwise fun x y => x.after → y.before
  now : ∀ x ∈ s.calls, x.after → s.flag

theorem Sticky.after {s : Flagged σ} (h : Sticky s) (c : Call) (w : σ) :
    Sticky (s.after sets c w) where
  later := by
    simp only [Flagged.after, List.pairwise_append, List.mem_singleton]
    refine ⟨h.later, by simp, ?_⟩
    rintro x hx y rfl
    exact h.now x hx
  now := by
    intro x hx ha
    simp only [Flagged.after, List.mem_append, List.mem_singleton] at hx ⊢
    rcases hx with hx | rfl
    · simp [h.now x hx ha]
    · exact ha

theorem sticky_course {ss : List Step} (hss : ∀ step ∈ ss, Concerns spec step) {s : Flagged σ}
    (hs : Sticky s) : Sticky ((env.flagged sets).course spec ss s).2 := by
  refine Environment.course_induction (fun step hstep s hs => ?_) hs
  cases step with
  | look gate => exact hs
  | call c =>
    obtain ⟨w, hw⟩ := exists_take_call env sets (hss _ hstep) s
    rw [hw]
    exact hs.after c w

/-- Whether each guarded call of a list of steps comes right after a look, as the first one does
if `looked`. -/
def guarded : Bool → List Step → Bool
  | _, [] => true
  | _, .look _ :: ss => guarded true ss
  | looked, .call c :: ss => (looked || !c.isGuarded) && guarded false ss

theorem guarded_orders (looked : Bool) (ms : List Model) {ss : List Step}
    (h : ∀ looked, guarded looked ss) : guarded looked (DomainSpec.orders ms ++ ss) := by
  induction ms generalizing looked with
  | nil => exact h looked
  | cons m ms ih => simpa [DomainSpec.orders, guarded] using ih false

theorem guarded_questions (looked : Bool) (ds : List Domain) {ss : List Step}
    (h : ∀ looked, guarded looked ss) :
    guarded looked (ds.map (.call <| .state ·) ++ ss) := by
  induction ds generalizing looked with
  | nil => exact h looked
  | cons d ds ih => simpa [guarded, Call.isGuarded] using ih false

theorem guarded_plan (spec : DomainSpec) : guarded false spec.plan := by
  rw [DomainSpec.plan, DomainSpec.questions, List.append_assoc, List.append_assoc, guarded]
  refine guarded_questions true _ fun looked => guarded_orders looked _ fun looked => ?_
  simp [guarded, Call.isGuarded]

/-- Among steps in which there is a look right before each guarded call, none of these calls
begins once the flag is set. -/
theorem before_eq_false_of_guarded {looked : Bool} {ss : List Step} {s : Flagged σ}
    (hss : ∀ step ∈ ss, Concerns spec step) (hg : guarded looked ss)
    (hl : looked → s.flag = false) (hs : ∀ x ∈ s.calls, x.call.isGuarded → x.before = false) :
    ∀ x ∈ ((env.flagged sets).course spec ss s).2.calls, x.call.isGuarded → x.before = false := by
  induction ss generalizing looked s with
  | nil => exact hs
  | cons step ss ih =>
    have hrest : ∀ step ∈ ss, Concerns spec step := fun step' hstep' => hss step' (by simp [hstep'])
    cases step with
    | look gate =>
      cases hf : s.flag with
      | true => simpa [Environment.course, Environment.take, Environment.flagged, Entry.goesOn, hf]
      | false =>
        have htail := ih hrest hg (fun _ => hf) hs
        simpa [Environment.course, Environment.take, Environment.flagged, Entry.goesOn, hf]
    | call c =>
      simp only [guarded, Bool.and_eq_true] at hg
      obtain ⟨w, hw⟩ := exists_take_call env sets (hss (.call c) (by simp)) s
      have hnext : ∀ x ∈ (s.after sets c w).calls, x.call.isGuarded → x.before = false := by
        intro x hx hx'
        simp only [after, List.mem_append, List.mem_singleton] at hx
        rcases hx with hx | rfl
        · exact hs x hx hx'
        · exact hl (by simpa [hx'] using hg.1)
      simp only [Environment.course]
      split
      · rw [hw]
        exact ih hrest hg.2 (by simp) hnext
      · rw [hw]
        exact hnext

end Flagged

/-- Nothing comes after the verification. -/
theorem DomainSpec.eq_nil_of_verify {spec : DomainSpec} {d : Domain} {before after : List Call}
    (h : before ++ .verify d :: after <+: spec.calls) : after = [] := by
  have hcalls : ∃ front, spec.calls = front ++ [.verify spec.name] ∧ .verify d ∉ front := by
    refine ⟨spec.dependsOn.map .state ++ (spec.sqlmeshModels.map (.run ⟨.sqlmesh, ·⟩) ++
      spec.dbtModels.map (.run ⟨.dbt, ·⟩)) ++ [.test spec.name], by simp [calls], by simp⟩
  obtain ⟨front, hfront, hnot⟩ := hcalls
  rw [hfront, List.prefix_concat_iff] at h
  rcases h with h | h
  · rcases List.eq_nil_or_concat' after with rfl | ⟨rest, last, rfl⟩
    · rfl
    · have hsplit : (before ++ .verify d :: rest) ++ [last] = front ++ [.verify spec.name] := by
        simpa using h
      refine absurd ?_ hnot
      rw [← (List.append_inj' hsplit rfl).1]
      simp
  · exact absurd (h.subset (by simp)) hnot

namespace Attempt

/-- A run that never came to its verification was cancelled on the way to its last gate, or ended
by the reply to a question or to an order to run a model. -/
theorem cancelled_or_refused (env : Environment σ) (spec : DomainSpec) (w : σ)
    (h : ∀ d, .verify d ∉ (passGates env spec (.fresh spec w)).log.calls) :
    (passGates env spec (.fresh spec w)).run.stage = .aborted ∧
      ((∃ o, (passGates env spec (.fresh spec w)).run.failure = some (.cancelled o.gate) ∧
        (passGates env spec (.fresh spec w)).run.gates.getLast? = some o) ∨
      ∃ c r, (passGates env spec (.fresh spec w)).log.answers.getLast? = some (c, r) ∧
        r.isPositive = false ∧ ((∃ d, c = .state d) ∨ ∃ m, c = .run m)) := by
  have hsteps := steps_passGates env spec w
  have hfollows := passGates_follows env spec (.fresh spec w)
  have hcalls := Transcript.calls_steps (passGates env spec (.fresh spec w)).log
  have hanswers := Transcript.answers_steps (passGates env spec (.fresh spec w)).log
  have hstopped := underWay_or_stopped_passGates env spec w
  generalize passGates env spec (.fresh spec w) = a at *
  have hill : env.favours spec spec.plan w = false := by
    rw [Bool.eq_false_iff]
    intro hf
    refine h spec.name ?_
    have htaken := ((env.favours_iff spec spec.plan w).mp hf).1
    have hmem : Step.call (.verify spec.name) ∈ a.log.steps.filterMap Entry.step? := by
      rw [hsteps, htaken]
      simp [DomainSpec.plan]
    obtain ⟨e, he, hstep⟩ := List.mem_filterMap.mp hmem
    rw [← hcalls, Transcript.calls]
    refine List.mem_filterMap.mpr ⟨e, he, ?_⟩
    cases e with
    | event | look => simp [Entry.step?] at hstep
    | call c r => simpa [Entry.step?] using hstep
  have hstage := (hfollows.ill hill).1
  refine ⟨hstage, ?_⟩
  obtain ⟨e, he, hstop⟩ := env.exists_getLast?_course spec spec.plan w hill
  rw [← hsteps] at he
  cases e with
  | event e => simp [Entry.goesOn] at hstop
  | look gate cancelled =>
    obtain rfl : cancelled = true := by simpa [Entry.goesOn] using hstop
    obtain ⟨f, hs⟩ := hstopped.resolve_left fun hu => hu.stage hstage
    obtain ⟨e', he', hf⟩ := hs.cause
    obtain rfl := Option.some.inj (he'.symm.trans he)
    obtain rfl := Option.some.inj hf
    obtain ⟨o, ho, hgate, -, -⟩ := hs.last
    exact .inl ⟨o, by rw [hs.failure, hgate]; rfl, ho⟩
  | call c r =>
    right
    obtain ⟨front, hfront⟩ := List.getLast?_eq_some_iff.mp he
    have hlast : a.log.answers.getLast? = some (c, r) := by
      rw [← hanswers, hfront]
      simp [Transcript.answers, Entry.answer?]
    have hmem : c ∈ a.log.calls := by
      rw [← hcalls, hfront]
      simp [Transcript.calls]
    cases c with
    | state d => exact ⟨_, r, hlast, by simpa [Entry.goesOn] using hstop, .inl ⟨d, rfl⟩⟩
    | run m => exact ⟨_, r, hlast, by simpa [Entry.goesOn] using hstop, .inr ⟨m, rfl⟩⟩
    | test d => simp [Entry.goesOn] at hstop
    | verify d => exact absurd hmem (h d)

variable (env : Environment σ) (sets : Call → σ → Bool) (spec : DomainSpec) (w : σ) (flag : Bool)

/-- The calls of a run that are kept with the flag are those of its transcript. -/
theorem map_call_passGates :
    (passGates (env.flagged sets) spec (.fresh spec ⟨w, flag, []⟩)).world.calls.map (·.call) =
      (passGates (env.flagged sets) spec (.fresh spec ⟨w, flag, []⟩)).log.calls := by
  rw [world_passGates, ← Transcript.calls_steps, steps_passGates,
    Flagged.map_call_course fun _ => Flagged.concerns_of_mem_plan]
  rfl

/-- No guarded call of a run begins once the flag is set. -/
theorem before_eq_false_passGates :
    ∀ x ∈ (passGates (env.flagged sets) spec (.fresh spec ⟨w, flag, []⟩)).world.calls,
      x.call.isGuarded → x.before = false := by
  rw [world_passGates]
  exact Flagged.before_eq_false_of_guarded (fun _ => Flagged.concerns_of_mem_plan)
    (Flagged.guarded_plan spec) (by simp) (by simp)

theorem sticky_passGates :
    (passGates (env.flagged sets) spec (.fresh spec ⟨w, flag, []⟩)).world.Sticky := by
  rw [world_passGates]
  exact Flagged.sticky_course (fun _ => Flagged.concerns_of_mem_plan) ⟨.nil, by simp⟩

/-- A run that was cancelled during another call never comes to its verification. -/
theorem verify_not_mem_of_after {x : Watched}
    (hx : x ∈ (passGates (env.flagged sets) spec (.fresh spec ⟨w, flag, []⟩)).world.calls)
    (ha : x.after) (hne : ∀ d, x.call ≠ .verify d) (d : Domain) :
    .verify d ∉ (passGates (env.flagged sets) spec (.fresh spec ⟨w, flag, []⟩)).log.calls := by
  have hcalls := map_call_passGates env sets spec w flag
  have hbefore := before_eq_false_passGates env sets spec w flag
  have hsticky := sticky_passGates env sets spec w flag
  have hplan := map_answers_prefix (env.flagged sets) spec ⟨w, flag, []⟩
  rw [← Transcript.calls_eq_map_answers, ← hcalls] at hplan
  rw [← hcalls]
  generalize passGates (env.flagged sets) spec (.fresh spec ⟨w, flag, []⟩) = a at *
  intro hd
  obtain ⟨v, hv, hcall⟩ := List.mem_map.mp hd
  obtain ⟨front, rest, hsplit⟩ := List.append_of_mem hv
  rw [hsplit, List.map_append, List.map_cons, hcall] at hplan
  obtain rfl := List.map_eq_nil_iff.mp (DomainSpec.eq_nil_of_verify hplan)
  have hfront : x ∈ front := by
    rw [hsplit] at hx
    rcases List.mem_append.mp hx with hx | hx
    · exact hx
    · exact absurd (List.mem_singleton.mp hx ▸ hcall) (hne d)
  have hlater := hsticky.later
  rw [hsplit, List.pairwise_append] at hlater
  have hset := hlater.2.2 x hfront v (by simp) ha
  rw [hbefore v hv (by rw [hcall]; rfl)] at hset
  simp at hset

end Attempt

section

/-- The surroundings with another way of verifying, and nothing else changed. -/
def Environment.withVerify (env : Environment σ)
    (verify : DomainSpec → σ → StepOutcome × σ) : Environment σ := { env with verify }

namespace Attempt

variable (env : Environment σ) (verify : DomainSpec → σ → StepOutcome × σ) (spec : DomainSpec)

theorem checkPrerequisites_withVerify (ds : List Domain) (a : Attempt σ) :
    checkPrerequisites (env.withVerify verify) spec ds a = checkPrerequisites env spec ds a := by
  induction ds generalizing a with
  | nil => rfl
  | cons d ds ih =>
    simp only [checkPrerequisites, ih]
    rfl

theorem runModels_withVerify (ms : List Model) (a : Attempt σ) :
    runModels (env.withVerify verify) spec ms a = runModels env spec ms a := by
  induction ms generalizing a with
  | nil => rfl
  | cons m ms ih =>
    simp only [runModels, ih]
    rfl

/-- What a verification leaves behind makes no difference to the run and its transcript, if it
says the same at the same time. -/
theorem verifyConsistency_withVerify
    (hv : ∀ w, (verify spec w).1 = (env.verify spec w).1 ∧
      env.now (verify spec w).2 = env.now (env.verify spec w).2) (a : Attempt σ) :
    (verifyConsistency (env.withVerify verify) spec a).run = (verifyConsistency env spec a).run ∧
      (verifyConsistency (env.withVerify verify) spec a).log =
        (verifyConsistency env spec a).log := by
  have hcancelled : (env.withVerify verify).cancelled = env.cancelled := rfl
  have hverify : (env.withVerify verify).verify spec = verify spec := rfl
  have hnow : (env.withVerify verify).now = env.now := rfl
  unfold verifyConsistency unlessCancelled
  rw [hcancelled]
  obtain ⟨cancelled, w⟩ := env.cancelled .consistencyVerified a.world
  cases cancelled with
  | true => exact ⟨rfl, rfl⟩
  | false =>
    dsimp only
    obtain ⟨hanswer, htime⟩ := hv (a.looked .consistencyVerified false w).world
    rw [hverify]
    generalize verify spec _ = reply at hanswer htime
    generalize env.verify spec _ = reply' at hanswer htime
    obtain ⟨outcome, w'⟩ := reply
    obtain ⟨outcome', w''⟩ := reply'
    obtain rfl : outcome = outcome' := hanswer
    cases outcome <;> simp_all [advance, abort, tell, heard]

theorem passGates_withVerify
    (hv : ∀ w, (verify spec w).1 = (env.verify spec w).1 ∧
      env.now (verify spec w).2 = env.now (env.verify spec w).2) (a : Attempt σ) :
    (passGates (env.withVerify verify) spec a).run = (passGates env spec a).run ∧
      (passGates (env.withVerify verify) spec a).log = (passGates env spec a).log := by
  have hcancelled : (env.withVerify verify).cancelled = env.cancelled := rfl
  have htests : runTests (env.withVerify verify) spec = runTests env spec := rfl
  have hmodels : runModels (env.withVerify verify) spec spec.models =
      runModels env spec spec.models := funext (runModels_withVerify env verify spec _)
  unfold passGates unlessCancelled
  rw [hcancelled]
  obtain ⟨cancelled, w⟩ := env.cancelled .dependencyChecked a.world
  cases cancelled with
  | true => exact ⟨rfl, rfl⟩
  | false =>
    dsimp only
    rw [checkPrerequisites_withVerify, hmodels, htests]
    generalize ((checkPrerequisites env spec spec.dependsOn _).andThen
      (runModels env spec spec.models)).andThen (runTests env spec) = b
    unfold andThen
    split
    · exact ⟨rfl, rfl⟩
    · exact verifyConsistency_withVerify env verify spec hv b

end Attempt

/-- Flags that are set alike by all calls but the verification differ in what that leaves behind
and in nothing else. -/
theorem Environment.flagged_eq_withVerify (env : Environment σ) {sets sets' : Call → σ → Bool}
    (h : ∀ c w, (∀ d, c ≠ .verify d) → sets' c w = sets c w) :
    env.flagged sets' = (env.flagged sets).withVerify (env.flagged sets').verify := by
  have hafter : ∀ c, (∀ d, c ≠ .verify d) → Flagged.after sets' c = Flagged.after sets c := by
    intro c hc
    funext w s
    simp [Flagged.after, h c s.world hc]
  simp only [Environment.flagged, Environment.withVerify, Environment.mk.injEq, true_and]
  simp [hafter]

end

namespace Attempt

/-- The tests are called only after all models have passed. -/
theorem hoped_of_test (env : Environment σ) (spec : DomainSpec) (w : σ) {d : Domain}
    (h : .test d ∈ (passGates env spec (.fresh spec w)).log.calls) :
    spec.dependsOn.map (fun d => (.state d, .migrated true)) ++
      spec.models.map (fun m => (.run m, .step .passed)) <+:
        (passGates env spec (.fresh spec w)).log.answers := by
  have hp := map_answers_prefix env spec w
  rw [Transcript.calls_eq_map_answers] at h
  have hq := hoped_prefix (P := spec.dependsOn.map .state ++ spec.models.map .run)
    (by simpa [DomainSpec.calls, DomainSpec.models, Function.comp_def] using hp)
    (answers_pairwise env spec w) (by simp) h (by simp)
  simpa [Call.hoped, Function.comp_def] using hq

/-- A run that is cancelled from the start ends before its first call. -/
theorem passGates_of_flag (env : Environment σ) (sets : Call → σ → Bool) (spec : DomainSpec)
    (w : σ) :
    (passGates (env.flagged sets) spec (.fresh spec ⟨w, true, []⟩)).log.calls = [] ∧
      (passGates (env.flagged sets) spec (.fresh spec ⟨w, true, []⟩)).run.failure =
        some (.cancelled .dependencyChecked) ∧
      (passGates (env.flagged sets) spec (.fresh spec ⟨w, true, []⟩)).run.gates =
        [⟨.dependencyChecked, false, some (Failure.cancelled .dependencyChecked).message,
          env.now w⟩] :=
  ⟨rfl, rfl, rfl⟩

end Attempt

/-- Let a run be cancelled by a flag, which may be set before it starts and by each of its calls.
Once the flag is set no model is run and nothing is verified; all that can still be called are
the prerequisites left to ask for and the tests, these once and only if every model has passed.
If the flag is set before the start or during a call other than the verification the run is
aborted: it was cancelled on the way to its last gate, unless a question or a model ended it
before. A run cancelled from the start calls nothing and has one gate, and whether the
verification sets the flag changes nothing of the run. -/
theorem migrate_cancelled (env : Environment σ) (sets : Call → σ → Bool) (g : DomainGraph)
    (text : String) (w : σ) (flag : Bool) (spec : DomainSpec) (h : g.lookup text = .ok spec) :
    ∃ a, migrate (env.flagged sets) g text ⟨w, flag, []⟩ = .ok a ∧
      a.world.calls.map (·.call) = a.log.calls ∧
      (∀ x ∈ a.world.calls, x.before → (∀ m, x.call ≠ .run m) ∧ ∀ d, x.call ≠ .verify d) ∧
      a.log.calls <+: spec.calls ∧
      (∀ x ∈ a.world.calls, x.before → (∃ d ∈ spec.dependsOn, x.call = .state d) ∨
        x.call = .test spec.name ∧
          spec.dependsOn.map (fun d => (.state d, .migrated true)) ++
            spec.models.map (fun m => (.run m, .step .passed)) <+: a.log.answers) ∧
      ((flag ∨ ∃ x ∈ a.world.calls, x.after ∧ ∀ d, x.call ≠ .verify d) →
        a.run.stage = .aborted ∧
          ((∃ o, a.run.failure = some (.cancelled o.gate) ∧ a.run.gates.getLast? = some o) ∨
          ∃ c r, a.log.answers.getLast? = some (c, r) ∧ r.isPositive = false ∧
            ((∃ d, c = .state d) ∨ ∃ m, c = .run m))) ∧
      (flag → a.log.calls = [] ∧ a.run.failure = some (.cancelled .dependencyChecked) ∧
        a.run.gates = [⟨.dependencyChecked, false,
          some (Failure.cancelled .dependencyChecked).message, env.now w⟩]) ∧
      ∀ sets', (∀ c w, (∀ d, c ≠ .verify d) → sets' c w = sets c w) →
        ∃ b, migrate (env.flagged sets') g text ⟨w, flag, []⟩ = .ok b ∧
          b.run = a.run ∧ b.log = a.log := by
  have hcalls := Attempt.map_call_passGates env sets spec w flag
  have hguarded := Attempt.before_eq_false_passGates env sets spec w flag
  have hprefix := Attempt.map_answers_prefix (env.flagged sets) spec ⟨w, flag, []⟩
  rw [← Transcript.calls_eq_map_answers] at hprefix
  have hopen : ∀ x ∈ (Attempt.passGates (env.flagged sets) spec
      (.fresh spec ⟨w, flag, []⟩)).world.calls, x.before → x.call.isGuarded = false := by
    intro x hx hb
    rw [Bool.eq_false_iff]
    intro hg
    simp [hguarded x hx hg] at hb
  refine ⟨_, migrate_of_lookup _ h _, hcalls, ?_, hprefix, ?_, ?_, ?_, ?_⟩
  · intro x hx hb
    have ho := hopen x hx hb
    constructor
    · intro m hm
      simp [hm, Call.isGuarded] at ho
    · intro d hd
      simp [hd, Call.isGuarded] at ho
  · intro x hx hb
    have ho := hopen x hx hb
    have hmem : x.call ∈ (Attempt.passGates (env.flagged sets) spec
        (.fresh spec ⟨w, flag, []⟩)).log.calls := hcalls ▸ List.mem_map_of_mem hx
    have hplan := hprefix.subset hmem
    cases hc : x.call with
    | run m | verify d => simp [hc, Call.isGuarded] at ho
    | state d => exact .inl ⟨d, by simpa [hc, DomainSpec.calls] using hplan, rfl⟩
    | test d =>
      have hd : d = spec.name := by simpa [hc, DomainSpec.calls] using hplan
      rw [hc] at hmem
      exact .inr ⟨by rw [hd], Attempt.hoped_of_test _ spec _ hmem⟩
  · intro hset
    apply Attempt.cancelled_or_refused
    rcases hset with hflag | ⟨x, hx, ha, hne⟩
    · subst hflag
      intro d hd
      rw [(Attempt.passGates_of_flag env sets spec w).1] at hd
      simp at hd
    · exact Attempt.verify_not_mem_of_after env sets spec w flag hx ha hne
  · intro hflag
    subst hflag
    exact Attempt.passGates_of_flag env sets spec w
  · intro sets' hs
    have he := env.flagged_eq_withVerify hs
    have hsame := Attempt.passGates_withVerify (env.flagged sets) (env.flagged sets').verify spec
      (fun _ => ⟨rfl, rfl⟩) (.fresh spec ⟨w, flag, []⟩)
    rw [← he] at hsame
    exact ⟨_, migrate_of_lookup _ h _, hsame⟩

theorem migrate_cancelled_inventory :
    let env := Session.environment .helpful [] "state.json"
    let first : Call := .run ⟨.sqlmesh, "dwd.inventory_fact"⟩
    let sets : Call → Session → Bool := fun c _ => c = first
    DomainGraph.builtin.lookup "inventory" = .ok DomainGraph.builtin.specs[2] ∧
      ∃ a, migrate (env.flagged sets) .builtin "inventory"
          ⟨⟨.empty, false, []⟩, false, []⟩ = .ok a ∧
        a.world.calls = [⟨first, false, true⟩] ∧ a.run.stage = .aborted ∧
        ((∃ o, a.run.failure = some (.cancelled o.gate) ∧ a.run.gates.getLast? = some o) ∨
          ∃ c r, a.log.answers.getLast? = some (c, r) ∧ r.isPositive = false ∧
            ((∃ d, c = .state d) ∨ ∃ m, c = .run m)) := by
  intro env first sets
  have h : DomainGraph.builtin.lookup "inventory" = .ok DomainGraph.builtin.specs[2] := rfl
  obtain ⟨a, ha, -, -, -, -, hset, -, -⟩ := migrate_cancelled env sets .builtin "inventory"
    ⟨.empty, false, []⟩ false _ h
  have hend : (migrate (env.flagged sets) .builtin "inventory"
      ⟨⟨.empty, false, []⟩, false, []⟩).map (·.world.calls) = .ok [⟨first, false, true⟩] := rfl
  rw [ha] at hend
  have hcalls : a.world.calls = [⟨first, false, true⟩] := Except.ok.inj hend
  have hcancelled := hset (.inr ⟨⟨first, false, true⟩, by simp [hcalls], rfl, by simp [first]⟩)
  exact ⟨h, a, ha, hcalls, hcancelled⟩

end Cutover
