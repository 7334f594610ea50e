import Cutover.Rollout.Attempt

/-!
# The course of a run

What a run does with its surroundings is a list of steps, looks and calls, that it takes in a
fixed order up to the first one after which it cannot go on. The gates of `passGates` take
exactly these steps, and the run comes to its good end exactly when it can go on after each.
-/
namespace Cutover

/-- What a run does with its surroundings. -/
inductive Step where
  | look (gate : Stage)
  | call (c : Call)
  deriving DecidableEq, Repr

namespace Entry

/-- The step that an entry writes down, unless it is an event. -/
def step? : Entry → Option Step
  | event _ => none
  | look gate _ => some (.look gate)
  | call c _ => some (.call c)

/-- The call that an entry writes down, with its reply. -/
def answer? : Entry → Option (Call × Reply)
  | call c r => some (c, r)
  | _ => none

/-- Whether the run goes on after an entry. How the tests come out makes no difference. -/
def goesOn : Entry → Bool
  | event _ => true
  | look _ cancelled => !cancelled
  | call (.test _) _ => true
  | call _ r => r.isPositive

end Entry

namespace Transcript

/-- The looks and calls of a transcript. -/
def steps (t : Transcript) : Transcript := t.filter (·.step?.isSome)

/-- The calls of a transcript with their replies. -/
def answers (t : Transcript) : List (Call × Reply) := t.filterMap Entry.answer?

/-- Of a part of a list that has all items at which a function is defined, it makes the same. -/
theorem filterMap_filter_of {α β : Type} {p : α → Bool} {f : α → Option β}
    (h : ∀ x, p x = false → f x = none) (l : List α) :
    (l.filter p).filterMap f = l.filterMap f := by
  rw [List.filterMap_filter]
  congr 1
  funext x
  split
  · rfl
  · next hx => exact (h x (by simpa only [Bool.not_eq_true] using hx)).symm

theorem filterMap_steps_of {β : Type} {f : Entry → Option β} (hf : ∀ e, f (.event e) = none)
    (t : Transcript) : t.steps.filterMap f = t.filterMap f := by
  refine filterMap_filter_of (fun e he => ?_) t
  cases e with
  | event e => exact hf e
  | look gate cancelled => cases he
  | call c r => cases he

theorem answers_steps (t : Transcript) : answers t.steps = t.answers :=
  filterMap_steps_of (fun _ => rfl) t

theorem calls_steps (t : Transcript) : calls t.steps = t.calls :=
  filterMap_steps_of (fun _ => rfl) t

theorem filterMap_steps (t : Transcript) :
    t.steps.filterMap Entry.step? = t.filterMap Entry.step? :=
  filterMap_steps_of (fun _ => rfl) t

/-- A run goes on after all events. -/
theorem forall_steps (t : Transcript) : (∀ e ∈ t.steps, e.goesOn) ↔ ∀ e ∈ t, e.goesOn := by
  simp only [steps, List.mem_filter, and_imp]
  constructor
  · intro h e he
    cases e with
    | event e => rfl
    | look gate cancelled => exact h _ he rfl
    | call c r => exact h _ he rfl
  · exact fun h e he _ => h e he

theorem calls_eq_map_answers (t : Transcript) : t.calls = t.answers.map (·.1) := by
  simp only [calls, answers, List.map_filterMap]
  congr 1
  funext e
  cases e <;> rfl

@[simp] theorem steps_append (t u : Transcript) : steps (t ++ u) = steps t ++ steps u := by
  simp [steps]

end Transcript

namespace DomainSpec

/-- The questions for the prerequisites. -/
def questions (spec : DomainSpec) : List Step := spec.dependsOn.map (.call <| .state ·)

/-- The orders to run models, with a look before each. -/
def orders (ms : List Model) : List Step :=
  ms.flatMap fun m => [.look .modelsMigrated, .call (.run m)]

/-- The steps of a run that nothing stops. -/
def plan (spec : DomainSpec) : List Step :=
  .look .dependencyChecked :: (spec.questions ++ orders spec.models ++ [.call (.test spec.name)] ++
    [.look .consistencyVerified, .call (.verify spec.name)])

end DomainSpec

variable {σ : Type}

namespace Environment

/-- Takes a step: what is written down, and the surroundings after it. -/
def take (env : Environment σ) (spec : DomainSpec) : Step → σ → Entry × σ
  | .look gate, w => (.look gate (env.cancelled gate w).1, (env.cancelled gate w).2)
  | .call (.state d), w =>
    (.call (.state d) (match (env.isMigrated d w).1 with
      | .ok yes => .migrated yes
      | .error e => .unavailable e), (env.isMigrated d w).2)
  | .call (.run m), w => (.call (.run m) (.step (env.runModel m w).1), (env.runModel m w).2)
  | .call (.test d), w => (.call (.test d) (.step (env.runTests d w).1), (env.runTests d w).2)
  | .call (.verify d), w => (.call (.verify d) (.step (env.verify spec w).1), (env.verify spec w).2)

/-- Takes steps up to the first after which a run does not go on. -/
def course (env : Environment σ) (spec : DomainSpec) : List Step → σ → Transcript × σ
  | [], w => ([], w)
  | s :: ss, w =>
    let (e, w) := env.take spec s w
    if e.goesOn then (e :: (env.course spec ss w).1, (env.course spec ss w).2) else ([e], w)

/-- Whether a run goes on after each of the steps, taken one after the other. -/
def favours (env : Environment σ) (spec : DomainSpec) : List Step → σ → Bool
  | [], _ => true
  | s :: ss, w => (env.take spec s w).1.goesOn && env.favours spec ss (env.take spec s w).2

theorem step?_take (env : Environment σ) (spec : DomainSpec) (s : Step) (w : σ) :
    (env.take spec s w).1.step? = some s := by
  cases s with
  | look gate => rfl
  | call c => cases c <;> rfl

theorem course_append (env : Environment σ) (spec : DomainSpec) (ss ts : List Step) (w : σ) :
    env.course spec (ss ++ ts) w =
      if env.favours spec ss w then
        ((env.course spec ss w).1 ++ (env.course spec ts (env.course spec ss w).2).1,
          (env.course spec ts (env.course spec ss w).2).2)
      else env.course spec ss w := by
  induction ss generalizing w with
  | nil => simp [course, favours]
  | cons s ss ih =>
    by_cases hs : (env.take spec s w).1.goesOn
    · simp only [List.cons_append, course, favours, hs, if_true, Bool.true_and, ih]
      split <;> simp
    · simp [course, favours, hs]

theorem favours_append (env : Environment σ) (spec : DomainSpec) (ss ts : List Step) (w : σ) :
    env.favours spec (ss ++ ts) w =
      (env.favours spec ss w && env.favours spec ts (env.course spec ss w).2) := by
  induction ss generalizing w with
  | nil => simp [course, favours]
  | cons s ss ih =>
    by_cases hs : (env.take spec s w).1.goesOn <;> simp [course, favours, hs, ih]

/-- The steps that are taken are the first ones of those asked for. -/
theorem course_prefix (env : Environment σ) (spec : DomainSpec) (ss : List Step) (w : σ) :
    (env.course spec ss w).1.filterMap Entry.step? <+: ss := by
  induction ss generalizing w with
  | nil => simp [course]
  | cons s ss ih =>
    by_cases hs : (env.take spec s w).1.goesOn
    · simpa [course, hs, List.filterMap_cons, step?_take] using ih _
    · simp [course, hs, step?_take]

/-- A step is followed by another only if the run goes on after it. -/
theorem course_pairwise (env : Environment σ) (spec : DomainSpec) {P : Entry → Prop}
    (hP : ∀ s w, (env.take spec s w).1.goesOn → P (env.take spec s w).1) (ss : List Step) (w : σ) :
    (env.course spec ss w).1.Pairwise fun e _ => P e := by
  induction ss generalizing w with
  | nil => simp [course]
  | cons s ss ih =>
    by_cases hs : (env.take spec s w).1.goesOn
    · simpa [course, hs] using ⟨fun _ _ => hP s w hs, ih _⟩
    · simp [course, hs]

/-- The run can go on after each step exactly if all steps are taken and it goes on after each
that is. -/
theorem favours_iff (env : Environment σ) (spec : DomainSpec) (ss : List Step) (w : σ) :
    env.favours spec ss w ↔ (env.course spec ss w).1.filterMap Entry.step? = ss ∧
      ∀ e ∈ (env.course spec ss w).1, e.goesOn := by
  induction ss generalizing w with
  | nil => simp [favours, course]
  | cons s ss ih =>
    by_cases hs : (env.take spec s w).1.goesOn
    · simp [favours, course, hs, step?_take, ih]
    · simp [favours, course, hs]

/-- A course that does not go on after each step ends with one after which it does not. -/
theorem exists_getLast?_course (env : Environment σ) (spec : DomainSpec) (ss : List Step) (w : σ)
    (h : env.favours spec ss w = false) :
    ∃ e, (env.course spec ss w).1.getLast? = some e ∧ e.goesOn = false := by
  induction ss generalizing w with
  | nil => simp [favours] at h
  | cons s ss ih =>
    by_cases hs : (env.take spec s w).1.goesOn
    · obtain ⟨e, he, hne⟩ := ih _ (by simpa [favours, hs] using h)
      exact ⟨e, by simp [course, hs, List.getLast?_cons, he], hne⟩
    · exact ⟨(env.take spec s w).1, by simp [course, hs], by simpa using hs⟩

/-- What each step of a list keeps of the surroundings, the steps taken from it keep. -/
theorem course_induction {env : Environment σ} {spec : DomainSpec} {P : σ → Prop} {ss : List Step}
    {w : σ} (hstep : ∀ s ∈ ss, ∀ w, P w → P (env.take spec s w).2) (hw : P w) :
    P (env.course spec ss w).2 := by
  induction ss generalizing w with
  | nil => exact hw
  | cons s ss ih =>
    have hnext := hstep s (by simp) w hw
    simp only [course]
    split
    · exact ih (fun t ht => hstep t (by simp [ht])) hnext
    · exact hnext

/-- If in surroundings that each step of a list keeps as they should be the run goes on after just
the good steps, it goes on after all of the list exactly if they all are good. -/
theorem favours_iff_forall {env : Environment σ} {spec : DomainSpec} {P : σ → Prop}
    {good : Step → Prop} {ss : List Step} {w : σ}
    (hstep : ∀ s ∈ ss, ∀ w, P w → P (env.take spec s w).2)
    (hgood : ∀ s ∈ ss, ∀ w, P w → ((env.take spec s w).1.goesOn ↔ good s)) (hw : P w) :
    env.favours spec ss w ↔ ∀ s ∈ ss, good s := by
  induction ss generalizing w with
  | nil => simp [favours]
  | cons s ss ih =>
    have htail := ih (fun t ht => hstep t (by simp [ht])) (fun t ht => hgood t (by simp [ht]))
      (hstep s (by simp) w hw)
    simp [favours, hgood s (by simp) w hw, htail]

end Environment

namespace Attempt

@[simp] theorem steps_tell (a : Attempt σ) (e : Event) : (a.tell e).log.steps = a.log.steps := by
  simp [tell, Transcript.steps, Entry.step?]

@[simp] theorem steps_heard (a : Attempt σ) (c : Call) (r : Reply) (w : σ) :
    (a.heard c r w).log.steps = a.log.steps ++ [.call c r] := by
  simp [heard, Transcript.steps, Entry.step?]

@[simp] theorem steps_looked (a : Attempt σ) (g : Stage) (b : Bool) (w : σ) :
    (a.looked g b w).log.steps = a.log.steps ++ [.look g b] := by
  simp [looked, Transcript.steps, Entry.step?]

@[simp] theorem steps_advance (env : Environment σ) (a : Attempt σ) (g : Stage) (passed : Bool)
    (detail : Option String) : (a.advance env g passed detail).log.steps = a.log.steps := by
  simp [advance]

@[simp] theorem steps_abort (env : Environment σ) (a : Attempt σ) (g : Stage) (f : Failure) :
    (a.abort env g f).log.steps = a.log.steps := by
  simp [abort]

/-- From `a` to `b` a run takes the steps up to the first after which it cannot go on. It comes
to a stage without a failure if it goes on after each, and else ends with one. -/
structure Follows (env : Environment σ) (spec : DomainSpec) (ss : List Step) (stage : Stage)
    (a b : Attempt σ) : Prop where
  steps : b.log.steps = a.log.steps ++ (env.course spec ss a.world).1
  world : b.world = (env.course spec ss a.world).2
  domain : b.run.domain = a.run.domain
  well : env.favours spec ss a.world → b.run.stage = stage ∧ b.run.failure = a.run.failure
  ill : env.favours spec ss a.world = false → b.run.stage = .aborted ∧ b.run.failure.isSome

namespace Follows

variable {env : Environment σ} {spec : DomainSpec} {stage : Stage} {a b c : Attempt σ}

theorem nothing (hs : b.log.steps = a.log.steps) (hw : b.world = a.world)
    (hd : b.run.domain = a.run.domain)
    (hr : b.run.stage = stage ∧ b.run.failure = a.run.failure) :
    Follows env spec [] stage a b where
  steps := by simp [Environment.course, hs]
  world := by simp [Environment.course, hw]
  domain := hd
  well _ := hr
  ill h := by simp [Environment.favours] at h

/-- A step after which the run goes on, and all further ones. -/
theorem cons {s : Step} {ss : List Step} (hb : Follows env spec ss stage b c)
    (hg : (env.take spec s a.world).1.goesOn)
    (hs : b.log.steps = a.log.steps ++ [(env.take spec s a.world).1])
    (hw : b.world = (env.take spec s a.world).2) (hr : b.run = a.run) :
    Follows env spec (s :: ss) stage a c where
  steps := by simp [Environment.course, hg, hb.steps, hs, hw]
  world := by simp [Environment.course, hg, hb.world, hw]
  domain := by rw [hb.domain, hr]
  well h := by
    have ht : env.favours spec ss b.world := by simpa [Environment.favours, hg, hw] using h
    simpa [hr] using hb.well ht
  ill h := hb.ill (by simpa [Environment.favours, hg, hw] using h)

/-- A step after which the run cannot go on. -/
theorem stop {s : Step} (ss : List Step) (hg : (env.take spec s a.world).1.goesOn = false)
    (hs : b.log.steps = a.log.steps ++ [(env.take spec s a.world).1])
    (hw : b.world = (env.take spec s a.world).2) (hd : b.run.domain = a.run.domain)
    (hr : b.run.stage = .aborted ∧ b.run.failure.isSome) :
    Follows env spec (s :: ss) stage a b where
  steps := by simp [Environment.course, hg, hs]
  world := by simp [Environment.course, hg, hw]
  domain := hd
  well h := by simp [Environment.favours, hg] at h
  ill _ := hr

/-- One part of a run after another. -/
theorem andThen {ss ts : List Step} {mid : Stage} {f : Attempt σ → Attempt σ}
    (hab : Follows env spec ss mid a b) (hm : mid ≠ .aborted)
    (hf : Follows env spec ts stage b (f b)) :
    Follows env spec (ss ++ ts) stage a (b.andThen f) := by
  cases h : env.favours spec ss a.world with
  | true =>
    have hb := hab.well h
    have he : b.andThen f = f b := by simp [Attempt.andThen, hb.1, hm]
    have hw := hab.world
    rw [he]
    constructor
    · simp [Environment.course_append, h, hf.steps, hab.steps, hw]
    · simp [Environment.course_append, h, hf.world, hw]
    · exact hf.domain.trans hab.domain
    · intro ht
      have hts : env.favours spec ts b.world := by
        simpa [Environment.favours_append, h, hw] using ht
      exact ⟨(hf.well hts).1, (hf.well hts).2.trans hb.2⟩
    · intro ht
      exact hf.ill (by simpa [Environment.favours_append, h, hw] using ht)
  | false =>
    have hb := hab.ill h
    have he : b.andThen f = b := by simp [Attempt.andThen, hb.1]
    rw [he]
    constructor
    · simp [Environment.course_append, h, hab.steps]
    · simp [Environment.course_append, h, hab.world]
    · exact hab.domain
    · intro ht
      simp [Environment.favours_append, h] at ht
    · intro _
      exact hb

end Follows

variable (env : Environment σ) (spec : DomainSpec)

/-- A look at the cancellation is a step of its own before what is done if there was none. -/
theorem unlessCancelled_follows {ss : List Step} {gate stage : Stage} {f : Attempt σ → Attempt σ}
    (hf : ∀ a : Attempt σ, Follows env spec ss stage a (f a)) (a : Attempt σ) :
    Follows env spec (.look gate :: ss) stage a (a.unlessCancelled env gate f) := by
  unfold unlessCancelled
  split
  case h_1 w hc =>
    apply Follows.stop ss <;> simp [Environment.take, Entry.goesOn, hc, abort, Run.abort]
  case h_2 w hc =>
    refine Follows.cons (hf _) ?_ ?_ ?_ ?_ <;>
      simp [Environment.take, Entry.goesOn, hc]

theorem advance_follows (a : Attempt σ) (gate : Stage) (passed : Bool) (detail : Option String) :
    Follows env spec [] gate a (a.advance env gate passed detail) :=
  Follows.nothing (by simp) rfl rfl ⟨rfl, rfl⟩

theorem checkPrerequisites_follows (ds : List Domain) (a : Attempt σ) :
    Follows env spec (ds.map (.call <| .state ·)) .dependencyChecked a
      (checkPrerequisites env spec ds a) := by
  induction ds generalizing a with
  | nil => exact advance_follows env spec a _ _ _
  | cons d ds ih =>
    unfold checkPrerequisites
    split
    case h_1 w hd =>
      refine Follows.cons (ih _) ?_ ?_ ?_ ?_ <;>
        simp [Environment.take, Entry.goesOn, Reply.isPositive, hd]
    case h_2 w hd =>
      apply Follows.stop <;>
        simp [Environment.take, Entry.goesOn, Reply.isPositive, hd, abort, Run.abort]
    case h_3 e w hd =>
      apply Follows.stop <;>
        simp [Environment.take, Entry.goesOn, Reply.isPositive, hd, abort, Run.abort]

theorem runModels_follows (ms : List Model) (a : Attempt σ) :
    Follows env spec (DomainSpec.orders ms) .modelsMigrated a (runModels env spec ms a) := by
  induction ms generalizing a with
  | nil => exact advance_follows env spec a _ _ _
  | cons m ms ih =>
    unfold runModels
    apply unlessCancelled_follows
    intro a
    split
    case h_1 w hm =>
      refine Follows.cons (ih _) ?_ ?_ ?_ ?_ <;>
        simp [Environment.take, Entry.goesOn, Reply.isPositive, hm]
    case h_2 reason w hm =>
      apply Follows.stop <;>
        simp [Environment.take, Entry.goesOn, Reply.isPositive, hm, abort, Run.abort]

theorem runTests_follows (a : Attempt σ) :
    Follows env spec [.call (.test spec.name)] .testsRun a (runTests env spec a) := by
  unfold runTests
  split
  case h_1 w ht =>
    refine Follows.cons (advance_follows env spec _ _ _ _) ?_ ?_ ?_ ?_ <;>
      simp [Environment.take, Entry.goesOn, ht]
  case h_2 reason w ht =>
    refine Follows.cons (advance_follows env spec _ _ _ _) ?_ ?_ ?_ ?_ <;>
      simp [Environment.take, Entry.goesOn, ht]

theorem verifyConsistency_follows (a : Attempt σ) :
    Follows env spec [.look .consistencyVerified, .call (.verify spec.name)] .done a
      (verifyConsistency env spec a) := by
  apply unlessCancelled_follows
  intro a
  split
  case h_1 w hv =>
    let b := (a.tell .verifying).heard (.verify spec.name) (.step .passed) w
    refine Follows.cons (b := b) (Follows.nothing ?_ rfl rfl ⟨rfl, rfl⟩) ?_ ?_ ?_ ?_ <;>
      simp [b, Environment.take, Entry.goesOn, Reply.isPositive, hv]
  case h_2 reason w hv =>
    apply Follows.stop <;>
      simp [Environment.take, Entry.goesOn, Reply.isPositive, hv, abort, Run.abort]

/-- A run takes the steps of its plan, and is done exactly if it can go on after each. -/
theorem passGates_follows (a : Attempt σ) :
    Follows env spec spec.plan .done a (passGates env spec a) := by
  apply unlessCancelled_follows
  intro a
  exact (((checkPrerequisites_follows env spec _ a).andThen (by decide)
    (runModels_follows env spec _ _)).andThen (by decide) (runTests_follows env spec _)).andThen
      (by decide) (verifyConsistency_follows env spec _)

/-- The run of a domain before its first step. -/
def fresh (spec : DomainSpec) (w : σ) : Attempt σ := ⟨w, { domain := spec.name }, []⟩

theorem steps_passGates (w : σ) :
    (passGates env spec (fresh spec w)).log.steps = (env.course spec spec.plan w).1 :=
  (passGates_follows env spec (fresh spec w)).steps

theorem world_passGates (w : σ) :
    (passGates env spec (fresh spec w)).world = (env.course spec spec.plan w).2 :=
  (passGates_follows env spec (fresh spec w)).world

theorem domain_passGates (w : σ) :
    (passGates env spec (fresh spec w)).run.domain = spec.name :=
  (passGates_follows env spec (fresh spec w)).domain

/-- A run is done, and without a failure, exactly if it can go on after each step of its plan. -/
theorem passGates_done_iff (w : σ) :
    ((passGates env spec (fresh spec w)).run.stage = .done ↔ env.favours spec spec.plan w) ∧
      ((passGates env spec (fresh spec w)).run.failure = none ↔ env.favours spec spec.plan w) := by
  have hf := passGates_follows env spec (fresh spec w)
  cases hw : env.favours spec spec.plan w with
  | true =>
    obtain ⟨hs, hn⟩ := hf.well hw
    have hnone : (passGates env spec (fresh spec w)).run.failure = none := hn
    exact ⟨by simp [hs], by simp [hnone]⟩
  | false =>
    obtain ⟨hs, hn⟩ := hf.ill hw
    exact ⟨by simp [hs], by simpa [Option.isSome_iff_ne_none] using hn⟩

end Attempt

theorem migrate_of_lookup (env : Environment σ) {g : DomainGraph} {text : String}
    {spec : DomainSpec} (h : g.lookup text = .ok spec) (w : σ) :
    migrate env g text w = .ok (Attempt.passGates env spec (.fresh spec w)) := by
  simp only [migrate, h]
  rfl

end Cutover
