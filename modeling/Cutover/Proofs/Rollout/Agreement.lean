import Cutover.Rollout.Session

/-!
# Runs in surroundings that agree

A run learns of its surroundings by its looks and calls alone. If two surroundings give the same
answers to all that a run of a domain asks of them, it is the same run with the same transcript in
both, whatever else they differ in.
-/
namespace Cutover

variable {σ τ : Type}

/-- The same answer in two surroundings that are related after it. -/
def SameAnswer {α : Type} (R : σ → τ → Prop) (x : α × σ) (y : α × τ) : Prop :=
  ∃ answer w w', x = (answer, w) ∧ y = (answer, w') ∧ R w w'

/-- Surroundings that, while they are related, give the same answers to all that a run of the domain
asks of them, and stay related. Other domains may have got another answer. -/
structure Environment.Agrees (R : σ → τ → Prop) (spec : DomainSpec) (env : Environment σ)
    (env' : Environment τ) : Prop where
  now : ∀ w w', R w w' → env.now w = env'.now w'
  cancelled : ∀ gate w w', R w w' → SameAnswer R (env.cancelled gate w) (env'.cancelled gate w')
  isMigrated : ∀ d ∈ spec.dependsOn, ∀ w w', R w w' →
    SameAnswer R (env.isMigrated d w) (env'.isMigrated d w')
  runModel : ∀ m w w', R w w' → SameAnswer R (env.runModel m w) (env'.runModel m w')
  runTests : ∀ w w', R w w' →
    SameAnswer R (env.runTests spec.name w) (env'.runTests spec.name w')
  verify : ∀ w w', R w w' → SameAnswer R (env.verify spec w) (env'.verify spec w')

namespace Attempt

/-- Two runs under way that differ in nothing but their surroundings, and these are related. -/
structure Mirrors (R : σ → τ → Prop) (a : Attempt σ) (b : Attempt τ) : Prop where
  world : R a.world b.world
  run : a.run = b.run
  log : a.log = b.log

namespace Mirrors

variable {R : σ → τ → Prop} {spec : DomainSpec} {env : Environment σ} {env' : Environment τ}
  {a : Attempt σ} {b : Attempt τ}

theorem tell (h : Mirrors R a b) (e : Event) : Mirrors R (a.tell e) (b.tell e) where
  world := h.world
  run := h.run
  log := by simp [Attempt.tell, h.log]

theorem heard (h : Mirrors R a b) (c : Call) (r : Reply) {w : σ} {w' : τ} (hw : R w w') :
    Mirrors R (a.heard c r w) (b.heard c r w') where
  world := hw
  run := h.run
  log := by simp [Attempt.heard, h.log]

theorem looked (h : Mirrors R a b) (gate : Stage) (cancelled : Bool) {w : σ} {w' : τ}
    (hw : R w w') : Mirrors R (a.looked gate cancelled w) (b.looked gate cancelled w') where
  world := hw
  run := h.run
  log := by simp [Attempt.looked, h.log]

theorem complete (h : Mirrors R a b) :
    Mirrors R { a with run := a.run.complete } { b with run := b.run.complete } where
  world := h.world
  run := congrArg Run.complete h.run
  log := h.log

theorem andThen {f : Attempt σ → Attempt σ} {f' : Attempt τ → Attempt τ} (h : Mirrors R a b)
    (hf : ∀ {a b}, Mirrors R a b → Mirrors R (f a) (f' b)) :
    Mirrors R (a.andThen f) (b.andThen f') := by
  unfold Attempt.andThen
  rw [h.run]
  split
  · exact h
  · exact hf h

section

variable (ha : env.Agrees R spec env')

include ha

theorem advance (h : Mirrors R a b) (gate : Stage) (passed : Bool) (detail : Option String) :
    Mirrors R (a.advance env gate passed detail) (b.advance env' gate passed detail) := by
  have hnow := ha.now _ _ h.world
  unfold Attempt.advance
  rw [hnow, h.run]
  exact tell (a := { a with run := b.run.advance _ }) (b := { b with run := b.run.advance _ })
    ⟨h.world, rfl, h.log⟩ _

theorem abort (h : Mirrors R a b) (gate : Stage) (f : Failure) :
    Mirrors R (a.abort env gate f) (b.abort env' gate f) := by
  have hnow := ha.now _ _ h.world
  unfold Attempt.abort
  rw [hnow, h.run]
  exact tell (a := { a with run := b.run.abort _ f }) (b := { b with run := b.run.abort _ f })
    ⟨h.world, rfl, h.log⟩ _

theorem unlessCancelled {f : Attempt σ → Attempt σ} {f' : Attempt τ → Attempt τ}
    (h : Mirrors R a b) (gate : Stage) (hf : ∀ {a b}, Mirrors R a b → Mirrors R (f a) (f' b)) :
    Mirrors R (a.unlessCancelled env gate f) (b.unlessCancelled env' gate f') := by
  obtain ⟨cancelled, w, w', hx, hy, hw⟩ := ha.cancelled gate _ _ h.world
  unfold Attempt.unlessCancelled
  rw [hx, hy]
  cases cancelled with
  | true => exact (h.looked _ _ hw).abort ha _ _
  | false => exact hf (h.looked _ _ hw)

theorem checkPrerequisites {ds : List Domain} (hds : ∀ d ∈ ds, d ∈ spec.dependsOn)
    (h : Mirrors R a b) :
    Mirrors R (checkPrerequisites env spec ds a) (checkPrerequisites env' spec ds b) := by
  induction ds generalizing a b with
  | nil => exact h.advance ha _ _ _
  | cons d ds ih =>
    obtain ⟨hd, hrest⟩ := List.forall_mem_cons.mp hds
    obtain ⟨answer, w, w', hx, hy, hw⟩ := ha.isMigrated d hd _ _ h.world
    unfold Attempt.checkPrerequisites
    rw [hx, hy]
    cases answer with
    | error e => exact ((h.tell _).heard _ _ hw).abort ha _ _
    | ok yes =>
      cases yes with
      | true => exact ih hrest ((h.tell _).heard _ _ hw)
      | false => exact ((h.tell _).heard _ _ hw).abort ha _ _

theorem runModels (ms : List Model) (h : Mirrors R a b) :
    Mirrors R (runModels env spec ms a) (runModels env' spec ms b) := by
  induction ms generalizing a b with
  | nil => exact h.advance ha _ _ _
  | cons m ms ih =>
    apply h.unlessCancelled ha
    intro a b h
    obtain ⟨outcome, w, w', hx, hy, hw⟩ := ha.runModel m _ _ h.world
    rw [hx, hy]
    cases outcome with
    | passed => exact ih ((h.tell _).heard _ _ hw)
    | failed reason => exact ((h.tell _).heard _ _ hw).abort ha _ _

theorem runTests (h : Mirrors R a b) :
    Mirrors R (runTests env spec a) (runTests env' spec b) := by
  obtain ⟨outcome, w, w', hx, hy, hw⟩ := ha.runTests _ _ h.world
  unfold Attempt.runTests
  rw [hx, hy]
  cases outcome <;> exact ((h.tell _).heard _ _ hw).advance ha _ _ _

theorem verifyConsistency (h : Mirrors R a b) :
    Mirrors R (verifyConsistency env spec a) (verifyConsistency env' spec b) := by
  apply h.unlessCancelled ha
  intro a b h
  obtain ⟨outcome, w, w', hx, hy, hw⟩ := ha.verify _ _ h.world
  rw [hx, hy]
  cases outcome with
  | passed => exact (((h.tell _).heard _ _ hw).advance ha _ _ _).complete
  | failed reason => exact ((h.tell _).heard _ _ hw).abort ha _ _

theorem passGates (h : Mirrors R a b) :
    Mirrors R (passGates env spec a) (passGates env' spec b) := by
  apply h.unlessCancelled ha
  intro a b h
  exact (((h.checkPrerequisites ha fun _ hd => hd).andThen (runModels ha _)).andThen
    (runTests ha)).andThen (verifyConsistency ha)

end

end Mirrors

end Attempt

/-- Surroundings in two sessions agree if the sessions stay related, are cancelled together, hear
the same of the prerequisites and have collaborators who answer both of them alike. -/
theorem Session.environment_agrees {c : Collaborators} {cwd : Place} {path : String}
    {spec : DomainSpec} {R : Session → Session → Prop}
    (hlook : ∀ gate s s', R s s' → R (s.atLook c gate) (s'.atLook c gate))
    (hafter : ∀ call s s', R s s' → R (s.after c call) (s'.after c call))
    (hcancelled : ∀ s s', R s s' → s.cancelled = s'.cancelled)
    (hstate : ∀ d ∈ spec.dependsOn, ∀ s s', R s s' →
      ((environment c cwd path).isMigrated d s).1 = ((environment c cwd path).isMigrated d s').1)
    (hmodel : ∀ s s', R s s' → c.runModel s.history = c.runModel s'.history)
    (htests : ∀ s s', R s s' → c.runTests s.history = c.runTests s'.history)
    (hverify : ∀ s s', R s s' → c.verify s.history = c.verify s'.history) :
    (environment c cwd path).Agrees R spec (environment c cwd path) where
  now _ _ _ := rfl
  cancelled gate s s' h :=
    ⟨_, _, _, rfl, Prod.ext (hcancelled _ _ (hlook gate s s' h)).symm rfl, hlook gate s s' h⟩
  isMigrated d hd s s' h :=
    ⟨_, _, s'.after c (.state d), rfl, Prod.ext (hstate d hd s s' h).symm rfl,
      hafter (.state d) s s' h⟩
  runModel m s s' h :=
    ⟨_, _, _, rfl, Prod.ext (congrFun (hmodel s s' h).symm m) rfl, hafter (.run m) s s' h⟩
  runTests s s' h :=
    ⟨_, _, _, rfl, Prod.ext (congrFun (htests s s' h).symm spec.name) rfl,
      hafter (.test spec.name) s s' h⟩
  verify s s' h :=
    ⟨_, _, _, rfl, Prod.ext (congrFun (hverify s s' h).symm spec) rfl,
      hafter (.verify spec.name) s s' h⟩

end Cutover
