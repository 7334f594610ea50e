import Cutover.Proofs.Rollout.Course
import Cutover.Rollout.Session
import Mathlib.Tactic.Common

/-!
# The order of calls

The calls of a run are the first ones of a fixed list: a question for each prerequisite, an order
for each model, the tests, the verification. A call is followed by another only if its reply
was the one hoped for, the tests excepted.
-/
namespace Cutover

/-- The calls of a run that nothing stops. -/
def DomainSpec.calls (spec : DomainSpec) : List Call :=
  spec.dependsOn.map .state ++
    (spec.sqlmeshModels.map (.run ⟨.sqlmesh, ·⟩) ++ spec.dbtModels.map (.run ⟨.dbt, ·⟩)) ++
      [.test spec.name, .verify spec.name]

/-- The reply after which a run goes on. -/
def Call.hoped : Call → Reply
  | state _ => .migrated true
  | _ => .step .passed

/-- The call that a step is, unless it is a look. -/
def Step.call? : Step → Option Call
  | look _ => none
  | call c => some c

theorem Entry.answer?_map (e : Entry) : e.answer?.map (·.1) = e.step?.bind Step.call? := by
  cases e <;> rfl

theorem DomainSpec.filterMap_orders (ms : List Model) :
    (orders ms).filterMap Step.call? = ms.map .run := by
  induction ms with
  | nil => rfl
  | cons m ms ih =>
    have ho : orders (m :: ms) = .look .modelsMigrated :: .call (.run m) :: orders ms := rfl
    simp [ho, List.filterMap_cons, Step.call?, ih]

theorem DomainSpec.filterMap_plan (spec : DomainSpec) :
    spec.plan.filterMap Step.call? = spec.calls := by
  have hq : spec.questions.filterMap Step.call? = spec.dependsOn.map .state := by
    simp [questions, List.filterMap_map, Function.comp_def, Step.call?]
  simp [plan, calls, List.filterMap_cons, hq, filterMap_orders, Step.call?, models,
    Function.comp_def]

/-- A call whose reply was the one hoped for, or whose reply does not matter. -/
def GoodAnswer (x : Call × Reply) : Prop := x.2 = x.1.hoped ∨ ∃ d, x.1 = .test d

variable {σ : Type}

theorem Environment.goodAnswer_take (env : Environment σ) (spec : DomainSpec) (s : Step) (w : σ)
    (hs : (env.take spec s w).1.goesOn) (x : Call × Reply)
    (hx : (env.take spec s w).1.answer? = some x) : GoodAnswer x := by
  cases s with
  | look gate => simp [take, Entry.answer?] at hx
  | call c =>
    cases c with
    | state d =>
      obtain rfl : _ = x := by simpa only [take, Entry.answer?, Option.some.injEq] using hx
      left
      cases hd : (env.isMigrated d w).1 with
      | ok yes => simpa [take, hd, Entry.goesOn, Reply.isPositive, Call.hoped] using hs
      | error e => simp [take, hd, Entry.goesOn, Reply.isPositive] at hs
    | test d =>
      obtain rfl : _ = x := by simpa only [take, Entry.answer?, Option.some.injEq] using hx
      exact .inr ⟨d, rfl⟩
    | run m =>
      obtain rfl : _ = x := by simpa only [take, Entry.answer?, Option.some.injEq] using hx
      left
      simpa [take, Entry.goesOn, Reply.isPositive, Call.hoped] using hs
    | verify d =>
      obtain rfl : _ = x := by simpa only [take, Entry.answer?, Option.some.injEq] using hx
      left
      simpa [take, Entry.goesOn, Reply.isPositive, Call.hoped] using hs

/-- In a list of answers that begins like `P`, an answer to a call that is not in `P` comes after
all calls of `P`, each answered as hoped for. -/
theorem hoped_prefix {P Q : List Call} {l : List (Call × Reply)} {c : Call}
    (hl : l.map (·.1) <+: P ++ Q) (hg : l.Pairwise fun x _ => GoodAnswer x)
    (ht : ∀ d, .test d ∉ P) (hc : c ∈ l.map (·.1)) (hn : c ∉ P) :
    P.map (fun c => (c, c.hoped)) <+: l := by
  have hlen : P.length < l.length := by
    apply Nat.lt_of_not_le
    intro hle
    have hp : l.map (·.1) <+: P :=
      List.prefix_of_prefix_length_le hl (List.prefix_append P Q) (by simpa using hle)
    exact hn (hp.subset hc)
  have hP : (l.take P.length).map (·.1) = P := by
    have h := List.prefix_iff_eq_take.mp hl
    rw [List.map_take, h, List.take_take, List.length_map, Nat.min_eq_left (Nat.le_of_lt hlen)]
    exact List.take_left
  have hgood : ∀ x ∈ l.take P.length, x.2 = x.1.hoped := by
    intro x hx
    have hs := List.pairwise_append.mp (by rwa [List.take_append_drop P.length l] :
      (l.take P.length ++ l.drop P.length).Pairwise fun x _ => GoodAnswer x)
    have hd : l.drop P.length ≠ [] := by simpa using hlen
    obtain ⟨y, hy⟩ := List.exists_mem_of_ne_nil _ hd
    refine (hs.2.2 x hx y hy).resolve_right ?_
    rintro ⟨d, hd⟩
    apply ht d
    rw [← hP, ← hd]
    exact List.mem_map_of_mem hx
  have he : P.map (fun c => (c, c.hoped)) = l.take P.length := by
    conv_lhs => rw [← hP]
    rw [List.map_map]
    conv_rhs => rw [← List.map_id (l.take P.length)]
    apply List.map_congr_left
    intro x hx
    exact Prod.ext rfl (hgood x hx).symm
  rw [he]
  exact List.take_prefix _ _

namespace Attempt

variable (env : Environment σ) (spec : DomainSpec) (w : σ)

theorem answers_passGates : (passGates env spec (fresh spec w)).log.answers =
    (env.course spec spec.plan w).1.filterMap Entry.answer? := by
  rw [← Transcript.answers_steps, steps_passGates]
  rfl

theorem map_answers_prefix :
    (passGates env spec (fresh spec w)).log.answers.map (·.1) <+: spec.calls := by
  have hp := (env.course_prefix spec spec.plan w).filterMap Step.call?
  rw [DomainSpec.filterMap_plan, List.filterMap_filterMap] at hp
  rw [answers_passGates, List.map_filterMap]
  simpa only [Entry.answer?_map] using hp

theorem answers_pairwise :
    (passGates env spec (fresh spec w)).log.answers.Pairwise fun x _ => GoodAnswer x := by
  rw [answers_passGates, List.pairwise_filterMap]
  have hc := env.course_pairwise spec (P := fun e => ∀ x, e.answer? = some x → GoodAnswer x)
    (env.goodAnswer_take spec) spec.plan w
  exact hc.imp fun he x hx _ _ => he x hx

end Attempt

/-- A run takes the steps of its plan in its surroundings. Its calls are those of `calls`, in
order, up to some point, and each but the last has the reply hoped for, the tests excepted: no
model runs unless every prerequisite is migrated, and no test unless every model passed. -/
theorem migrate_calls (env : Environment σ) (g : DomainGraph) (text : String) (w : σ)
    (spec : DomainSpec) (h : g.lookup text = .ok spec) :
    ∃ a, migrate env g text w = .ok a ∧
      a.log.steps = (env.course spec spec.plan w).1 ∧
      a.log.calls <+: spec.calls ∧
      (a.log.answers.Pairwise fun x _ => x.2 = x.1.hoped ∨ ∃ d, x.1 = .test d) ∧
      (∀ m, .run m ∈ a.log.calls →
        spec.dependsOn.map (fun d => (.state d, .migrated true)) <+: a.log.answers) ∧
      (∀ d, .test d ∈ a.log.calls →
        spec.dependsOn.map (fun d => (.state d, .migrated true)) ++
          spec.models.map (fun m => (.run m, .step .passed)) <+: a.log.answers) := by
  have hp := Attempt.map_answers_prefix env spec w
  have hg := Attempt.answers_pairwise env spec w
  refine ⟨_, migrate_of_lookup env h w, Attempt.steps_passGates env spec w, ?_, hg, ?_, ?_⟩
  · rwa [Transcript.calls_eq_map_answers]
  · intro m hm
    rw [Transcript.calls_eq_map_answers] at hm
    have hq := hoped_prefix (P := spec.dependsOn.map .state) (by simpa [DomainSpec.calls] using hp)
      hg (by simp) hm (by simp)
    simpa [Call.hoped, Function.comp_def] using hq
  · intro d hd
    rw [Transcript.calls_eq_map_answers] at hd
    have hq := hoped_prefix (P := spec.dependsOn.map .state ++ spec.models.map .run)
      (by simpa [DomainSpec.calls, DomainSpec.models, Function.comp_def] using hp) hg (by simp) hd
      (by simp)
    simpa [Call.hoped, Function.comp_def] using hq

theorem migrate_calls_production :
    DomainGraph.builtin.lookup " Production" = .ok DomainGraph.builtin.specs[1] ∧
      ∃ a, migrate (Session.environment .helpful [] "state.json") .builtin " Production"
          { files := .empty } = .ok a ∧
        a.log.calls <+: [.state .sales, .run ⟨.sqlmesh, "dwd.production_fact"⟩,
          .run ⟨.sqlmesh, "dws.production_daily"⟩, .run ⟨.dbt, "staging.production.*"⟩,
          .test .production, .verify .production] ∧
        ∀ m, .run m ∈ a.log.calls → [(.state .sales, .migrated true)] <+: a.log.answers := by
  have h : DomainGraph.builtin.lookup " Production" = .ok DomainGraph.builtin.specs[1] := rfl
  obtain ⟨a, ha, -, hc, -, hm, -⟩ := migrate_calls
    (Session.environment .helpful [] "state.json") .builtin " Production" { files := .empty } _ h
  exact ⟨h, a, ha, hc, hm⟩

end Cutover
