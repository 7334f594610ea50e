import Cutover.Proofs.Rollout.Gates
import Mathlib.Data.List.Basic

/-!
# What is told of a run

Those who follow a run are told of each call right before it is made, and of each gate when its
outcome is written down. So a run, the looks aside, is written down gate by gate: the calls made for
a gate, each after the event that tells of it, and then the outcome of the gate. Each move keeps
this, and so does a whole run.
-/
namespace Cutover

/-- The outcome that an event tells of, if it tells of a gate. -/
def Event.outcome? : Event → Option GateOutcome
  | gate o => some o
  | _ => none

@[simp] theorem Event.outcome?_gate (o : GateOutcome) : (gate o).outcome? = some o := rfl

@[simp] theorem Call.outcome?_event (c : Call) : c.event.outcome? = none := by cases c <;> rfl

/-- What is written down of a call: the event that tells of it, and the call with its reply. -/
def exchange (x : Call × Reply) : Transcript := [.event x.1.event, .call x.1 x.2]

namespace GateOutcome

variable (answers : List (Call × Reply)) (o : GateOutcome)

/-- The calls made for a gate, with their replies. -/
def own : List (Call × Reply) := answers.filter (·.1.gate = o.gate)

/-- What is written down of a gate: the calls made for it, and its outcome. -/
def entries : Transcript := (o.own answers).flatMap exchange ++ [.event (.gate o)]

/-- What is told of a gate. -/
def events : List Event := (o.own answers).map (·.1.event) ++ [.gate o]

theorem filter_events :
    (o.events answers).filter (·.outcome?.isNone) = (o.own answers).map (·.1.event) := by
  simp [events, List.filter_append, List.filter_map, Function.comp_def]

theorem filterMap_events : (o.events answers).filterMap Event.outcome? = [o] := by
  simp [events, List.filterMap_append, List.filterMap_map]

end GateOutcome

namespace Transcript

section Outward

/-- The events and calls of a transcript. -/
def outward (t : Transcript) : Transcript :=
  t.filter fun
    | .look _ _ => false
    | _ => true

variable {t u : Transcript}

@[simp] theorem outward_append : outward (t ++ u) = outward t ++ outward u := by simp [outward]

@[simp] theorem answers_append : answers (t ++ u) = answers t ++ answers u := by simp [answers]

theorem filterMap_outward_of {β : Type} {f : Entry → Option β} (hf : ∀ g b, f (.look g b) = none)
    (t : Transcript) : t.outward.filterMap f = t.filterMap f := by
  refine filterMap_filter_of (fun e he => ?_) t
  cases e with
  | event e => cases he
  | look gate cancelled => exact hf gate cancelled
  | call c r => cases he

theorem events_outward (t : Transcript) : events t.outward = t.events :=
  filterMap_outward_of (fun _ _ => rfl) t

theorem answers_outward (t : Transcript) : answers t.outward = t.answers :=
  filterMap_outward_of (fun _ _ => rfl) t

theorem events_exchanges (xs : List (Call × Reply)) :
    events (xs.flatMap exchange) = xs.map (·.1.event) := by
  induction xs with
  | nil => rfl
  | cons x xs ih => exact congrArg (x.1.event :: ·) ih

theorem answers_exchanges (xs : List (Call × Reply)) : answers (xs.flatMap exchange) = xs := by
  induction xs with
  | nil => rfl
  | cons x xs ih => exact congrArg (x :: ·) ih

end Outward

section Announced

/-- Whether each call of a transcript comes right after the event that tells of it. -/
def Announced (t : Transcript) : Prop :=
  ∀ front c r rest, t = front ++ .call c r :: rest → front.getLast? = some (.event c.event)

theorem announced_nil : Announced [] := by simp [Announced]

theorem announced_event (e : Event) : Announced [.event e] := by
  intro front c r rest h
  cases front <;> simp at h

theorem announced_exchange (x : Call × Reply) : Announced (exchange x) := by
  intro front c r rest h
  match front with
  | [] => simp [exchange] at h
  | [_] =>
    simp only [exchange, List.cons_append, List.nil_append, List.cons.injEq] at h
    obtain ⟨rfl, hcall, -⟩ := h
    simp [Entry.call.inj hcall]
  | _ :: _ :: front => simp [exchange] at h

theorem Announced.append {t u : Transcript} (ht : Announced t) (hu : Announced u) :
    Announced (t ++ u) := by
  intro front c r rest h
  rcases List.append_eq_append_iff.mp h with ⟨x, rfl, hx⟩ | ⟨x, rfl, hx⟩
  · rw [List.getLast?_append, hu x c r rest hx, Option.some_or]
  · cases x with
    | nil => simpa using hu [] c r rest hx.symm
    | cons y x =>
      obtain ⟨rfl, -⟩ := List.cons.inj hx
      exact ht front c r x rfl

theorem announced_flatMap {α : Type} {f : α → Transcript} (h : ∀ x, Announced (f x))
    (l : List α) : Announced (l.flatMap f) := by
  induction l with
  | nil => exact announced_nil
  | cons x l ih => exact (h x).append ih

end Announced

end Transcript

theorem GateOutcome.announced_entries (answers : List (Call × Reply)) (o : GateOutcome) :
    Transcript.Announced (o.entries answers) :=
  (Transcript.announced_flatMap Transcript.announced_exchange _).append
    (Transcript.announced_event _)

section ByGates

variable {t : Transcript} {gates : List GateOutcome}
  (h : t.outward = gates.flatMap (·.entries t.answers))

include h

/-- The calls of a transcript that is written gate by gate are those of its gates. -/
theorem Transcript.answers_eq_flatMap : t.answers = gates.flatMap (·.own t.answers) := by
  have hanswers := answers_outward t
  rw [h, answers, List.filterMap_flatMap] at hanswers
  refine hanswers.symm.trans (List.flatMap_congr fun o _ => ?_)
  exact (answers_append ..).trans ((List.append_nil _).trans (answers_exchanges _))

theorem Transcript.events_eq_flatMap : t.events = gates.flatMap (·.events t.answers) := by
  have hevents := events_outward t
  rw [h, events, List.filterMap_flatMap] at hevents
  refine hevents.symm.trans (List.flatMap_congr fun o _ => ?_)
  exact (events_append ..).trans (congrArg (· ++ [.gate o]) (events_exchanges _))

/-- The events of such a transcript that tell of no gate tell of its calls, in their order. -/
theorem Transcript.filter_events :
    t.events.filter (·.outcome?.isNone) = t.calls.map Call.event := by
  calc t.events.filter (·.outcome?.isNone)
      = gates.flatMap fun o => (o.own t.answers).map (·.1.event) := by
        simp only [events_eq_flatMap h, List.filter_flatMap, GateOutcome.filter_events]
    _ = t.answers.map (·.1.event) := by rw [← List.map_flatMap, ← answers_eq_flatMap h]
    _ = t.calls.map Call.event := by rw [calls_eq_map_answers, List.map_map]; rfl

/-- The other events of such a transcript tell of its gates. -/
theorem Transcript.filterMap_events : t.events.filterMap Event.outcome? = gates := by
  simp [events_eq_flatMap h, List.filterMap_flatMap, GateOutcome.filterMap_events]

/-- Such a transcript ends with its last gate. -/
theorem Transcript.getLast?_events : t.events.getLast? = gates.getLast?.map .gate := by
  rw [events_eq_flatMap h]
  rcases List.eq_nil_or_concat gates with rfl | ⟨gates, o, rfl⟩
  · rfl
  · simp [GateOutcome.events, ← List.append_assoc]

end ByGates

/-- The next gate does not lie behind a stage. -/
theorem Stage.not_mem_behind_of_next {s g : Stage} (hn : s.next? = some g) : g ∉ s.behind := by
  cases s <;> simp only [next?, Option.some.injEq, reduceCtorEq] at hn <;> subst hn <;> decide

/-- No call is made on the way to a stage that has no gate. -/
theorem Call.gate_mem_gates (c : Call) : c.gate ∈ Stage.gates := by
  cases c <;> simp [gate, Stage.gates]

namespace Attempt

variable {σ : Type} {env : Environment σ} {spec : DomainSpec} {a b : Attempt σ}

section Answers

@[simp] theorem answers_tell (a : Attempt σ) (e : Event) :
    (a.tell e).log.answers = a.log.answers := by
  simp [tell, Transcript.answers, Entry.answer?]

@[simp] theorem answers_heard (a : Attempt σ) (c : Call) (r : Reply) (w : σ) :
    (a.heard c r w).log.answers = a.log.answers ++ [(c, r)] := by
  simp [heard, Transcript.answers, Entry.answer?]

@[simp] theorem answers_looked (a : Attempt σ) (g : Stage) (b : Bool) (w : σ) :
    (a.looked g b w).log.answers = a.log.answers := by
  simp [looked, Transcript.answers, Entry.answer?]

@[simp] theorem outward_tell (a : Attempt σ) (e : Event) :
    (a.tell e).log.outward = a.log.outward ++ [.event e] := by
  simp [tell, Transcript.outward]

@[simp] theorem outward_heard (a : Attempt σ) (c : Call) (r : Reply) (w : σ) :
    (a.heard c r w).log.outward = a.log.outward ++ [.call c r] := by
  simp [heard, Transcript.outward]

@[simp] theorem outward_looked (a : Attempt σ) (g : Stage) (b : Bool) (w : σ) :
    (a.looked g b w).log.outward = a.log.outward := by
  simp [looked, Transcript.outward]

end Answers

/-- Whether the outcome of a gate has been written down. -/
def Decided (a : Attempt σ) (gate : Stage) : Prop := gate ∈ a.run.gates.map (·.gate)

instance (a : Attempt σ) (gate : Stage) : Decidable (a.Decided gate) :=
  inferInstanceAs (Decidable (_ ∈ _))

@[simp] theorem decided_looked (a : Attempt σ) (g : Stage) (b : Bool) (w : σ) (gate : Stage) :
    (a.looked g b w).Decided gate ↔ a.Decided gate := .rfl

@[simp] theorem decided_ask (a : Attempt σ) (e : Event) (c : Call) (r : Reply) (w : σ)
    (gate : Stage) : ((a.tell e).heard c r w).Decided gate ↔ a.Decided gate := .rfl

theorem UnderWay.not_decided (h : UnderWay a) {gate : Stage} (hn : a.run.stage.next? = some gate) :
    ¬a.Decided gate := by
  rw [Decided, h.gates]
  exact Stage.not_mem_behind_of_next hn

/-- A run is written down gate by gate, and the calls made since the last gate are for the next. -/
structure Orderly (a : Attempt σ) : Prop where
  outward : a.log.outward = a.run.gates.flatMap (·.entries a.log.answers) ++
    (a.log.answers.filter fun x => ¬a.Decided x.1.gate).flatMap exchange
  next : ∀ x ∈ a.log.answers, ¬a.Decided x.1.gate → a.run.stage.next? = some x.1.gate

namespace Orderly

theorem fresh (spec : DomainSpec) (w : σ) : Orderly (.fresh spec w) where
  outward := rfl
  next x hx := by simp [Attempt.fresh, Transcript.answers] at hx

/-- A call is made for the next gate. -/
theorem ask (h : Orderly a) {c : Call} (r : Reply) (w : σ) (hn : a.run.stage.next? = some c.gate)
    (hnot : ¬a.Decided c.gate) : Orderly ((a.tell c.event).heard c r w) where
  outward := by
    -- the call is added to those of no gate that is decided
    have hentries : ∀ o ∈ a.run.gates,
        o.entries (a.log.answers ++ [(c, r)]) = o.entries a.log.answers := by
      intro o ho
      have hne : c.gate ≠ o.gate := fun he => hnot (he ▸ List.mem_map_of_mem ho)
      simp [GateOutcome.entries, GateOutcome.own, hne]
    simp only [outward_heard, outward_tell, h.outward, answers_heard, answers_tell, run_heard,
      run_tell, List.flatMap_congr hentries, decided_ask, List.filter_append]
    simp [hnot, exchange]
  next := by
    intro x hx hnx
    simp only [answers_heard, answers_tell, List.mem_append, List.mem_singleton] at hx
    rcases hx with hx | rfl
    · exact h.next x hx hnx
    · exact hn

/-- A gate is decided: the calls made since the last one are its calls. -/
theorem settle (h : Orderly a) {o : GateOutcome} (hn : a.run.stage.next? = some o.gate)
    (hnot : ¬a.Decided o.gate) (hlog : b.log = a.log ++ [.event (.gate o)])
    (hgates : b.run.gates = a.run.gates ++ [o]) : Orderly b := by
  have hanswers : b.log.answers = a.log.answers := by simp [hlog, Transcript.answers, Entry.answer?]
  have hsame : ∀ x ∈ a.log.answers, ¬a.Decided x.1.gate ↔ x.1.gate = o.gate := by
    intro x hx
    constructor
    · intro hnx
      exact Option.some.inj ((h.next x hx hnx).symm.trans hn)
    · intro he
      rwa [he]
  have hall : ∀ x ∈ a.log.answers, b.Decided x.1.gate := by
    intro x hx
    rw [Decided, hgates, List.map_append, List.mem_append]
    by_cases hd : a.Decided x.1.gate
    · exact .inl hd
    · exact .inr (by simpa using (hsame x hx).mp hd)
  constructor
  · have hown : (a.log.answers.filter fun x => ¬a.Decided x.1.gate) =
        a.log.answers.filter (·.1.gate = o.gate) :=
      List.filter_congr fun x hx => decide_eq_decide.mpr (hsame x hx)
    have hnone : (a.log.answers.filter fun x => ¬b.Decided x.1.gate) = [] := by
      simpa using fun c r hx => hall (c, r) hx
    rw [hanswers, hnone, hgates, hlog, Transcript.outward_append, h.outward, hown]
    simp [GateOutcome.entries, GateOutcome.own, Transcript.outward]
  · intro x hx hnx
    exact absurd (hall x (hanswers ▸ hx)) hnx

/-- Each move of a run under way keeps it orderly. -/
theorem move (h : Orderly a) (hu : UnderWay a) (hm : Move env spec a b) : Orderly b := by
  cases hm with
  | look cancelled w hn =>
    exact ⟨by simpa using h.outward, by simpa using h.next⟩
  | ask c r w hn => exact h.ask r w hn (hu.not_decided hn)
  | pass hg hn => exact h.settle hn (hu.not_decided hn) rfl rfl
  | warn reason hg hc hn => exact h.settle hn (hu.not_decided hn) rfl rfl
  | stop he hf hc hn => exact h.settle hn (hu.not_decided hn) rfl rfl
  | finish hs =>
    refine ⟨h.outward, fun x hx hnx => ?_⟩
    have hnext := h.next x hx hnx
    have hgate := x.1.gate_mem_gates
    rw [hs] at hnext
    rw [← Option.some.inj hnext] at hgate
    simp [Stage.gates] at hgate

end Orderly

/-- Moves lead from an orderly run under way to an orderly one. -/
theorem Moves.orderly (h : Moves env spec a b) (hu : UnderWay a) (ha : Orderly a) : Orderly b := by
  induction h with
  | refl => exact ha
  | tail hmoves hm ih =>
    rcases Moves.underWay_or_stopped hmoves hu with hu' | ⟨f, hs⟩
    · exact ih.move hu' hm
    · have ht := hm.isTerminal_eq_false
      simp [hs.stage, Stage.isTerminal] at ht

/-- An orderly run that has come to its end is written down gate by gate as a whole. -/
theorem Orderly.outward_eq (h : Orderly a) (hn : a.run.stage.next? = none) :
    a.log.outward = a.run.gates.flatMap (·.entries a.log.answers) := by
  have hnone : (a.log.answers.filter fun x => ¬a.Decided x.1.gate) = [] := by
    refine List.filter_eq_nil_iff.mpr fun x hx hnx => ?_
    have hnext := h.next x hx (by simpa using hnx)
    rw [hn] at hnext
    cases hnext
  rw [h.outward, hnone, List.flatMap_nil, List.append_nil]

theorem outward_passGates (env : Environment σ) (spec : DomainSpec) (w : σ) :
    let a := passGates env spec (.fresh spec w)
    a.log.outward = a.run.gates.flatMap (·.entries a.log.answers) := by
  refine (Moves.orderly (passGates_moves env spec w) (.fresh spec w)
    (.fresh spec w)).outward_eq ?_
  rcases stage_passGates env spec w with hs | hs <;> rw [hs] <;> rfl

theorem gates_passGates_ne_nil (env : Environment σ) (spec : DomainSpec) (w : σ) :
    (passGates env spec (.fresh spec w)).run.gates ≠ [] := by
  intro hnil
  rcases underWay_or_stopped_passGates env spec w with hu | ⟨f, hs⟩
  · have hdone := (stage_passGates env spec w).resolve_right hu.stage
    have hgates := (hu.of_done hdone).1
    simp [hnil, Stage.gates] at hgates
  · obtain ⟨o, ho, -⟩ := hs.last
    simp [hnil] at ho

end Attempt

/-- Those who follow a run are told of each call, in the order of the calls and right before each is
made, and of each gate as it is written down in the run. The calls made for a gate are told of
before it and after the gate before, and the last that is told is the outcome of a gate. -/
theorem migrate_progress {σ : Type} (env : Environment σ) (g : DomainGraph) (text : String) (w : σ)
    (spec : DomainSpec) (h : g.lookup text = .ok spec) :
    ∃ a, migrate env g text w = .ok a ∧
      a.log.events.filter (·.outcome?.isNone) = a.log.calls.map Call.event ∧
      a.log.outward.Announced ∧
      a.log.events.filterMap Event.outcome? = a.run.gates ∧
      a.log.outward = a.run.gates.flatMap (·.entries a.log.answers) ∧
      ∃ o, a.run.gates.getLast? = some o ∧ a.log.events.getLast? = some (.gate o) := by
  have hout := Attempt.outward_passGates env spec w
  have hne := Attempt.gates_passGates_ne_nil env spec w
  refine ⟨_, migrate_of_lookup env h w, ?_⟩
  generalize Attempt.passGates env spec (.fresh spec w) = a at hout hne
  refine ⟨Transcript.filter_events hout, ?_, Transcript.filterMap_events hout, hout, ?_⟩
  · rw [hout]
    exact Transcript.announced_flatMap (GateOutcome.announced_entries _) _
  · have hlast := List.getLast?_eq_some_getLast hne
    exact ⟨_, hlast, by rw [Transcript.getLast?_events hout, hlast, Option.map_some]⟩

/-- The tests fail and the run is cancelled while they are made: the last gate has no call. -/
theorem migrate_progress_inventory :
    let env := Session.environment { Collaborators.helpful with
      runTests := fun _ _ => .failed "2 of 14 tests failed"
      cancels := fun _ c => c = .test .inventory } [] "state.json"
    DomainGraph.builtin.lookup "inventory" = .ok DomainGraph.builtin.specs[2] ∧
      ∃ a, migrate env .builtin "inventory" ⟨.empty, false, []⟩ = .ok a ∧
        a.log.events.filter (·.outcome?.isNone) =
          [.migrating ⟨.sqlmesh, "dwd.inventory_fact"⟩,
            .migrating ⟨.sqlmesh, "dws.inventory_daily"⟩,
            .migrating ⟨.dbt, "staging.inventory.*"⟩, .testing] ∧
        a.log.outward.Announced ∧ a.log.events.filterMap Event.outcome? = a.run.gates ∧
        a.run.gates.map (·.gate) = Stage.gates := by
  intro env
  have h : DomainGraph.builtin.lookup "inventory" = .ok DomainGraph.builtin.specs[2] := rfl
  obtain ⟨a, ha, hcalls, hannounced, hgates, -⟩ :=
    migrate_progress env .builtin "inventory" ⟨.empty, false, []⟩ _ h
  have hend : (migrate env .builtin "inventory" ⟨.empty, false, []⟩).map
      (fun a => (a.log.calls.map Call.event, a.run.gates.map (·.gate))) =
        .ok ([.migrating ⟨.sqlmesh, "dwd.inventory_fact"⟩,
          .migrating ⟨.sqlmesh, "dws.inventory_daily"⟩,
          .migrating ⟨.dbt, "staging.inventory.*"⟩, .testing], Stage.gates) := by
    decide +kernel
  rw [ha] at hend
  obtain ⟨hevents, hstages⟩ := Prod.mk.inj (Except.ok.inj hend)
  exact ⟨h, a, ha, hcalls.trans hevents, hannounced, hgates, hstages⟩

end Cutover
