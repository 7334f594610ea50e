import Cutover.Proofs.Graph.Validation
import Cutover.Proofs.Rollout.Reached
import Mathlib.Data.List.Forall2

/-!
# Which sequences of requests work

Where nothing but a missing prerequisite can stand in the way, a request succeeds exactly if all
prerequisites of its domain were migrated by the requests before it, and the state file tells the
domains migrated so far. So all requests for the domains of a graph succeed exactly if they come
in an order of migration.
-/
namespace Cutover

/-- A state file that tells some domains and can be written. -/
structure StateFile.Kept (cwd : Place) (path : String) (known : DomainSet) (t : FileTree) :
    Prop where
  tells : migrated t cwd path = .ok known
  canHold : t.CanHold cwd path

namespace StateFile

variable {t : FileTree} {cwd : Place} {path : String} {known : DomainSet}

theorem Kept.of_missing (hm : t.contains cwd path = false) (hh : t.CanHold cwd path) :
    Kept cwd path ∅ t := ⟨by simp [migrated, hm], hh⟩

/-- Marking a domain adds it to what the state file tells. -/
theorem Kept.mark (h : Kept cwd path known t) (d : Domain) :
    ∃ t', StateFile.mark t cwd path d = (.ok (), t') ∧ Kept cwd path (known.insert d) t' := by
  obtain ⟨t', p, e, hmade, hl, he⟩ := h.canHold
  obtain ⟨hwrite, hfind, hhold, -⟩ :=
    FileTree.writeText_of_locate (encode (known.insert d)) hl he
  refine ⟨_, ?_, ?_, hhold⟩
  · simp only [StateFile.mark, h.tells, hmade, hwrite]
    rfl
  · rw [migrated_eq_reading hhold, hfind]
    exact reading_of_told? (told?_encode _)

end StateFile

/-- Collaborators with whom all goes well in such files: they answer, pass all models and
verifications, cancel nothing and leave the state file alone. Nothing is asked of the tests. -/
structure Collaborators.Obliging (R : FileTree → Prop) (cwd : Place) (path : String)
    (c : Collaborators) : Prop where
  answer : ∀ history d, c.stateFault history d = none
  run : ∀ history m, c.runModel history m = .passed
  verify : ∀ history spec, c.verify history spec = .passed
  cancels : ∀ history call, c.cancels history call = false
  interrupts : ∀ history gate, c.interrupts history gate = false
  alters : ∀ history call known t, R t → StateFile.Kept cwd path known t →
    StateFile.Kept cwd path known (c.alters history call t)

/-- Whether a step is one after which a run goes on if these domains are migrated. -/
def Step.Allowed (known : DomainSet) : Step → Prop
  | .call (.state d) => d ∈ known
  | _ => True

namespace Session

variable {g : DomainGraph} {cwd : Place} {path : String} {c : Collaborators} {s : Session}
  {spec : DomainSpec} {known : DomainSet} {cs : List Collaborators} {start : FileTree}

/-- A session that was not cancelled and whose state file tells these domains, with files that it
can come to. -/
structure Ready (cs : List Collaborators) (cwd : Place) (path : String) (start : FileTree)
    (known : DomainSet) (s : Session) : Prop where
  cancelled : s.cancelled = false
  reached : Reached cs cwd path start s.files
  kept : StateFile.Kept cwd path known s.files

theorem Ready.take (hmem : c ∈ cs) (hc : c.Obliging (Reached cs cwd path start) cwd path)
    (spec : DomainSpec) (step : Step) (h : Ready cs cwd path start known s) :
    Ready cs cwd path start known ((environment c cwd path).take spec step s).2 := by
  have hafter : ∀ call, Ready cs cwd path start known (s.after c call) := fun call =>
    ⟨by simp [after, h.cancelled, hc.cancels], h.reached.call hmem _ _,
      hc.alters _ _ _ _ h.reached h.kept⟩
  cases step with
  | look gate =>
    exact ⟨by simp [Environment.take, environment, atLook, h.cancelled, hc.interrupts], h.reached,
      h.kept⟩
  | call call => cases call <;> exact hafter _

theorem Ready.goesOn_iff (hc : c.Obliging (Reached cs cwd path start) cwd path)
    (spec : DomainSpec) (step : Step) (h : Ready cs cwd path start known s) :
    ((environment c cwd path).take spec step s).1.goesOn ↔ step.Allowed known := by
  cases step with
  | look gate =>
    simp [Environment.take, environment, atLook, h.cancelled, hc.interrupts, Entry.goesOn,
      Step.Allowed]
  | call call =>
    cases call with
    | state d =>
      simp [Environment.take, environment, hc.answer, StateFile.isMigrated, h.kept.tells,
        Except.map, Entry.goesOn, Reply.isPositive, Step.Allowed]
    | run m =>
      simp [Environment.take, environment, hc.run, Entry.goesOn, Reply.isPositive, Step.Allowed]
    | test d => simp [Environment.take, Entry.goesOn, Step.Allowed]
    | verify d =>
      simp [Environment.take, environment, hc.verify, Entry.goesOn, Reply.isPositive, Step.Allowed]

theorem allowed_plan_iff (spec : DomainSpec) :
    (∀ step ∈ spec.plan, step.Allowed known) ↔ ∀ d ∈ spec.dependsOn, d ∈ known := by
  constructor
  · intro h d hd
    exact h (.call (.state d)) (by simp [DomainSpec.plan, DomainSpec.questions, hd])
  · intro h step hstep
    cases step with
    | look gate => trivial
    | call call =>
      cases call with
      | state d =>
        exact h d (by simpa [DomainSpec.plan, DomainSpec.questions, DomainSpec.orders] using hstep)
      | run m | test d | verify d => trivial

/-- A run succeeds exactly if the state file tells all its prerequisites. -/
theorem isSuccess_passGates_iff (spec : DomainSpec) (hmem : c ∈ cs)
    (hc : c.Obliging (Reached cs cwd path start) cwd path) (h : Ready cs cwd path start known s) :
    (Attempt.passGates (environment c cwd path) spec (.fresh spec s)).run.isSuccess ↔
      ∀ d ∈ spec.dependsOn, d ∈ known := by
  have hdone := (Attempt.passGates_done_iff (environment c cwd path) spec s).1
  rw [← allowed_plan_iff spec, ← Environment.favours_iff_forall
    (fun step _ s hs => Ready.take hmem hc spec step hs)
    (fun step _ s hs => Ready.goesOn_iff hc spec step hs) h, ← hdone]
  simp [Run.isSuccess]

/-- A request for a domain succeeds exactly if the state file tells its prerequisites, and then
adds the domain to it. -/
theorem migrate_of_ready {text : String} (hl : g.lookup text = .ok spec) (hmem : c ∈ cs)
    (hc : c.Obliging (Reached cs cwd path start) cwd path) (h : Ready cs cwd path start known s) :
    ∃ m, (migrate g cwd path text c true s).1 = .ok m ∧ m.run.domain = spec.name ∧
      (m.run.isSuccess ↔ ∀ d ∈ spec.dependsOn, d ∈ known) ∧
      Reached cs cwd path start (migrate g cwd path text c true s).2.files ∧
      StateFile.Kept cwd path (if m.run.isSuccess then known.insert spec.name else known)
        (migrate g cwd path text c true s).2.files := by
  have hsuccess := isSuccess_passGates_iff spec hmem hc h
  have hdomain := Attempt.domain_passGates (environment c cwd path) spec s
  have hworld : Ready cs cwd path start known
      (Attempt.passGates (environment c cwd path) spec (.fresh spec s)).world := by
    rw [Attempt.world_passGates]
    exact Environment.course_induction (fun step _ s hs => Ready.take hmem hc spec step hs) h
  rw [migrate, migrate_of_lookup _ hl]
  generalize Attempt.passGates (environment c cwd path) spec (.fresh spec s) = a at *
  obtain ⟨files, hmark, hkept⟩ := hworld.kept.mark spec.name
  have hreached := hworld.reached.mark spec.name
  rw [hmark] at hreached
  cases hs : a.run.isSuccess with
  | true =>
    refine ⟨⟨a.run, a.log, some (.ok ())⟩, ?_, hdomain, by rw [← hsuccess, hs], ?_⟩
    · simp [hs, mark, hdomain, hmark]
    · simpa [hs, mark, hdomain, hmark] using ⟨hreached, hkept⟩
  | false =>
    refine ⟨⟨a.run, a.log, none⟩, ?_, hdomain, by rw [← hsuccess, hs], ?_⟩
    · simp [hs]
    · simpa [hs] using ⟨hworld.reached, hworld.kept⟩

/-- What requests come to that are served one after the other. -/
def outcomes (g : DomainGraph) (cwd : Place) (path : String) :
    List Request → Session → List (Except Error Migration)
  | [], _ => []
  | r :: requests, s =>
    (migrate g cwd path r.text r.collaborators r.marking { s with cancelled := r.cancelled }).1 ::
      outcomes g cwd path requests (serve g cwd path s r)

/-- Whether a domain was migrated by the request at a position. -/
def SucceedsAt (results : List (Except Error Migration)) (i : Nat) (d : Domain) : Prop :=
  ∃ m, results[i]? = some (.ok m) ∧ m.run.domain = d ∧ m.run.isSuccess

section SucceedsAt

variable {results : List (Except Error Migration)} {result : Except Error Migration} {d : Domain}

theorem not_succeedsAt_nil (i : Nat) : ¬SucceedsAt [] i d := by simp [SucceedsAt]

@[simp] theorem succeedsAt_succ {i : Nat} :
    SucceedsAt (result :: results) (i + 1) d ↔ SucceedsAt results i d := by simp [SucceedsAt]

theorem succeedsAt_zero {m : Migration} :
    SucceedsAt (.ok m :: results) 0 d ↔ m.run.domain = d ∧ m.run.isSuccess := by
  simp [SucceedsAt]

theorem exists_succeedsAt_cons :
    (∃ j, SucceedsAt (result :: results) j d) ↔
      SucceedsAt (result :: results) 0 d ∨ ∃ j, SucceedsAt results j d := by
  rw [← Nat.or_exists_add_one]
  simp

theorem exists_lt_succeedsAt_cons {i : Nat} :
    (∃ j < i + 1, SucceedsAt (result :: results) j d) ↔
      SucceedsAt (result :: results) 0 d ∨ ∃ j < i, SucceedsAt results j d := by
  rw [← Nat.or_exists_add_one]
  simp

end SucceedsAt

/-- The results of requests for these domains, each of which succeeds exactly if its prerequisites
are known and makes its domain known if it does: what is known before and after them. -/
inductive Grows : DomainSet → List DomainSpec → List (Except Error Migration) → DomainSet → Prop
  | nil {known : DomainSet} : Grows known [] [] known
  | cons {known last : DomainSet} {spec : DomainSpec} {asked : List DomainSpec} {m : Migration}
      {results : List (Except Error Migration)} (hdomain : m.run.domain = spec.name)
      (hsuccess : m.run.isSuccess ↔ ∀ d ∈ spec.dependsOn, d ∈ known)
      (hrest : Grows (if m.run.isSuccess then known.insert spec.name else known) asked results
        last) : Grows known (spec :: asked) (.ok m :: results) last

namespace Grows

variable {asked : List DomainSpec} {results : List (Except Error Migration)}
  {known last : DomainSet}

/-- What is known after a request was known before or is due to this request. -/
theorem mem_step_iff {m : Migration} (hdomain : m.run.domain = spec.name) {d : Domain} :
    d ∈ (if m.run.isSuccess then known.insert spec.name else known) ↔
      d ∈ known ∨ SucceedsAt (.ok m :: results) 0 d := by
  rw [succeedsAt_zero, hdomain]
  cases m.run.isSuccess <;>
    simp [Std.ExtTreeSet.mem_insert, Std.LawfulEqCmp.compare_eq_iff_eq, or_comm]

/-- What is known in the end was known at the start or is due to one of the requests. -/
theorem mem_last_iff (h : Grows known asked results last) {d : Domain} :
    d ∈ last ↔ d ∈ known ∨ ∃ j, SucceedsAt results j d := by
  induction h with
  | nil => simp [not_succeedsAt_nil]
  | cons hdomain _ _ ih => rw [ih, mem_step_iff hdomain, exists_succeedsAt_cons, or_assoc]

/-- A request succeeds exactly if each prerequisite was known or is due to an earlier request. -/
theorem succeedsAt_iff (h : Grows known asked results last) {i : Nat}
    (hi : asked[i]? = some spec) :
    SucceedsAt results i spec.name ↔
      ∀ d ∈ spec.dependsOn, d ∈ known ∨ ∃ j < i, SucceedsAt results j d := by
  induction h generalizing i with
  | nil => simp at hi
  | cons hdomain hsuccess _ ih =>
    cases i with
    | zero =>
      obtain rfl : _ = spec := by simpa using hi
      simp [succeedsAt_zero, hdomain, hsuccess]
    | succ i =>
      rw [succeedsAt_succ, ih (by simpa using hi)]
      refine forall₂_congr fun d _ => ?_
      rw [mem_step_iff hdomain, exists_lt_succeedsAt_cons, or_assoc]

/-- A domain is migrated by requests for it only. -/
theorem asked_of_succeedsAt (h : Grows known asked results last) {i : Nat} {d : Domain}
    (hs : SucceedsAt results i d) : (asked.map (·.name))[i]? = some d := by
  induction h generalizing i with
  | nil => exact (not_succeedsAt_nil i hs).elim
  | cons hdomain _ _ ih =>
    cases i with
    | zero => simpa [hdomain] using (succeedsAt_zero.mp hs).1
    | succ i => simpa using ih (succeedsAt_succ.mp hs)

/-- All requests succeed exactly if each comes after requests for all its prerequisites. -/
theorem forall_succeedsAt_iff (h : Grows ∅ asked results last) :
    (∀ (i : Nat) (spec : DomainSpec), asked[i]? = some spec → SucceedsAt results i spec.name) ↔
      ∀ (i : Nat) (spec : DomainSpec), asked[i]? = some spec →
        ∀ d ∈ spec.dependsOn, ∃ j < i, (asked.map (·.name))[j]? = some d := by
  constructor
  · intro hall i spec hi d hd
    have hearlier := (h.succeedsAt_iff hi).mp (hall i spec hi) d hd
    obtain ⟨j, hj, hs⟩ : ∃ j < i, SucceedsAt results j d := by simpa using hearlier
    exact ⟨j, hj, h.asked_of_succeedsAt hs⟩
  · intro hbefore i
    induction i using Nat.strong_induction_on with
    | _ i ih =>
      intro spec hi
      refine (h.succeedsAt_iff hi).mpr fun d hd => .inr ?_
      obtain ⟨j, hj, hat⟩ := hbefore i spec hi d hd
      rw [List.getElem?_map, Option.map_eq_some_iff] at hat
      obtain ⟨earlier, hearlier, rfl⟩ := hat
      exact ⟨j, hj, ih j hj earlier hearlier⟩

end Grows

/-- Requests for domains of a graph, all without cancelling, with marking and with collaborators
with whom all goes well. -/
structure Undisturbed (R : FileTree → Prop) (g : DomainGraph) (cwd : Place) (path : String)
    (r : Request) (spec : DomainSpec) : Prop where
  lookup : g.lookup r.text = .ok spec
  marking : r.marking = true
  cancelled : r.cancelled = false
  collaborators : r.collaborators.Obliging R cwd path

/-- Undisturbed requests let what is known grow, and the state file always tells it. -/
theorem grows_outcomes {requests : List Request} {asked : List DomainSpec}
    (hr : List.Forall₂ (Undisturbed (Reached cs cwd path start) g cwd path) requests asked)
    (hmem : requests.map (·.collaborators) ⊆ cs) (hs : Reached cs cwd path start s.files)
    (h : StateFile.Kept cwd path known s.files) :
    ∃ last, Grows known asked (outcomes g cwd path requests s) last ∧
      StateFile.Kept cwd path last (serveAll g cwd path requests s).files := by
  induction hr generalizing known s with
  | nil => exact ⟨known, .nil, h⟩
  | @cons r spec requests asked hr _ ih =>
    rw [List.map_cons, List.cons_subset] at hmem
    obtain ⟨m, hm, hdomain, hsuccess, hreached, hkept⟩ :=
      migrate_of_ready hr.lookup hmem.1 hr.collaborators
        (s := { s with cancelled := r.cancelled }) ⟨hr.cancelled, hs, h⟩
    have hserve : serve g cwd path s r =
        (migrate g cwd path r.text r.collaborators true { s with cancelled := r.cancelled }).2 := by
      rw [serve, hr.marking]
    rw [← hserve] at hreached hkept
    obtain ⟨last, hgrows, hlast⟩ := ih hmem.2 hreached hkept
    refine ⟨last, ?_, hlast⟩
    rw [outcomes, hr.marking, hm]
    exact .cons hdomain hsuccess hgrows

end Session

open Session

/-- Requests for domains of a graph, of which each is served with marking, without cancelling and by
collaborators with whom all goes well in the files that the session can come to, while the state
file can be written and is missing at first. A request succeeds exactly if each prerequisite of its
domain had a request before that succeeded, and the state file tells the domains of the requests
that succeeded. So requests for all domains, once each, all succeed exactly in an order of
migration. -/
theorem outcomes_of_undisturbed {g : DomainGraph}
    (hg : g = .builtin ∨ ∃ specs, DomainGraph.ofSpecs specs = .ok g) {cwd : Place} {path : String}
    {s : Session} (hmissing : s.files.contains cwd path = false)
    (hhold : s.files.CanHold cwd path) {requests : List Request} {asked : List DomainSpec}
    (hr : List.Forall₂ (Undisturbed (s.ReachedBy cwd path requests) g cwd path) requests asked) :
    let results := outcomes g cwd path requests s
    let names := asked.map (·.name)
    let succeed := ∀ (i : Nat) (spec : DomainSpec), asked[i]? = some spec →
      SucceedsAt results i spec.name
    ∃ known, StateFile.migrated (serveAll g cwd path requests s).files cwd path = .ok known ∧
      (∀ (i : Nat) (spec : DomainSpec), asked[i]? = some spec →
        (SucceedsAt results i spec.name ↔
          ∀ d ∈ spec.dependsOn, ∃ j < i, SucceedsAt results j d)) ∧
      (∀ d, d ∈ known ↔ ∃ i, SucceedsAt results i d) ∧
      (names.Perm (g.specs.map (·.name)) → (succeed ↔ IsMigrationOrder g.specs names)) ∧
      (names = g.migrationOrder →
        succeed ∧ ∀ d, d ∈ known ↔ d ∈ g.specs.map (·.name)) := by
  intro results names succeed
  have hv := DomainGraph.valid_of_accepted hg
  have hasked : ∀ spec ∈ asked, spec ∈ g.specs :=
    ((List.forall₂_and_left _ _).mp <| hr.flip.imp fun _ _ hu =>
      ⟨DomainGraph.mem_of_lookup hu.lookup, hu⟩).1
  obtain ⟨known, hgrows, hkept⟩ :=
    grows_outcomes hr (List.Subset.refl _) .start (.of_missing hmissing hhold)
  have hsucceed : ∀ (i : Nat) (spec : DomainSpec), asked[i]? = some spec →
      (SucceedsAt results i spec.name ↔
        ∀ d ∈ spec.dependsOn, ∃ j < i, SucceedsAt results j d) := by
    intro i spec hi
    simpa using hgrows.succeedsAt_iff hi
  have hknown : ∀ d, d ∈ known ↔ ∃ i, SucceedsAt results i d := by
    intro d
    simpa using hgrows.mem_last_iff
  have horder : names.Perm (g.specs.map (·.name)) →
      (succeed ↔ IsMigrationOrder g.specs names) := by
    intro hperm
    rw [hv.isMigrationOrder_iff hasked hperm]
    exact hgrows.forall_succeedsAt_iff
  refine ⟨known, hkept.tells, hsucceed, hknown, horder, fun hnames => ?_⟩
  have hmigration : IsMigrationOrder g.specs names :=
    hnames ▸ DomainGraph.migrationOrder_isMigrationOrder hv.toResolved hv.acyclic
  have hall : succeed := (horder hmigration.perm).mpr hmigration
  refine ⟨hall, fun d => ?_⟩
  rw [hknown, ← hmigration.mem_iff]
  constructor
  · rintro ⟨i, hi⟩
    exact List.mem_of_getElem? (hgrows.asked_of_succeedsAt hi)
  · intro hd
    obtain ⟨spec, hs, rfl⟩ := List.mem_map.mp hd
    obtain ⟨i, hi⟩ := List.mem_iff_getElem?.mp hs
    exact ⟨i, hall i spec hi⟩

/-- The collaborators write a log beside the state file. -/
theorem outcomes_of_undisturbed_builtin :
    let s : Session := ⟨.empty, false, []⟩
    let requests := DomainGraph.builtin.specs.map fun spec =>
      Request.mk spec.name.name .logging true false
    s.files.contains [] "state.json" = false ∧ s.files.CanHold [] "state.json" ∧
      List.Forall₂ (Undisturbed (s.ReachedBy [] "state.json" requests) .builtin [] "state.json")
        requests DomainGraph.builtin.specs ∧
      SucceedsAt (outcomes .builtin [] "state.json" requests s) 5 .cost := by
  intro s requests
  have hmissing : s.files.contains [] "state.json" = false := by
    simp [s, FileTree.contains, FileTree.find?, StateFile.locate_empty]
  have hhold : s.files.CanHold [] "state.json" := StateFile.Plain.empty.canHold
  have hreached : ∀ t, s.ReachedBy [] "state.json" requests t → StateFile.Plain t :=
    fun t => StateFile.Plain.empty.of_reached (by simp [requests])
  have hobliging : Collaborators.logging.Obliging (s.ReachedBy [] "state.json" requests) []
      "state.json" := by
    refine ⟨fun _ _ => rfl, fun _ _ => rfl, fun _ _ => rfl, fun _ _ => rfl, fun _ _ => rfl, ?_⟩
    intro history call known t ht hkept
    have hplain := hreached t ht
    exact ⟨(hplain.migrated_logging history call).trans hkept.tells,
      (hplain.logging history call).1.canHold⟩
  have hr : List.Forall₂ (Undisturbed (s.ReachedBy [] "state.json" requests) .builtin []
      "state.json") requests DomainGraph.builtin.specs := by
    have hlookup : ∀ spec ∈ DomainGraph.builtin.specs,
        DomainGraph.builtin.lookup spec.name.name = .ok spec := by decide
    refine List.forall₂_map_left_iff.mpr (List.forall₂_same.mpr fun spec hs => ?_)
    exact ⟨hlookup spec hs, rfl, rfl, hobliging⟩
  obtain ⟨known, -, -, -, -, hinorder⟩ := outcomes_of_undisturbed (.inl rfl) hmissing hhold hr
  exact ⟨hmissing, hhold, hr, (hinorder (by decide)).1 5 _ rfl⟩

end Cutover
