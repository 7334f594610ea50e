import Cutover.Proofs.Rollout.Agreement
import Cutover.Proofs.Rollout.Marking

/-!
# Independent domains

Two domains of which neither is a prerequisite of the other can be migrated in either order. The
state file tells each of them the same of its prerequisites, whether the other one was marked before
or not, and in the end it tells both or one of them or cannot be read, in the same text.
-/
namespace Cutover

/-- Collaborators whose answers depend on the call and not on what came before it, and who never
cancel a run. -/
structure Collaborators.Steady (c : Collaborators) : Prop where
  stateFault : ∀ h h', c.stateFault h = c.stateFault h'
  runModel : ∀ h h', c.runModel h = c.runModel h'
  runTests : ∀ h h', c.runTests h = c.runTests h'
  verify : ∀ h h', c.verify h = c.verify h'
  cancels : ∀ h call, c.cancels h call = false
  interrupts : ∀ h gate, c.interrupts h gate = false

namespace Session

variable {g : DomainGraph} {cwd : Place} {path : String} {c : Collaborators} {s s' : Session}
  {e e' : Option FileEntry} {spec spec' : DomainSpec} {r r' : Request} {cs : List Collaborators}
  {start : FileTree}

open StateFile (Stands TellsAlike marking marked)

/-- A session that was not cancelled, with files that it can come to, and what stands at the path of
its state file. -/
structure Facing (cs : List Collaborators) (cwd : Place) (path : String) (start : FileTree)
    (e : Option FileEntry) (s : Session) : Prop where
  cancelled : s.cancelled = false
  reached : Reached cs cwd path start s.files
  stands : Stands cwd path e s.files

theorem Facing.after (hmem : c ∈ cs) (hc : c.Steady)
    (hl : c.LeavesFile (Reached cs cwd path start) cwd path) (h : Facing cs cwd path start e s)
    (call : Call) : Facing cs cwd path start e (s.after c call) where
  cancelled := by simp [Session.after, h.cancelled, hc.cancels]
  reached := h.reached.call hmem _ _
  stands := hl _ _ _ _ h.reached h.stands

theorem Facing.atLook (hc : c.Steady) (h : Facing cs cwd path start e s) (gate : Stage) :
    Facing cs cwd path start e (s.atLook c gate) where
  cancelled := by simp [Session.atLook, h.cancelled, hc.interrupts]
  reached := h.reached
  stands := h.stands

/-- Two sessions agree for a run if their state files tell the same of its prerequisites. -/
theorem agrees_of_tellsAlike (hmem : c ∈ cs) (hc : c.Steady)
    (hl : c.LeavesFile (Reached cs cwd path start) cwd path)
    (ht : TellsAlike spec.dependsOn e e') :
    (environment c cwd path).Agrees
      (fun s s' => Facing cs cwd path start e s ∧ Facing cs cwd path start e' s') spec
      (environment c cwd path) := by
  apply environment_agrees
  case hlook => exact fun gate s s' h => ⟨h.1.atLook hc gate, h.2.atLook hc gate⟩
  case hafter => exact fun call s s' h => ⟨h.1.after hmem hc hl call, h.2.after hmem hc hl call⟩
  case hcancelled => exact fun s s' h => h.1.cancelled.trans h.2.cancelled.symm
  case hstate =>
    intro d hd s s' h
    have hanswer := ht.answer d hd
    rw [← h.1.stands.found, ← h.2.stands.found,
      ← StateFile.migrated_eq_reading h.1.stands.canHold,
      ← StateFile.migrated_eq_reading h.2.stands.canHold] at hanswer
    simp only [environment, hc.stateFault s.history s'.history, StateFile.isMigrated, hanswer]
  case hmodel => exact fun _ _ _ => hc.runModel _ _
  case htests => exact fun _ _ _ => hc.runTests _ _
  case hverify => exact fun _ _ _ => hc.verify _ _

/-- A request for a domain that is served without cancelling, by steady collaborators who leave the
state file alone in such files. -/
structure Steady (R : FileTree → Prop) (g : DomainGraph) (cwd : Place) (path : String) (r : Request)
    (spec : DomainSpec) : Prop where
  lookup : g.lookup r.text = .ok spec
  cancelled : r.cancelled = false
  collaborators : r.collaborators.Steady
  leavesFile : r.collaborators.LeavesFile R cwd path

/-- What stands at the path of the state file after a migration that was to mark its domain or
not. -/
def Migration.leaves (m : Migration) (asked : Bool) (e : Option FileEntry) : Option FileEntry :=
  if asked && m.run.isSuccess then marked e m.run.domain else e

/-- Migrations of two domains leave the same behind in either order. -/
theorem Migration.leaves_comm (m m' : Migration) (asked asked' : Bool) (e : Option FileEntry) :
    m'.leaves asked' (m.leaves asked e) = m.leaves asked (m'.leaves asked' e) := by
  unfold Migration.leaves
  split
  · split
    · exact StateFile.marked_comm e m'.run.domain m.run.domain |>.symm
    · rfl
  · rfl

/-- A migration of a domain leaves the same to tell of others. -/
theorem Migration.tellsAlike_leaves {ds : List Domain} (m : Migration) (hd : m.run.domain ∉ ds)
    (asked : Bool) (e : Option FileEntry) : TellsAlike ds e (m.leaves asked e) := by
  unfold Migration.leaves
  split
  · exact StateFile.tellsAlike_marked hd e
  · exact .refl ds e

namespace Steady

/-- A request comes to a migration of its domain. -/
theorem exists_serve (hr : Steady (Reached cs cwd path start) g cwd path r spec)
    (hmem : r.collaborators ∈ cs) (hs : Reached cs cwd path start s.files)
    (h : Stands cwd path e s.files) :
    ∃ m, outcome g cwd path s r = .ok m ∧ m.run.domain = spec.name ∧
      Stands cwd path (m.leaves r.marking e) (serve g cwd path s r).files := by
  have hdomain := Attempt.domain_passGates (environment r.collaborators cwd path) spec
    { s with cancelled := r.cancelled }
  obtain ⟨s', hmigrate, hstands⟩ := exists_migrate hr.lookup hmem hr.leavesFile r.marking
    (s := { s with cancelled := r.cancelled }) hs h
  refine ⟨_, congrArg Prod.fst hmigrate, hdomain, ?_⟩
  rw [serve, hmigrate, Migration.leaves, hdomain]
  exact hstands

/-- A request comes to the same where the state file tells the same of its prerequisites. -/
theorem outcome_congr (hr : Steady (Reached cs cwd path start) g cwd path r spec)
    (hmem : r.collaborators ∈ cs) (ht : TellsAlike spec.dependsOn e e')
    (hs : Reached cs cwd path start s.files) (h : Stands cwd path e s.files)
    (hs' : Reached cs cwd path start s'.files) (h' : Stands cwd path e' s'.files) :
    outcome g cwd path s r = outcome g cwd path s' r := by
  obtain ⟨last, hfirst, -⟩ := exists_migrate hr.lookup hmem hr.leavesFile r.marking
    (s := { s with cancelled := r.cancelled }) hs h
  obtain ⟨last', hsecond, -⟩ := exists_migrate hr.lookup hmem hr.leavesFile r.marking
    (s := { s' with cancelled := r.cancelled }) hs' h'
  have hstart : Attempt.Mirrors
      (fun s s' => Facing cs cwd path start e s ∧ Facing cs cwd path start e' s')
      (.fresh spec { s with cancelled := r.cancelled })
      (.fresh spec { s' with cancelled := r.cancelled }) :=
    ⟨⟨⟨hr.cancelled, hs, h⟩, ⟨hr.cancelled, hs', h'⟩⟩, rfl, rfl⟩
  have hmirrors := hstart.passGates (agrees_of_tellsAlike hmem hr.collaborators hr.leavesFile ht)
  rw [outcome, outcome, hfirst, hsecond, hmirrors.run, hmirrors.log, ht.marking]

end Steady

end Session

open Session

/-- Requests for two domains of which neither is a prerequisite of the other, without cancelling and
served by collaborators whose answers depend on the call alone, while nobody else changes the state
file in the files that the session can come to, whatever it holds at first. In either order each
request comes to the same run, with the same calls, events and marking, and the state file is the
same in the end. -/
theorem outcomes_swap {g : DomainGraph} {cwd : Place} {path : String} {s : Session}
    (hhold : s.files.CanHold cwd path) {r r' : Request} {spec spec' : DomainSpec}
    (hr : Steady (s.ReachedBy cwd path [r, r']) g cwd path r spec)
    (hr' : Steady (s.ReachedBy cwd path [r, r']) g cwd path r' spec')
    (hfirst : spec.name ∉ spec'.dependsOn) (hsecond : spec'.name ∉ spec.dependsOn) :
    ∃ m m', m.run.domain = spec.name ∧ m'.run.domain = spec'.name ∧
      outcomes g cwd path [r, r'] s = [.ok m, .ok m'] ∧
      outcomes g cwd path [r', r] s = [.ok m', .ok m] ∧
      (serveAll g cwd path [r, r'] s).files.find? cwd path =
        (serveAll g cwd path [r', r] s).files.find? cwd path := by
  have hstart : StateFile.Stands cwd path (s.files.find? cwd path) s.files := ⟨rfl, hhold⟩
  have hmem : r.collaborators ∈ [r, r'].map (·.collaborators) := by simp
  have hmem' : r'.collaborators ∈ [r, r'].map (·.collaborators) := by simp
  have hserved : s.ReachedBy cwd path [r, r'] (serve g cwd path s r).files :=
    reached_serve hmem .start
  have hserved' : s.ReachedBy cwd path [r, r'] (serve g cwd path s r').files :=
    reached_serve hmem' .start
  obtain ⟨m, hm, hdomain, hleft⟩ := hr.exists_serve hmem .start hstart
  obtain ⟨m', hm', hdomain', hleft'⟩ := hr'.exists_serve hmem' .start hstart
  -- the first request leaves the second one what it would have found without it
  have hlater : outcome g cwd path (serve g cwd path s r) r' = .ok m' := by
    rw [← hm']
    exact (hr'.outcome_congr hmem' (m.tellsAlike_leaves (hdomain ▸ hfirst) _ _) .start hstart
      hserved hleft).symm
  have hlater' : outcome g cwd path (serve g cwd path s r') r = .ok m := by
    rw [← hm]
    exact (hr.outcome_congr hmem (m'.tellsAlike_leaves (hdomain' ▸ hsecond) _ _) .start hstart
      hserved' hleft').symm
  obtain ⟨last, hm₂, -, hlast⟩ := hr'.exists_serve hmem' hserved hleft
  obtain ⟨last', hm₂', -, hlast'⟩ := hr.exists_serve hmem hserved' hleft'
  obtain rfl : m' = last := Except.ok.inj (hlater.symm.trans hm₂)
  obtain rfl : m = last' := Except.ok.inj (hlater'.symm.trans hm₂')
  refine ⟨m, m', hdomain, hdomain', ?_, ?_, ?_⟩
  · rw [outcomes_cons, hm, outcomes_cons, hlater, outcomes]
  · rw [outcomes_cons, hm', outcomes_cons, hlater', outcomes]
  · simp only [serveAll, List.foldl_cons, List.foldl_nil]
    rw [hlast.found, hlast'.found, m.leaves_comm m']

/-- Two domains of the builtin graph. A log is written for the first one, and the second one's
models fail. -/
theorem outcomes_swap_builtin :
    let locked : Collaborators := { Collaborators.logging with
      runModel := fun _ m => if m.tool = .dbt then .failed "locked" else .passed }
    let r : Request := ⟨"inventory", .logging, true, false⟩
    let r' : Request := ⟨"purchase", locked, true, false⟩
    let s : Session := ⟨.empty, false, []⟩
    let R := s.ReachedBy [] "state.json" [r, r']
    s.files.CanHold [] "state.json" ∧
      ∃ spec spec', Steady R .builtin [] "state.json" r spec ∧
        Steady R .builtin [] "state.json" r' spec' ∧
        spec.name ∉ spec'.dependsOn ∧ spec'.name ∉ spec.dependsOn ∧
        ∃ m m', outcomes .builtin [] "state.json" [r, r'] s = [.ok m, .ok m'] ∧
          outcomes .builtin [] "state.json" [r', r] s = [.ok m', .ok m] := by
  intro locked r r' s R
  have hhold : s.files.CanHold [] "state.json" := StateFile.Plain.empty.canHold
  have hlookup : ∀ spec ∈ DomainGraph.builtin.specs,
      DomainGraph.builtin.lookup spec.name.name = .ok spec := by decide
  have hleaves : ∀ c : Collaborators, c.alters = Collaborators.logging.alters →
      c.LeavesFile R [] "state.json" := by
    intro c hc history call e t ht hstands
    have hplain := StateFile.Plain.empty.of_reached (by simp [r, r', locked]) ht
    rw [hc]
    exact hplain.stands_logging history call hstands
  have hr : Steady R .builtin [] "state.json" r DomainGraph.builtin.specs[2] :=
    ⟨hlookup DomainGraph.builtin.specs[2] (by decide), rfl,
      by constructor <;> exact fun _ _ => rfl, hleaves _ rfl⟩
  have hr' : Steady R .builtin [] "state.json" r' DomainGraph.builtin.specs[3] :=
    ⟨hlookup DomainGraph.builtin.specs[3] (by decide), rfl,
      by constructor <;> exact fun _ _ => rfl, hleaves _ rfl⟩
  have hfirst : DomainGraph.builtin.specs[2].name ∉ DomainGraph.builtin.specs[3].dependsOn := by
    decide
  have hsecond : DomainGraph.builtin.specs[3].name ∉ DomainGraph.builtin.specs[2].dependsOn := by
    decide
  obtain ⟨m, m', -, -, hforth, hback, -⟩ := outcomes_swap hhold hr hr' hfirst hsecond
  exact ⟨hhold, _, _, hr, hr', hfirst, hsecond, m, m', hforth, hback⟩

end Cutover
