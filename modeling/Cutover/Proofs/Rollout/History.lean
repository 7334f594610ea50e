import Cutover.Proofs.Graph.Validation
import Cutover.Proofs.Rollout.Reached

/-!
# Histories of migrations

Whatever is asked for and whatever the collaborators do, the recorded domains stay closed under
prerequisites. A run asks for all prerequisites of its domain before it can come to its good end,
all the time they are answered from the same state file, and only then the domain is added.
-/
namespace Cutover

/-- Whether in such files all calls leave what the state file tells as it is. -/
def Collaborators.SparesState (R : FileTree → Prop) (cwd : Place) (path : String)
    (c : Collaborators) : Prop :=
  ∀ history call t, R t → StateFile.migrated (c.alters history call t) cwd path =
    StateFile.migrated t cwd path

/-- Whether with each domain its prerequisites are in the set. -/
def ClosedUnder (specs : List DomainSpec) (s : DomainSet) : Prop :=
  ∀ d ∈ s, ∀ b, Requires specs d b → b ∈ s

namespace Session

variable {g : DomainGraph} {cwd : Place} {path : String} {c : Collaborators} {s : Session}
  {spec : DomainSpec} {cs : List Collaborators} {start : FileTree}

/-- The domains that are recorded in a session. -/
def recorded (cwd : Place) (path : String) (s : Session) : DomainSet :=
  StateFile.recorded s.files cwd path

/-- A question is answered with yes for recorded domains only. -/
theorem mem_recorded_of_goesOn {d : Domain}
    (h : ((environment c cwd path).take spec (.call (.state d)) s).1.goesOn) :
    d ∈ s.recorded cwd path := by
  simp only [Environment.take, environment, Entry.goesOn, StateFile.isMigrated] at h
  cases hf : c.stateFault s.history d with
  | some e => simp [hf, Reply.isPositive] at h
  | none =>
    cases hm : StateFile.migrated s.files cwd path with
    | error e => simp [hf, hm, Except.map, Reply.isPositive] at h
    | ok known =>
      simp only [hf, hm, Except.map, Reply.isPositive] at h
      rw [recorded, StateFile.recorded_of_migrated hm]
      exact Std.ExtTreeSet.mem_iff_contains.mpr h

section asked

variable {P : FileTree → Prop} {known : DomainSet}

theorem mem_of_favours (hc : ∀ history call t, P t → P (c.alters history call t))
    (hP : ∀ t, P t → StateFile.recorded t cwd path = known) {ds : List Domain} (hs : P s.files)
    (h : (environment c cwd path).favours spec (ds.map (.call <| .state ·)) s) :
    ∀ d ∈ ds, d ∈ known := by
  induction ds generalizing s with
  | nil => simp
  | cons d ds ih =>
    simp only [List.map_cons, Environment.favours, Bool.and_eq_true] at h
    have hd : d ∈ StateFile.recorded s.files cwd path := mem_recorded_of_goesOn h.1
    rw [hP _ hs] at hd
    have htail := ih (files_take hc _ _ hs) h.2
    simpa using ⟨hd, htail⟩

/-- A run that comes to its good end has had all its prerequisites recorded. -/
theorem mem_of_isSuccess (hc : ∀ history call t, P t → P (c.alters history call t))
    (hP : ∀ t, P t → StateFile.recorded t cwd path = known) (hs : P s.files)
    (h : (Attempt.passGates (environment c cwd path) spec (.fresh spec s)).run.isSuccess) :
    ∀ d ∈ spec.dependsOn, d ∈ known := by
  have hf := (Attempt.passGates_done_iff _ spec s).1.mp (by simpa [Run.isSuccess] using h)
  rw [DomainSpec.plan, Environment.favours, List.append_assoc, List.append_assoc,
    Environment.favours_append, Bool.and_eq_true, Bool.and_eq_true] at hf
  exact mem_of_favours hc hP (files_take hc _ _ hs) hf.2.1

end asked

/-- A request for an unknown domain changes nothing. -/
theorem migrate_of_unknown {text : String} {fault : Error} (hl : g.lookup text = .error fault)
    (marking : Bool) (s : Session) :
    migrate g cwd path text c marking s = (.error fault, s) := by
  simp [migrate, Cutover.migrate, hl, Except.map]

/-- A migration leaves the session as its run does, but for the marking. -/
theorem migrate_snd {text : String} (hl : g.lookup text = .ok spec) (marking : Bool) (s : Session) :
    (migrate g cwd path text c marking s).2 =
      let a := Attempt.passGates (environment c cwd path) spec (.fresh spec s)
      if marking && a.run.isSuccess then (mark cwd path a.run.domain a.world).2 else a.world := by
  rw [migrate, migrate_of_lookup _ hl]
  dsimp only
  split
  · generalize mark cwd path _ _ = m
    rfl
  · rfl

theorem files_mark (d : Domain) (s : Session) :
    (mark cwd path d s).2.files = (StateFile.mark s.files cwd path d).2 := rfl

theorem reached_migrate (hc : c ∈ cs) (text : String) (marking : Bool)
    (h : Reached cs cwd path start s.files) :
    Reached cs cwd path start (migrate g cwd path text c marking s).2.files := by
  cases hl : g.lookup text with
  | error e => rwa [migrate_of_unknown hl]
  | ok spec =>
    have hworld := files_passGates cwd path (fun history call _ ht => ht.call hc history call)
      spec h
    rw [migrate_snd hl]
    generalize Attempt.passGates (environment c cwd path) spec (.fresh spec s) = a at hworld ⊢
    dsimp only
    split
    · rw [files_mark]
      exact hworld.mark a.run.domain
    · exact hworld

theorem reached_serve {r : Request} (hc : r.collaborators ∈ cs)
    (h : Reached cs cwd path start s.files) :
    Reached cs cwd path start (serve g cwd path s r).files := by
  unfold serve
  exact reached_migrate hc r.text r.marking h

theorem serveAll_cons (r : Request) (requests : List Request) :
    serveAll g cwd path (r :: requests) s = serveAll g cwd path requests (serve g cwd path s r) :=
  rfl

/-- A migration adds a domain whose prerequisites are recorded, or nothing. -/
theorem recorded_migrate (hc : c ∈ cs)
    (hspares : c.SparesState (Reached cs cwd path start) cwd path)
    (hfree : ∀ t, Reached cs cwd path start t → StateFile.Unhindered cwd path t) (text : String)
    (marking : Bool) (h : Reached cs cwd path start s.files) :
    (migrate g cwd path text c marking s).2.recorded cwd path = s.recorded cwd path ∨
      ∃ spec ∈ g.specs, (∀ d ∈ spec.dependsOn, d ∈ s.recorded cwd path) ∧
        (migrate g cwd path text c marking s).2.recorded cwd path =
          (s.recorded cwd path).insert spec.name := by
  cases hl : g.lookup text with
  | error e => exact .inl (by rw [migrate_of_unknown hl])
  | ok spec =>
    -- all calls of the run are made in files that tell what was recorded before it
    let P (t : FileTree) := Reached cs cwd path start t ∧
      StateFile.recorded t cwd path = s.recorded cwd path
    have hP : ∀ history call t, P t → P (c.alters history call t) := by
      rintro history call t ⟨ht, htells⟩
      refine ⟨ht.call hc history call, ?_⟩
      rw [← htells, StateFile.recorded, hspares history call t ht, StateFile.recorded]
    have hs : P s.files := ⟨h, rfl⟩
    obtain ⟨hreached, hworld⟩ := files_passGates cwd path hP spec hs
    have hname := Attempt.domain_passGates (environment c cwd path) spec s
    have hmem : (Attempt.passGates (environment c cwd path) spec (.fresh spec s)).run.isSuccess →
        ∀ d ∈ spec.dependsOn, d ∈ s.recorded cwd path :=
      mem_of_isSuccess hP (fun t ht => ht.2) hs
    rw [migrate_snd hl]
    generalize Attempt.passGates (environment c cwd path) spec (.fresh spec s) = a at *
    dsimp only
    split
    · next hmark =>
      rw [Bool.and_eq_true] at hmark
      have hadd := StateFile.recorded_mark (hfree _ hreached) spec.name
      rw [← files_mark, hworld] at hadd
      rw [show a.run.domain = spec.name from hname]
      rcases hadd with hsame | hadd
      · exact .inl hsame
      · exact .inr ⟨spec, DomainGraph.mem_of_lookup hl, hmem hmark.2, hadd⟩
    · exact .inl hworld

/-- One request keeps the recorded domains closed and takes none of them away. -/
theorem closedUnder_serve (hv : Resolved g.specs) {r : Request} (hc : r.collaborators ∈ cs)
    (hspares : r.collaborators.SparesState (Reached cs cwd path start) cwd path)
    (hfree : ∀ t, Reached cs cwd path start t → StateFile.Unhindered cwd path t)
    (hs : Reached cs cwd path start s.files) (h : ClosedUnder g.specs (s.recorded cwd path)) :
    ClosedUnder g.specs ((serve g cwd path s r).recorded cwd path) ∧
      ∀ d ∈ s.recorded cwd path, d ∈ (serve g cwd path s r).recorded cwd path := by
  have hstep := recorded_migrate (g := g) hc hspares hfree r.text r.marking
    (s := { s with cancelled := r.cancelled }) hs
  rcases hstep with hsame | ⟨spec, hspec, hall, hadd⟩
  · rw [serve, hsame]
    exact ⟨h, fun _ hd => hd⟩
  · rw [serve, hadd]
    constructor
    · intro d hd b hb
      rw [Std.ExtTreeSet.mem_insert, Std.LawfulEqCmp.compare_eq_iff_eq] at hd ⊢
      rcases hd with rfl | hd
      · exact .inr (hall b ((hv.requires_iff hspec).mp hb))
      · exact .inr (h d hd b hb)
    · exact fun d hd => Std.ExtTreeSet.mem_insert.mpr (.inr hd)

theorem closedUnder_serveAll (hv : Resolved g.specs) {requests : List Request}
    (hr : ∀ r ∈ requests, r.collaborators ∈ cs ∧
      r.collaborators.SparesState (Reached cs cwd path start) cwd path)
    (hfree : ∀ t, Reached cs cwd path start t → StateFile.Unhindered cwd path t)
    (hs : Reached cs cwd path start s.files) (h : ClosedUnder g.specs (s.recorded cwd path)) :
    let last := serveAll g cwd path requests s
    Reached cs cwd path start last.files ∧ ClosedUnder g.specs (last.recorded cwd path) ∧
      ∀ d ∈ s.recorded cwd path, d ∈ last.recorded cwd path := by
  induction requests generalizing s with
  | nil => exact ⟨hs, h, fun _ hd => hd⟩
  | cons r requests ih =>
    obtain ⟨hc, hspares⟩ := hr r (by simp)
    obtain ⟨hclosed, hmono⟩ := closedUnder_serve hv hc hspares hfree hs h
    rw [serveAll_cons]
    obtain ⟨hlast, hclosed', hmono'⟩ :=
      ih (fun r' hr' => hr r' (by simp [hr'])) (reached_serve hc hs) hclosed
    exact ⟨hlast, hclosed', fun d hd => hmono' d (hmono d hd)⟩

end Session

theorem ClosedUnder.transGen {specs : List DomainSpec} {s : DomainSet} (h : ClosedUnder specs s)
    {d b : Domain} (hd : d ∈ s) (hb : Relation.TransGen (Requires specs) d b) : b ∈ s := by
  induction hb with
  | single hb => exact h d hd _ hb
  | tail _ hb ih => exact h _ ih _ hb

open Session

/-- From a state file that is missing, or tells a set that is closed under prerequisites, no
history of requests leads to a set that is not closed, and none takes a domain away. In the files
that the session can come to, the collaborators may do anything but change what the state file
tells, there is room to write it, and no file comes to light at its path, as its folders are made,
that may be read and not written. -/
theorem serveAll_closed {g : DomainGraph}
    (hg : g = .builtin ∨ ∃ specs, DomainGraph.ofSpecs specs = .ok g) {cwd : Place} {path : String}
    {s : Session} {known : DomainSet} (hs : StateFile.migrated s.files cwd path = .ok known)
    (hknown : ClosedUnder g.specs known) {before after : List Request}
    (hspares : ∀ r ∈ before ++ after,
      r.collaborators.SparesState (s.ReachedBy cwd path (before ++ after)) cwd path)
    (hfree : ∀ t, s.ReachedBy cwd path (before ++ after) t → StateFile.Unhindered cwd path t) :
    let earlier := (serveAll g cwd path before s).recorded cwd path
    let later := (serveAll g cwd path (before ++ after) s).recorded cwd path
    (∀ spec ∈ g.specs, spec.name ∈ earlier → ∀ b ∈ spec.dependsOn, b ∈ earlier) ∧
    (∀ d ∈ earlier, ∀ b, Relation.TransGen (Requires g.specs) d b → b ∈ earlier) ∧
    (∀ d ∈ known, d ∈ earlier) ∧ ∀ d ∈ earlier, d ∈ later := by
  have hv : Resolved g.specs := by
    rcases hg with rfl | ⟨specs, ho⟩
    · exact DomainGraph.builtin_valid.toResolved
    · obtain ⟨rfl, hv⟩ := DomainGraph.ofSpecs_eq_ok_iff.mp ho
      exact hv.toResolved
  have hstart : s.recorded cwd path = known := StateFile.recorded_of_migrated hs
  rw [← hstart] at hknown
  have hr : ∀ r ∈ before ++ after,
      r.collaborators ∈ (before ++ after).map (·.collaborators) ∧
        r.collaborators.SparesState (s.ReachedBy cwd path (before ++ after)) cwd path :=
    fun r h => ⟨List.mem_map_of_mem h, hspares r h⟩
  obtain ⟨hreached, hclosed, hmono⟩ := closedUnder_serveAll hv
    (fun r h => hr r (List.mem_append_left _ h)) hfree .start hknown
  obtain ⟨-, -, hlater⟩ := closedUnder_serveAll hv
    (fun r h => hr r (List.mem_append_right _ h)) hfree hreached hclosed
  refine ⟨fun spec hspec hd b hb => hclosed _ hd b (requires_of_mem hspec hb),
    fun d hd b hb => hclosed.transGen hd hb, hstart ▸ hmono, ?_⟩
  simpa [serveAll] using hlater

/-- The collaborators write a log beside the state file. -/
theorem serveAll_closed_production :
    let known : DomainSet := .ofList [Domain.sales, .production]
    let files := FileTree.empty.set ["state.json"] (.file (StateFile.encode known).toUTF8)
    let requests := [Request.mk "quality" .logging true false, ⟨"cost", .logging, true, true⟩]
    let last := serveAll .builtin [] "state.json" requests ⟨files, false, []⟩
    StateFile.migrated files [] "state.json" = .ok known ∧
      (Collaborators.logging.alters [] (.state .sales) files).get? ["run.log"] ≠
        files.get? ["run.log"] ∧
      .production ∈ last.recorded [] "state.json" := by
  intro known files requests last
  have hplain := StateFile.Plain.of_text (StateFile.encode known)
  have hs : StateFile.migrated files [] "state.json" = .ok known := by
    rw [hplain.migrated_eq, FileTree.get?_set_self _ _ _ (by simp)]
    exact StateFile.reading_of_told? (StateFile.told?_encode known)
  have hknown : ClosedUnder DomainGraph.builtin.specs known := by
    rintro d hd b ⟨spec, hspec, rfl, hb⟩
    have hall : ∀ spec ∈ DomainGraph.builtin.specs, spec.name ∈ [Domain.sales, .production] →
        ∀ b ∈ spec.dependsOn, b ∈ [Domain.sales, .production] := by decide
    simp only [known, Std.ExtTreeSet.mem_ofList, List.contains_iff_mem] at hd ⊢
    exact hall spec hspec hd b hb
  have hreached : ∀ t, Session.ReachedBy [] "state.json" (requests ++ []) ⟨files, false, []⟩ t →
      StateFile.Plain t := fun t => hplain.of_reached (by simp [requests])
  have hspares : Collaborators.logging.SparesState
      (Session.ReachedBy [] "state.json" (requests ++ []) ⟨files, false, []⟩) [] "state.json" :=
    fun history call t ht => (hreached t ht).migrated_logging history call
  have hall : ∀ r ∈ requests ++ [], r.collaborators.SparesState
      (Session.ReachedBy [] "state.json" (requests ++ []) ⟨files, false, []⟩) [] "state.json" := by
    simpa [requests] using hspares
  have hclosed := serveAll_closed (.inl rfl) (s := ⟨files, false, []⟩) hs hknown hall
    fun t ht => (hreached t ht).unhindered
  have hfree : files.get? ["run.log"] = none := by decide
  refine ⟨hs, ?_, hclosed.2.2.1 .production (by simp [known, Std.ExtTreeSet.mem_ofList])⟩
  simp [Collaborators.logging, hfree, FileTree.get?_set_self]

end Cutover
