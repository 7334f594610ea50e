import Cutover.Proofs.Rollout.Agreement
import Cutover.Proofs.Rollout.Marking

/-!
# State files that cannot be read

A state file with contents that tell no set is an error for all who ask for the set, a run of a
domain with prerequisites among them, and for those who add to it. Nobody takes it for empty, and
nobody writes it over.
-/
namespace Cutover

/-- Whether in such files no call changes what stands at the path of the state file, nor what comes
of reading it. -/
structure Collaborators.SparesFile (R : FileTree → Prop) (cwd : Place) (path : String)
    (c : Collaborators) : Prop where
  found : ∀ history call t, R t → (c.alters history call t).find? cwd path = t.find? cwd path
  state : c.SparesState R cwd path

namespace StateFile

variable {t : FileTree} {cwd : Place} {path : String} {content : ByteArray} {fault : Error}

/-- A state file with these contents, which cannot be read. -/
structure Faulty (cwd : Place) (path : String) (content : ByteArray) (fault : Error)
    (t : FileTree) : Prop where
  found : t.find? cwd path = some (.file content)
  fails : migrated t cwd path = .error fault

/-- Contents that are not text, or a text that tells no set, are an error to read, and so is a file
that may not be read. -/
theorem faulty_of_corrupt (hfile : t.find? cwd path = some (.file content))
    (hcorrupt : ∀ text known, String.fromUTF8? content = some text → ¬Spells text known) :
    ∃ fault, fault ∈ [.json, .file FileError.notText.message, .file FileError.denied.message] ∧
      Faulty cwd path content fault t := by
  obtain ⟨p, hl⟩ := FileTree.locate_of_find? hfile
  have hmigrated : ∀ fault, t.readText cwd path = .error fault →
      migrated t cwd path = .error (.file fault.message) := fun fault h => by
    simp [migrated, FileTree.contains, hfile, h]
  by_cases hread : t.permits p .read = true
  · cases hc : String.fromUTF8? content with
    | none =>
      exact ⟨_, by simp, hfile, hmigrated .notText (by
        simp [FileTree.readText, hl, hread, FileTree.entryText, hc])⟩
    | some text =>
      have hd : decode? text = none :=
        Option.eq_none_iff_forall_ne_some.mpr fun known h =>
          hcorrupt text known hc (decode?_eq_some_iff.mp h)
      refine ⟨.json, by simp, hfile, ?_⟩
      simp [migrated, FileTree.contains, hfile, FileTree.readText_of_locate hl hread hc, hd]
  · exact ⟨_, by simp, hfile, hmigrated .denied (by simp [FileTree.readText, hl, hread])⟩

namespace Faulty

variable (h : Faulty cwd path content fault t)
include h

theorem mark (d : Domain) : StateFile.mark t cwd path d = (.error fault, t) := by
  simp only [StateFile.mark, h.fails]

end Faulty

end StateFile

namespace Attempt

variable {σ : Type} {env : Environment σ} {spec : DomainSpec} {p : Domain} {ps : List Domain}
  {w w₁ w₂ : σ} {fault : Error}

/-- A run whose first question gets no answer ends there. -/
theorem passGates_of_unavailable (hdeps : spec.dependsOn = p :: ps)
    (hlook : env.cancelled .dependencyChecked w = (false, w₁))
    (hask : env.isMigrated p w₁ = (.error fault, w₂)) :
    let f : Failure := .stateUnavailable p fault.message
    let o : GateOutcome := ⟨.dependencyChecked, false, some f.message, env.now w₂⟩
    passGates env spec (.fresh spec w) =
      ⟨w₂, ⟨spec.name, .aborted, [o], some f⟩,
        [.look .dependencyChecked false, .event (.checking p),
          .call (.state p) (.unavailable fault), .event (.gate o)]⟩ := by
  have hworld : (Attempt.fresh spec w).world = w := rfl
  simp only [passGates, unlessCancelled, hworld, hlook, hdeps, checkPrerequisites, world_looked,
    hask]
  rfl

end Attempt

namespace Session

variable {g : DomainGraph} {cwd : Place} {path : String} {c : Collaborators} {s : Session}
  {spec : DomainSpec} {r : Request} {p : Domain} {ps : List Domain} {content : ByteArray}
  {fault : Error} {ops : List Operation} {o : Operation} {cs : List Collaborators}
  {start : FileTree}

open StateFile (Faulty)

/-- A run leaves a state file that cannot be read alone if its calls do. -/
theorem faulty_passGates (hmem : c ∈ cs) (hc : c.SparesFile (Reached cs cwd path start) cwd path)
    (spec : DomainSpec) (hs : Reached cs cwd path start s.files)
    (h : Faulty cwd path content fault s.files) :
    Faulty cwd path content fault
      (Attempt.passGates (environment c cwd path) spec (.fresh spec s)).world.files := by
  have hworld := files_passGates cwd path
    (P := fun t => Reached cs cwd path start t ∧ Faulty cwd path content fault t)
    (fun history call t ht => ⟨ht.1.call hmem history call,
      (hc.found history call t ht.1).trans ht.2.found,
      (hc.state history call t ht.1).trans ht.2.fails⟩) spec ⟨hs, h⟩
  exact hworld.2

/-- A migration is its run, and the marking after it fails if there is one. -/
theorem migrate_of_faulty (hl : g.lookup r.text = .ok spec) (hmem : r.collaborators ∈ cs)
    (hc : r.collaborators.SparesFile (Reached cs cwd path start) cwd path)
    (hs : Reached cs cwd path start s.files) (h : Faulty cwd path content fault s.files) :
    let a := Attempt.passGates (environment r.collaborators cwd path) spec (.fresh spec s)
    migrate g cwd path r.text r.collaborators r.marking s =
        (.ok ⟨a.run, a.log, if r.marking && a.run.isSuccess then some (.error fault) else none⟩,
          a.world) ∧
      Faulty cwd path content fault a.world.files := by
  have hworld := faulty_passGates hmem hc spec hs h
  rw [migrate, migrate_of_lookup _ hl]
  intro a
  refine ⟨?_, hworld⟩
  cases hm : r.marking && a.run.isSuccess with
  | false => simp [a, hm]
  | true => simp [a, hm, mark, hworld.mark]

/-- Whether in such files the collaborators of an operation change nothing about the state file. -/
def Operation.SparesFile (R : FileTree → Prop) (cwd : Place) (path : String) : Operation → Prop
  | .migrate r => r.collaborators.SparesFile R cwd path
  | _ => True

/-- What cannot be read stays as it is, whatever is done with it. -/
theorem faulty_perform (hmem : o.collaborators ⊆ cs)
    (ho : o.SparesFile (Reached cs cwd path start) cwd path)
    (hs : Reached cs cwd path start s.files) (h : Faulty cwd path content fault s.files) :
    Faulty cwd path content fault (perform g cwd path s o).2.files := by
  cases o with
  | list | ask => exact h
  | mark d => simpa [perform, mark, h.mark] using h
  | migrate r =>
    cases hl : g.lookup r.text with
    | error fault =>
      simp only [perform, migrate_of_unknown hl]
      exact h
    | ok spec =>
      obtain ⟨hmigrate, hfaulty⟩ := migrate_of_faulty hl (hmem (by simp [Operation.collaborators]))
        ho (s := { s with cancelled := r.cancelled }) hs h
      simpa [perform, hmigrate] using hfaulty

theorem faulty_performAll (hmem : ops.flatMap (·.collaborators) ⊆ cs)
    (hops : ∀ o ∈ ops, o.SparesFile (Reached cs cwd path start) cwd path)
    (hs : Reached cs cwd path start s.files) (h : Faulty cwd path content fault s.files) :
    Faulty cwd path content fault (performAll g cwd path ops s).2.files := by
  -- no operation writes, so each one meets what the first one met
  induction ops generalizing s with
  | nil => exact h
  | cons o ops ih =>
    obtain ⟨ho, hrest⟩ := List.forall_mem_cons.mp hops
    rw [List.flatMap_cons, List.append_subset] at hmem
    exact ih hmem.2 hrest (reached_perform hmem.1 hs) (faulty_perform hmem.1 ho hs h)

/-- A session whose state file gives this error to all who ask for what it tells. -/
structure Refuses (cwd : Place) (path : String) (fault : Error) (s : Session) : Prop where
  list : StateFile.migrated s.files cwd path = .error fault
  ask : ∀ d, StateFile.isMigrated s.files cwd path d = .error fault
  mark : ∀ d, mark cwd path d s = (.error fault, s)

theorem refuses_of_faulty (h : Faulty cwd path content fault s.files) :
    Refuses cwd path fault s where
  list := h.fails
  ask d := by rw [StateFile.isMigrated, h.fails, Except.map]
  mark d := by simp only [mark, h.mark]

/-- A migration that ended at the question for the first prerequisite, which got this error in place
of an answer. -/
structure Migration.EndsAt (p : Domain) (fault : Error) (m : Migration) : Prop where
  stage : m.run.stage = .aborted
  failure : m.run.failure = some (.stateUnavailable p fault.message)
  gates : m.run.gates.map (fun o => (o.gate, o.passed, o.detail)) =
    [(.dependencyChecked, false, some (Failure.stateUnavailable p fault.message).message)]
  calls : m.log.calls = [.state p]
  marking : m.marking = none

/-- A run with prerequisites ends before it does anything. -/
theorem Refuses.exists_endsAt (h : Refuses cwd path fault s) (hl : g.lookup r.text = .ok spec)
    (hdeps : spec.dependsOn = p :: ps) (hcancelled : r.cancelled = false)
    (hinterrupts : r.collaborators.interrupts s.history .dependencyChecked = false) :
    ∃ m, outcome g cwd path s r = .ok m ∧
      m.EndsAt p ((r.collaborators.stateFault s.history p).getD fault) := by
  generalize hstart : ({ s with cancelled := r.cancelled } : Session) = start
  obtain ⟨hfiles, hhistory, hfalse⟩ : start.files = s.files ∧ start.history = s.history ∧
      start.cancelled = false := by
    subst hstart
    exact ⟨rfl, rfl, hcancelled⟩
  -- the look before the gate finds nothing, and the first question behind it gets no answer
  have hlook : (environment r.collaborators cwd path).cancelled .dependencyChecked start =
      (false, start.atLook r.collaborators .dependencyChecked) := by
    simp [environment, atLook, hfalse, hhistory, hinterrupts]
  have hask : (environment r.collaborators cwd path).isMigrated p
      (start.atLook r.collaborators .dependencyChecked) =
        (.error ((r.collaborators.stateFault s.history p).getD fault),
          (start.atLook r.collaborators .dependencyChecked).after r.collaborators (.state p)) := by
    simp only [environment, atLook, hhistory, hfiles, h.ask]
    cases r.collaborators.stateFault s.history p <;> rfl
  have hrun := Attempt.passGates_of_unavailable hdeps hlook hask
  have houtcome : outcome g cwd path s r = _ := outcome_of_lookup hl s
  rw [hstart, hrun] at houtcome
  exact ⟨_, houtcome, rfl, rfl, rfl, by simp [Transcript.calls], by simp [Run.isSuccess]⟩

/-- Without prerequisites the surroundings of a run are the same whatever the files hold. -/
theorem agrees_of_no_prerequisites (c : Collaborators) (cwd : Place) (path : String)
    (hdeps : spec.dependsOn = []) :
    (environment c cwd path).Agrees
      (fun s s' => s.cancelled = s'.cancelled ∧ s.history = s'.history) spec
      (environment c cwd path) := by
  apply environment_agrees
  case hlook =>
    intro gate s s' ⟨hcancelled, hhistory⟩
    simp [atLook, hcancelled, hhistory]
  case hafter =>
    intro call s s' ⟨hcancelled, hhistory⟩
    simp [Session.after, hcancelled, hhistory]
  case hcancelled => exact fun _ _ h => h.1
  case hstate => simp [hdeps]
  case hmodel | htests | hverify => exact fun _ _ h => by rw [h.2]

/-- A run without prerequisites is the same whatever the files hold. -/
theorem exists_outcome_with (hl : g.lookup r.text = .ok spec) (hdeps : spec.dependsOn = [])
    {m : Migration} (hm : outcome g cwd path s r = .ok m) (files : FileTree) :
    ∃ m', outcome g cwd path { s with files } r = .ok m' ∧ m'.run = m.run ∧ m'.log = m.log := by
  have hstart : Attempt.Mirrors (fun s s' => s.cancelled = s'.cancelled ∧ s.history = s'.history)
      (.fresh spec { s with cancelled := r.cancelled })
      (.fresh spec ({ files, cancelled := r.cancelled, history := s.history } : Session)) :=
    ⟨⟨rfl, rfl⟩, rfl, rfl⟩
  have hmirrors := hstart.passGates (agrees_of_no_prerequisites r.collaborators cwd path hdeps)
  rw [outcome_of_lookup hl s, Except.ok.injEq] at hm
  subst hm
  exact ⟨_, outcome_of_lookup hl _, hmirrors.run.symm, hmirrors.log.symm⟩

end Session

open Session

/-- A state file with contents that tell no set: bytes that are not text, or a text that is not that
of a state file. After any history of operations it is what it was, if nobody else changes it in the
files that the session can come to. Whoever asks for the migrated domains or for one of them gets an
error, and so does whoever marks one. A run for a domain with prerequisites ends at the question for
the first of them, unless it was cancelled. A run for a domain without prerequisites is what it
would be with any other files, but its domain is not marked in the end. -/
theorem performAll_of_corrupt {g : DomainGraph} {cwd : Place} {path : String} {s : Session}
    {content : ByteArray} (hfile : s.files.find? cwd path = some (.file content))
    (hcorrupt : ∀ text known, String.fromUTF8? content = some text →
      ¬StateFile.Spells text known)
    {ops : List Operation}
    (hops : ∀ o ∈ ops, o.SparesFile (s.ReachedThrough cwd path ops) cwd path) :
    let last := (performAll g cwd path ops s).2
    ∃ fault,
      fault ∈ [.json, .file FileError.notText.message, .file FileError.denied.message] ∧
      last.files.find? cwd path = some (.file content) ∧
      Refuses cwd path fault last ∧
      ∀ r spec, g.lookup r.text = .ok spec →
        ∃ m, outcome g cwd path last r = .ok m ∧
          (∀ p ps, spec.dependsOn = p :: ps → r.cancelled = false →
            r.collaborators.interrupts last.history .dependencyChecked = false →
            m.EndsAt p ((r.collaborators.stateFault last.history p).getD fault)) ∧
          (spec.dependsOn = [] →
            (∀ files, ∃ m', outcome g cwd path { last with files } r = .ok m' ∧
              m'.run = m.run ∧ m'.log = m.log) ∧
            (r.collaborators.SparesFile
                (s.ReachedThrough cwd path (ops ++ [.migrate r])) cwd path →
              m.marking =
                if r.marking && m.run.isSuccess then some (.error fault) else none)) := by
  intro last
  obtain ⟨fault, hkind, hstart⟩ := StateFile.faulty_of_corrupt hfile hcorrupt
  have hlast : StateFile.Faulty cwd path content fault last.files :=
    faulty_performAll (List.Subset.refl _) hops .start hstart
  have hrefuses : Refuses cwd path fault last := refuses_of_faulty hlast
  refine ⟨fault, hkind, hlast.found, hrefuses, fun r spec hlookup => ?_⟩
  have hm : outcome g cwd path last r = _ := outcome_of_lookup hlookup last
  refine ⟨_, hm, fun p ps hdeps hcancelled hinterrupts => ?_, fun hdeps => ⟨?_, fun hspares => ?_⟩⟩
  · obtain ⟨m', hm', hends⟩ := hrefuses.exists_endsAt hlookup hdeps hcancelled hinterrupts
    rwa [← Except.ok.inj (hm.symm.trans hm')] at hends
  · exact exists_outcome_with hlookup hdeps hm
  · have hreached : s.ReachedThrough cwd path (ops ++ [.migrate r]) last.files :=
      reached_performAll (by simp [List.flatMap_append]) .start
    have hmigrate := migrate_of_faulty hlookup (by simp [Operation.collaborators]) hspares
      (s := { last with cancelled := r.cancelled }) hreached hlast
    rw [outcome, hmigrate.1] at hm
    rw [← Except.ok.inj hm]

/-- None of these texts is that of a state file. The last one, beside which a log is written, has
the field twice. -/
theorem performAll_of_corrupt_repeated :
    let repeated := "\x7b\"migrated\": [\"sales\"], \"migrated\": []\x7d"
    let texts := ["", "\x7b", "[1]", "\x7b\x7d", "\x7b\"migrated\": \"sales\"\x7d",
      "\x7b\"migrated\": [\"finance\"]\x7d", "\x7b\"migrated\": [\"sales\"]\x7d done", repeated]
    let s : Session :=
      ⟨FileTree.empty.set ["state.json"] (.file repeated.toUTF8), false, []⟩
    let ops : List Operation :=
      [.mark .sales, .list, .migrate ⟨"inventory", .logging, true, false⟩, .ask .inventory]
    let last := (performAll .builtin [] "state.json" ops s).2
    (∀ text ∈ texts, ∀ known, ¬StateFile.Spells text known) ∧
      s.files.find? [] "state.json" = some (.file repeated.toUTF8) ∧
      (∀ o ∈ ops, o.SparesFile (s.ReachedThrough [] "state.json" ops) [] "state.json") ∧
      last.files.find? [] "state.json" = some (.file repeated.toUTF8) ∧
      ∃ fault m,
        outcome .builtin [] "state.json" last ⟨"production", .logging, true, false⟩ = .ok m ∧
          m.EndsAt .sales fault := by
  intro repeated texts s ops last
  have hnone : texts.all (fun text => (StateFile.decode? text).isNone) := by decide +kernel
  have htexts : ∀ text ∈ texts, ∀ known, ¬StateFile.Spells text known := by
    intro text htext known h
    have hdecode := List.all_eq_true.mp hnone text htext
    simp [StateFile.decode?_eq_some_iff.mpr h] at hdecode
  have hplain := StateFile.Plain.of_text repeated
  have hfile : s.files.find? [] "state.json" = some (.file repeated.toUTF8) :=
    hplain.find?.trans (FileTree.get?_set_self _ _ _ (by simp))
  have hcorrupt : ∀ text known, String.fromUTF8? repeated.toUTF8 = some text →
      ¬StateFile.Spells text known := by
    intro text known h
    rw [FileTree.fromUTF8?_toUTF8, Option.some.injEq] at h
    exact h ▸ htexts repeated (by simp [texts]) known
  have hspares : Collaborators.logging.SparesFile (s.ReachedThrough [] "state.json" ops) []
      "state.json" := by
    have hreached : ∀ t, s.ReachedThrough [] "state.json" ops t → StateFile.Plain t :=
      fun t => hplain.of_reached (by simp [ops, Operation.collaborators])
    constructor
    · intro history call t ht
      obtain ⟨hlogged, hsame⟩ := (hreached t ht).logging history call
      rw [hlogged.find?, hsame, (hreached t ht).find?]
    · exact fun history call t ht => (hreached t ht).migrated_logging history call
  have hops : ∀ o ∈ ops, o.SparesFile (s.ReachedThrough [] "state.json" ops) [] "state.json" := by
    simpa [ops, Operation.SparesFile] using hspares
  obtain ⟨fault, -, hlast, -, hserved⟩ := performAll_of_corrupt (g := .builtin) hfile hcorrupt hops
  obtain ⟨m, hm, hends, -⟩ := hserved ⟨"production", .logging, true, false⟩
    DomainGraph.builtin.specs[1] (by decide)
  exact ⟨htexts, hfile, hops, hlast, _, m, hm, hends .sales [] rfl rfl rfl⟩

end Cutover
