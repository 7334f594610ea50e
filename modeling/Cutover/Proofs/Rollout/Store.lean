import Cutover.Proofs.Rollout.History
import Cutover.Proofs.Rollout.Sequence

/-!
# The state file as a set

Whatever is done with a state file, and however often, it is a set of domains to which the marked
ones are added. Only marking writes it, and what is written depends on the set alone.
-/
namespace Cutover

namespace DomainSet

/-- The set with more domains. -/
def insertAll (s : DomainSet) (ds : List Domain) : DomainSet := ds.foldl (·.insert ·) s

theorem mem_insertAll {s : DomainSet} {ds : List Domain} {d : Domain} :
    d ∈ insertAll s ds ↔ d ∈ s ∨ d ∈ ds := by
  induction ds generalizing s with
  | nil => simp [insertAll]
  | cons d' ds ih =>
    have hinsert : d ∈ s.insert d' ↔ d' = d ∨ d ∈ s := by
      rw [Std.ExtTreeSet.mem_insert, Std.LawfulEqCmp.compare_eq_iff_eq]
    have hrest : d ∈ insertAll s (d' :: ds) ↔ d ∈ s.insert d' ∨ d ∈ ds := ih
    rw [hrest, hinsert, List.mem_cons, eq_comm (a := d)]
    tauto

theorem insertAll_append (s : DomainSet) (ds ds' : List Domain) :
    insertAll s (ds ++ ds') = insertAll (insertAll s ds) ds' := List.foldl_append

/-- A set lists its domains in their order. -/
theorem toList_eq_filter (s : DomainSet) : s.toList = Domain.all.filter (· ∈ s) := by
  have hlt : ∀ {a b : Domain}, compare a b = .lt → a.rank < b.rank := Nat.compare_eq_lt.mp
  have hset : s.toList.Pairwise (·.rank < ·.rank) := Std.ExtTreeSet.ordered_toList.imp hlt
  have hall : (Domain.all.filter (· ∈ s)).Pairwise (·.rank < ·.rank) :=
    List.Pairwise.filter _ (by decide)
  have hne : ∀ {a b : Domain}, a.rank < b.rank → a ≠ b := fun h he => h.ne (congrArg _ he)
  have hperm := (List.perm_ext_iff_of_nodup (hset.imp hne) (hall.imp hne)).mpr fun d => by
    simp [Std.ExtTreeSet.mem_toList, Domain.mem_all]
  exact hperm.eq_of_pairwise (fun a b _ _ hab hba => absurd hab hba.asymm) hset hall

end DomainSet

namespace StateFile

variable {t : FileTree} {cwd : Place} {path : String} {e : Option FileEntry} {known : DomainSet}

/-- What stands where a state file is looked for, and that it can be written. -/
structure Stands (cwd : Place) (path : String) (e : Option FileEntry) (t : FileTree) : Prop where
  found : t.find? cwd path = e
  canHold : t.CanHold cwd path

/-- What stands at the path of a state file after these domains were marked one after the other. -/
def written (e : Option FileEntry) (known : DomainSet) : List Domain → Option FileEntry
  | [] => e
  | d :: ds => some (.file (encode (known.insertAll (d :: ds))).toUTF8)

@[simp] theorem written_nil (e : Option FileEntry) (known : DomainSet) :
    written e known [] = e := rfl

theorem written_of_ne_nil {ds : List Domain} (h : ds ≠ []) (e : Option FileEntry)
    (known : DomainSet) :
    written e known ds = some (.file (encode (known.insertAll ds)).toUTF8) := by
  obtain ⟨d, ds, rfl⟩ := List.exists_cons_of_ne_nil h
  rfl

theorem told?_written (ht : told? e = some known) (ds : List Domain) :
    told? (written e known ds) = some (known.insertAll ds) := by
  cases ds with
  | nil => exact ht
  | cons d ds => exact told?_encode _

theorem written_append (e : Option FileEntry) (known : DomainSet) (ds ds' : List Domain) :
    written e known (ds ++ ds') = written (written e known ds) (known.insertAll ds) ds' := by
  cases ds with
  | nil => rfl
  | cons d ds =>
    cases ds' with
    | nil => rw [List.append_nil]; rfl
    | cons d' ds' => simp only [List.cons_append, written, ← DomainSet.insertAll_append]

theorem Stands.mark (h : Stands cwd path e t) (ht : told? e = some known) (d : Domain) :
    ∃ t', StateFile.mark t cwd path d = (.ok (), t') ∧
      Stands cwd path (written e known [d]) t' := by
  have htells : migrated t cwd path = .ok known := by
    rw [migrated_eq_reading h.canHold, h.found, reading_of_told? ht]
  obtain ⟨t', p, e', hmade, hl, he⟩ := h.canHold
  obtain ⟨hwrite, hfind, hhold, -⟩ :=
    FileTree.writeText_of_locate (encode (known.insert d)) hl he
  refine ⟨_, ?_, hfind, hhold⟩
  simp only [StateFile.mark, htells, hmade, hwrite]
  rfl

/-- A log that is written beside the state file leaves it alone. -/
theorem Plain.stands_logging (h : Plain t) (history : List Call) (call : Call)
    (hs : Stands [] "state.json" e t) :
    Stands [] "state.json" e (Collaborators.logging.alters history call t) := by
  obtain ⟨hlogged, hsame⟩ := h.logging history call
  refine ⟨?_, hlogged.canHold⟩
  rw [hlogged.find?, hsame, ← h.find?, hs.found]

end StateFile

/-- Whether in such files no call changes what stands at the path of the state file, or keeps it
from being written. -/
def Collaborators.LeavesFile (R : FileTree → Prop) (cwd : Place) (path : String)
    (c : Collaborators) : Prop :=
  ∀ history call e t, R t → StateFile.Stands cwd path e t →
    StateFile.Stands cwd path e (c.alters history call t)

namespace Session

variable {g : DomainGraph} {cwd : Place} {path : String} {c : Collaborators} {s : Session}
  {e : Option FileEntry} {known : DomainSet} {cs : List Collaborators} {start : FileTree}

open StateFile (Stands told? written)

/-- A run leaves the state file alone if its calls do. -/
theorem stands_passGates (hmem : c ∈ cs) (hc : c.LeavesFile (Reached cs cwd path start) cwd path)
    (spec : DomainSpec) (hs : Reached cs cwd path start s.files) (h : Stands cwd path e s.files) :
    let a := Attempt.passGates (environment c cwd path) spec (.fresh spec s)
    Reached cs cwd path start a.world.files ∧ Stands cwd path e a.world.files :=
  files_passGates cwd path
    (P := fun t => Reached cs cwd path start t ∧ Stands cwd path e t)
    (fun history call t ht =>
      ⟨ht.1.call hmem history call, hc history call e t ht.1 ht.2⟩) spec ⟨hs, h⟩

/-- Something that is done with a state file. -/
inductive Operation where
  /-- Adds a domain. -/
  | mark (d : Domain)
  /-- Asks for all migrated domains. -/
  | list
  /-- Asks for one domain. -/
  | ask (d : Domain)
  | migrate (r : Request)

/-- What comes of it. -/
inductive Answer where
  | marked (result : Except Error Unit)
  | migrated (result : Except Error DomainSet)
  | isMigrated (result : Except Error Bool)
  | migration (result : Except Error Migration)

def perform (g : DomainGraph) (cwd : Place) (path : String) (s : Session) :
    Operation → Answer × Session
  | .mark d => (.marked (mark cwd path d s).1, (mark cwd path d s).2)
  | .list => (.migrated (StateFile.migrated s.files cwd path), s)
  | .ask d => (.isMigrated (StateFile.isMigrated s.files cwd path d), s)
  | .migrate r =>
    let s := { s with cancelled := r.cancelled }
    let served := migrate g cwd path r.text r.collaborators r.marking s
    (.migration served.1, served.2)

/-- The domain that an operation marks if this comes of it. Nothing is marked by a question, by a
request for an unknown domain or without marking, nor by a run that did not come to its good end. -/
def Operation.marks : Operation → Answer → Option Domain
  | .mark d, _ => some d
  | .migrate r, .migration (.ok m) =>
    if r.marking && m.run.isSuccess then some m.run.domain else none
  | _, _ => none

/-- How the marking came out, if there was one. -/
def Answer.marking? : Answer → Option (Except Error Unit)
  | .marked result => some result
  | .migration (.ok m) => m.marking
  | _ => none

/-- Whether in such files the collaborators of an operation leave the state file alone. -/
def Operation.LeavesFile (R : FileTree → Prop) (cwd : Place) (path : String) : Operation → Prop
  | .migrate r => r.collaborators.LeavesFile R cwd path
  | _ => True

def Operation.collaborators : Operation → List Collaborators
  | .migrate r => [r.collaborators]
  | _ => []

/-- The files that a session can come to through these operations. -/
def ReachedThrough (cwd : Place) (path : String) (ops : List Operation) (s : Session) :
    FileTree → Prop :=
  Reached (ops.flatMap (·.collaborators)) cwd path s.files

theorem reached_perform {o : Operation} (hmem : o.collaborators ⊆ cs)
    (hs : Reached cs cwd path start s.files) :
    Reached cs cwd path start (perform g cwd path s o).2.files := by
  cases o with
  | list | ask => exact hs
  | mark d => exact hs.mark d
  | migrate r =>
    have hserve : (perform g cwd path s (.migrate r)).2 = serve g cwd path s r := by
      rw [perform, serve]
    rw [hserve]
    exact reached_serve (hmem (by simp [Operation.collaborators])) hs

/-- An operation writes the state file if it marks a domain, which never fails, and leaves it as it
is if it marks none. -/
theorem stands_perform {o : Operation} (hmem : o.collaborators ⊆ cs)
    (ho : o.LeavesFile (Reached cs cwd path start) cwd path)
    (hs : Reached cs cwd path start s.files) (h : Stands cwd path e s.files)
    (ht : told? e = some known) :
    let served := perform g cwd path s o
    served.1.marking? = (o.marks served.1).map (fun _ => .ok ()) ∧
      Stands cwd path (written e known (o.marks served.1).toList) served.2.files := by
  cases o with
  | list | ask => exact ⟨rfl, h⟩
  | mark d =>
    obtain ⟨t', hmark, hstands⟩ := h.mark ht d
    simp only [perform, mark, hmark]
    exact ⟨rfl, hstands⟩
  | migrate r =>
    have hmem : r.collaborators ∈ cs := hmem (by simp [Operation.collaborators])
    simp only [perform]
    replace hs : Reached cs cwd path start ({ s with cancelled := r.cancelled } : Session).files :=
      hs
    replace h : Stands cwd path e ({ s with cancelled := r.cancelled } : Session).files := h
    generalize ({ s with cancelled := r.cancelled } : Session) = s' at hs h ⊢
    cases hl : g.lookup r.text with
    | error fault =>
      rw [migrate_of_unknown hl]
      exact ⟨rfl, h⟩
    | ok spec =>
      -- the run leaves the file alone, so the marking after it finds what stood there before
      obtain ⟨-, hworld⟩ := stands_passGates hmem ho spec hs h
      rw [migrate, migrate_of_lookup _ hl]
      generalize Attempt.passGates _ spec (.fresh spec s') = a at hworld
      obtain ⟨t', hmark, hstands⟩ := hworld.mark ht a.run.domain
      cases hm : r.marking && a.run.isSuccess with
      | true => simpa [hm, mark, hmark, Operation.marks, Answer.marking?] using hstands
      | false => simpa [hm, Operation.marks, Answer.marking?] using hworld

/-- Does one thing after the other, and writes down what comes of each. -/
def performAll (g : DomainGraph) (cwd : Place) (path : String) :
    List Operation → Session → List (Operation × Answer) × Session
  | [], s => ([], s)
  | o :: ops, s =>
    let served := perform g cwd path s o
    let rest := performAll g cwd path ops served.2
    ((o, served.1) :: rest.1, rest.2)

/-- The domains marked by operations of which this came, one after the other. -/
def markedIn (log : List (Operation × Answer)) : List Domain :=
  log.flatMap fun entry => (entry.1.marks entry.2).toList

theorem reached_performAll {ops : List Operation} (hmem : ops.flatMap (·.collaborators) ⊆ cs)
    (hs : Reached cs cwd path start s.files) :
    Reached cs cwd path start (performAll g cwd path ops s).2.files := by
  induction ops generalizing s with
  | nil => exact hs
  | cons o ops ih =>
    rw [List.flatMap_cons, List.append_subset] at hmem
    exact ih hmem.2 (reached_perform hmem.1 hs)

/-- The state file holds what was marked, and if nothing was marked, what it held before. -/
theorem stands_performAll {ops : List Operation} (hmem : ops.flatMap (·.collaborators) ⊆ cs)
    (hops : ∀ o ∈ ops, o.LeavesFile (Reached cs cwd path start) cwd path)
    (hs : Reached cs cwd path start s.files) (h : Stands cwd path e s.files)
    (ht : told? e = some known) :
    let served := performAll g cwd path ops s
    (∀ entry ∈ served.1,
      entry.2.marking? = (entry.1.marks entry.2).map fun _ => .ok ()) ∧
      Stands cwd path (written e known (markedIn served.1)) served.2.files := by
  -- after each operation the file tells all that was known and what was marked, so the next one
  -- starts from that set
  induction ops generalizing s e known with
  | nil => exact ⟨by simp [performAll], h⟩
  | cons o ops ih =>
    obtain ⟨ho, hrest⟩ := List.forall_mem_cons.mp hops
    rw [List.flatMap_cons, List.append_subset] at hmem
    obtain ⟨hfirst, hstands⟩ := stands_perform (g := g) hmem.1 ho hs h ht
    obtain ⟨hlater, hlast⟩ :=
      ih hmem.2 hrest (reached_perform hmem.1 hs) hstands (StateFile.told?_written ht _)
    refine ⟨List.forall_mem_cons.mpr ⟨hfirst, hlater⟩, ?_⟩
    rw [performAll, markedIn, List.flatMap_cons, StateFile.written_append]
    exact hlast

end Session

open Session

/-- A state file, missing at first or with a text in any layout, is a set of domains to which the
marked ones are added, as long as it can be written and, in the files that the session can come to,
nobody else changes it. After any history it tells what it told at first and what was marked, in the
order of domains. No marking fails. What marks nothing leaves the file as it is, and once something
was marked its text is that of the set, whatever was marked first, or twice, and whatever stood
there before. -/
theorem performAll_refines {g : DomainGraph} {cwd : Place} {path : String} {s : Session}
    {start : DomainSet} (hstart : StateFile.Tells (s.files.find? cwd path) start)
    (hhold : s.files.CanHold cwd path) {ops : List Operation}
    (hops : ∀ o ∈ ops, o.LeavesFile (s.ReachedThrough cwd path ops) cwd path) :
    let served := performAll g cwd path ops s
    let members := Domain.all.filter fun d => d ∈ start ∨ d ∈ markedIn served.1
    (∃ known, (perform g cwd path served.2 .list).1 = .migrated (.ok known) ∧
      known.toList = members) ∧
    (∀ d, (perform g cwd path served.2 (.ask d)).1 = .isMigrated (.ok (decide (d ∈ members)))) ∧
    (∀ entry ∈ served.1, entry.2.marking? = (entry.1.marks entry.2).map fun _ => .ok ()) ∧
    (∀ o : Operation, o.LeavesFile (s.ReachedThrough cwd path (ops ++ [o])) cwd path →
      o.marks (perform g cwd path served.2 o).1 = none →
        (perform g cwd path served.2 o).2.files.find? cwd path =
          served.2.files.find? cwd path) ∧
    (markedIn served.1 ≠ [] →
      let text := Json.render (.record [("migrated", .list (members.map fun d => .str d.name))])
      served.2.files.find? cwd path = some (.file text.toUTF8)) := by
  intro served members
  obtain ⟨hmarked, hstands⟩ := stands_performAll (g := g) (List.Subset.refl _) hops .start
    ⟨rfl, hhold⟩ (StateFile.told?_eq_some_iff.mpr hstart)
  have htold := StateFile.told?_written (StateFile.told?_eq_some_iff.mpr hstart)
    (markedIn served.1)
  have htells : StateFile.migrated served.2.files cwd path =
      .ok (start.insertAll (markedIn served.1)) := by
    rw [StateFile.migrated_eq_reading hstands.canHold, hstands.found]
    exact StateFile.reading_of_told? htold
  have hmembers : (start.insertAll (markedIn served.1)).toList = members := by
    rw [DomainSet.toList_eq_filter]
    exact List.filter_congr fun d _ => by simp [DomainSet.mem_insertAll]
  refine ⟨⟨_, congrArg _ htells, hmembers⟩, fun d => ?_, hmarked, fun o ho hnone => ?_,
    fun hne => ?_⟩
  · have hd : d ∈ members ↔ d ∈ start.insertAll (markedIn served.1) := by
      rw [← hmembers, Std.ExtTreeSet.mem_toList]
    simp only [perform, StateFile.isMigrated, htells, Except.map, hd,
      Std.ExtTreeSet.mem_iff_contains, Bool.decide_eq_true]
  · have hreached : s.ReachedThrough cwd path (ops ++ [o]) served.2.files :=
      reached_performAll (by simp [List.flatMap_append]) .start
    obtain ⟨-, hnext⟩ := stands_perform (g := g) (by simp [List.flatMap_append]) ho hreached
      hstands htold
    rw [hnone] at hnext
    exact hnext.found.trans hstands.found.symm
  · rw [← hmembers]
    exact hstands.found.trans (StateFile.written_of_ne_nil hne _ start)

/-- A state file in a layout of its own, with a field that is no part of it, beside which a log is
written. -/
theorem performAll_refines_note :
    let text := "\x7b \"note\": [],\n\"migrated\":[\"purchase\",\"sales\", \"purchase\"]\x7d"
    let start : DomainSet := .ofList [Domain.sales, .purchase]
    let s : Session := ⟨FileTree.empty.set ["state.json"] (.file text.toUTF8), false, []⟩
    let ops : List Operation :=
      [.mark .inventory, .list, .migrate ⟨"finance", .logging, true, false⟩, .mark .sales]
    StateFile.Tells (s.files.find? [] "state.json") start ∧
      s.files.CanHold [] "state.json" ∧
      (∀ o ∈ ops, o.LeavesFile (s.ReachedThrough [] "state.json" ops) [] "state.json") ∧
      (performAll .builtin [] "state.json" ops s).2.files.find? [] "state.json" =
        some (.file (StateFile.encode (start.insert .inventory)).toUTF8) := by
  intro text start s ops
  have hplain := StateFile.Plain.of_text text
  have hdecode : StateFile.decode? text = some start := by decide +kernel
  have htold : StateFile.Tells (s.files.find? [] "state.json") start := by
    rw [hplain.find?, FileTree.get?_set_self _ _ _ (by simp)]
    exact .spelled (FileTree.fromUTF8?_toUTF8 text) (StateFile.decode?_eq_some_iff.mp hdecode)
  have hops : ∀ o ∈ ops, o.LeavesFile (s.ReachedThrough [] "state.json" ops) [] "state.json" := by
    have hlogging : Collaborators.logging.LeavesFile (s.ReachedThrough [] "state.json" ops) []
        "state.json" := by
      intro history call e t ht hstands
      have hreached := hplain.of_reached (by simp [ops, Operation.collaborators]) ht
      exact hreached.stands_logging history call hstands
    simpa [ops, Operation.LeavesFile] using hlogging
  have hunknown : DomainGraph.builtin.lookup "finance" = .error _ := rfl
  have hmarked : markedIn (performAll .builtin [] "state.json" ops s).1 = [.inventory, .sales] := by
    simp [ops, performAll, markedIn, perform, migrate_of_unknown hunknown, Operation.marks]
  obtain ⟨-, -, -, -, hwritten⟩ := performAll_refines (g := .builtin) htold hplain.canHold hops
  rw [hmarked] at hwritten
  have hrendered : Json.render (.record [("migrated", .list ((Domain.all.filter fun d =>
      d ∈ start ∨ d ∈ [Domain.inventory, .sales]).map fun d => .str d.name))]) =
        StateFile.encode (start.insert .inventory) := by
    decide +kernel
  exact ⟨htold, hplain.canHold, hops, (hwritten (by simp)).trans (by rw [hrendered])⟩

end Cutover
