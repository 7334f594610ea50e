import Cutover.Proofs.Rollout.Course
import Cutover.Proofs.Rollout.StateFile
import Cutover.Rollout.Session

/-!
# Files that a session comes to

What is asked of collaborators is asked of them for the files that a session can come to, not for
all files there could be: a log that one of them writes may be a state file only in a tree in which
somebody has linked the one to the other.
-/
namespace Cutover

/-- The files that a session can come to: those it starts with, and what calls of its collaborators
and markings of domains make of files it can come to. -/
inductive Reached (cs : List Collaborators) (cwd : Place) (path : String) (start : FileTree) :
    FileTree → Prop
  | start : Reached cs cwd path start start
  | call {t : FileTree} {c : Collaborators} (h : Reached cs cwd path start t) (hc : c ∈ cs)
      (history : List Call) (call : Call) : Reached cs cwd path start (c.alters history call t)
  | mark {t : FileTree} (h : Reached cs cwd path start t) (d : Domain) :
      Reached cs cwd path start (StateFile.mark t cwd path d).2

namespace Reached

variable {cs cs' : List Collaborators} {cwd : Place} {path : String} {start t : FileTree}

/-- With more collaborators a session can come to more files. -/
theorem mono (hcs : cs ⊆ cs') (h : Reached cs cwd path start t) :
    Reached cs' cwd path start t := by
  induction h with
  | start => exact .start
  | call _ hc history call ih => exact ih.call (hcs hc) history call
  | mark _ d ih => exact ih.mark d

end Reached

namespace Session

/-- The files that a session can come to while it serves these requests. -/
def ReachedBy (cwd : Place) (path : String) (requests : List Request) (s : Session) :
    FileTree → Prop :=
  Reached (requests.map (·.collaborators)) cwd path s.files

variable {cs : List Collaborators} {cwd : Place} {path : String} {c : Collaborators} {s : Session}
  {start : FileTree}

/-- A step of a run keeps what each of its calls keeps of the files. -/
theorem files_take {P : FileTree → Prop} (hc : ∀ history call t, P t → P (c.alters history call t))
    (spec : DomainSpec) (step : Step) (h : P s.files) :
    P ((environment c cwd path).take spec step s).2.files := by
  cases step with
  | look gate => exact h
  | call call => cases call <;> exact hc _ _ _ h

theorem files_passGates (cwd : Place) (path : String) {P : FileTree → Prop}
    (hc : ∀ history call t, P t → P (c.alters history call t)) (spec : DomainSpec)
    (h : P s.files) :
    P (Attempt.passGates (environment c cwd path) spec (.fresh spec s)).world.files := by
  rw [Attempt.world_passGates]
  exact Environment.course_induction (P := fun s : Session => P s.files)
    (fun step _ _ hs => files_take hc spec step hs) h

end Session

/-- Collaborators with whom nothing fails and who write a file of their own. -/
def Collaborators.logging : Collaborators :=
  { Collaborators.helpful with
    alters := fun _ _ t =>
      match t.get? ["run.log"] with
      | none => t.set ["run.log"] (.file "started".toUTF8)
      | some _ => t }

namespace StateFile

variable {t : FileTree}

/-- A tree in which nothing is forbidden and there is room for everything, with a file or nothing
where a state file has its place. -/
structure Plain (t : FileTree) : Prop where
  guarded : t.guarded = false
  room : t.room = none
  entry : t.get? ["state.json"] = none ∨ ∃ content, t.get? ["state.json"] = some (.file content)

namespace Plain

theorem empty : Plain .empty := ⟨rfl, rfl, .inl rfl⟩

theorem of_text (text : String) :
    Plain (FileTree.empty.set ["state.json"] (.file text.toUTF8)) where
  guarded := FileTree.guarded_set _ _ _
  room := FileTree.room_set _ _ _
  entry := .inr ⟨_, FileTree.get?_set_self _ _ _ (by simp)⟩

variable (h : Plain t)
include h

theorem permits (p : Place) (a : Permission) : t.permits p a = true := by
  simp [FileTree.permits, h.guarded]

theorem locate : t.locate [] "state.json" = .ok (["state.json"], t.get? ["state.json"]) := by
  refine locate_name ⟨rfl, h.permits _ _⟩ fun target hlink => ?_
  rcases h.entry with he | ⟨content, he⟩ <;> simp [he] at hlink

theorem find? : t.find? [] "state.json" = t.get? ["state.json"] := by
  simp [FileTree.find?, h.locate]

theorem accepts : t.Accepts ["state.json"] (t.get? ["state.json"]) := by
  rcases h.entry with he | ⟨content, he⟩
  · exact he ▸ .new h.room (h.permits _ _)
  · exact he ▸ .old h.room (h.permits _ _) (h.permits _ _) content

theorem canHold : t.CanHold [] "state.json" := FileTree.canHold_of_locate h.locate h.accepts

theorem migrated_eq : migrated t [] "state.json" = reading (t.get? ["state.json"]) := by
  rw [migrated_eq_reading h.canHold, h.find?]

theorem makeFolders_eq : t.makeFolders [] "state.json" = (.ok (), t) :=
  FileTree.makeFolders_of_locate h.locate h.accepts.ne_folder

theorem unhindered : Unhindered [] "state.json" t where
  roomy := h.room
  writable _ p _ _ _ := by
    rw [h.makeFolders_eq]
    exact h.permits p _

theorem mark (d : Domain) : Plain (mark t [] "state.json" d).2 := by
  unfold StateFile.mark
  split
  · exact h
  next s _ =>
  obtain ⟨hwritten, -⟩ := FileTree.writeText_of_locate (encode (s.insert d)) h.locate h.accepts
  simp only [h.makeFolders_eq, hwritten]
  exact ⟨(FileTree.guarded_set _ _ _).trans h.guarded, (FileTree.room_set _ _ _).trans h.room,
    .inr ⟨_, FileTree.get?_set_self _ _ _ (by simp)⟩⟩

/-- A log is written beside the state file, and never in its place. -/
theorem logging (history : List Call) (call : Call) :
    Plain (Collaborators.logging.alters history call t) ∧
      (Collaborators.logging.alters history call t).get? ["state.json"] =
        t.get? ["state.json"] := by
  dsimp only [Collaborators.logging]
  split
  · next hfree =>
    have hsame := FileTree.get?_set_of_new (by simp) hfree
      (show ["state.json"] ≠ ["run.log"] by decide) (.file "started".toUTF8)
    exact ⟨⟨(FileTree.guarded_set _ _ _).trans h.guarded, (FileTree.room_set _ _ _).trans h.room,
      hsame ▸ h.entry⟩, hsame⟩
  · exact ⟨h, rfl⟩

theorem migrated_logging (history : List Call) (call : Call) :
    migrated (Collaborators.logging.alters history call t) [] "state.json" =
      migrated t [] "state.json" := by
  obtain ⟨hlogged, hsame⟩ := h.logging history call
  rw [hlogged.migrated_eq, hsame, h.migrated_eq]

/-- With collaborators who write nothing but the log a session comes to such trees only. -/
theorem of_reached {cs : List Collaborators}
    (hcs : ∀ c ∈ cs, c.alters = Collaborators.logging.alters) {t' : FileTree}
    (ht' : Reached cs [] "state.json" t t') : Plain t' := by
  induction ht' with
  | start => exact h
  | call _ hc history call ih =>
    rw [hcs _ hc]
    exact (ih.logging history call).1
  | mark _ d ih => exact ih.mark d

end Plain

end StateFile

end Cutover
