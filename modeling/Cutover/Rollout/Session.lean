import Cutover.Rollout.Attempt
import Cutover.Rollout.StateFile

/-!
# Sessions

A session is a history of requests on one graph and one state file: migrations with given
collaborators, with or without marking, and the plain operations on the file. A collaborator's
answer may depend on all calls made before in the session, and a call may change files.
-/
namespace Cutover

/-- Those whom a run relies on, apart from the state file. -/
structure Collaborators where
  /-- The error that a question for a domain's state ends with in place of an answer. -/
  stateFault : List Call → Domain → Option Error
  runModel : List Call → Model → StepOutcome
  runTests : List Call → Domain → StepOutcome
  verify : List Call → DomainSpec → StepOutcome
  /-- Whether the session is cancelled while this call is made. -/
  cancels : List Call → Call → Bool
  /-- Whether the session is cancelled after the last call and before a look on the way to this
  gate. -/
  interrupts : List Call → Stage → Bool := fun _ _ => false
  /-- The files after this call. -/
  alters : List Call → Call → FileTree → FileTree := fun _ _ t => t

/-- The collaborators with whom nothing fails. -/
def Collaborators.helpful : Collaborators where
  stateFault _ _ := none
  runModel _ _ := .passed
  runTests _ _ := .passed
  verify _ _ := .passed
  cancels _ _ := false

/-- Where a session stands. -/
structure Session where
  files : FileTree
  cancelled : Bool := false
  history : List Call := []

namespace Session

def after (c : Collaborators) (call : Call) (s : Session) : Session :=
  { files := c.alters s.history call s.files
    cancelled := s.cancelled || c.cancels s.history call
    history := s.history ++ [call] }

def atLook (c : Collaborators) (gate : Stage) (s : Session) : Session :=
  { s with cancelled := s.cancelled || c.interrupts s.history gate }

/-- The surroundings of a run in a session: states are read from the state file at `path`. -/
def environment (c : Collaborators) (cwd : Place) (path : String) : Environment Session where
  now _ := ⟨0, 0⟩
  cancelled gate s := ((s.atLook c gate).cancelled, s.atLook c gate)
  isMigrated d s :=
    (match c.stateFault s.history d with
      | some e => .error e
      | none => StateFile.isMigrated s.files cwd path d,
     s.after c (.state d))
  runModel m s := (c.runModel s.history m, s.after c (.run m))
  runTests d s := (c.runTests s.history d, s.after c (.test d))
  verify spec s := (c.verify s.history spec, s.after c (.verify spec.name))

def mark (cwd : Place) (path : String) (d : Domain) (s : Session) :
    Except Error Unit × Session :=
  let (result, files) := StateFile.mark s.files cwd path d
  (result, { s with files })

/-- What a migration comes to: the run, its transcript, and the marking if there was one. -/
structure Migration where
  run : Run
  log : Transcript
  marking : Option (Except Error Unit)

/-- Migrates a domain, and marks it if asked to and the run came to its good end. -/
def migrate (g : DomainGraph) (cwd : Place) (path text : String) (c : Collaborators)
    (marking : Bool) (s : Session) : Except Error Migration × Session :=
  match Cutover.migrate (environment c cwd path) g text s with
  | .error e => (.error e, s)
  | .ok a =>
    if marking && a.run.isSuccess then
      let (result, s) := mark cwd path a.run.domain a.world
      (.ok ⟨a.run, a.log, some result⟩, s)
    else (.ok ⟨a.run, a.log, none⟩, a.world)

/-- A request to migrate a domain, and the circumstances in which it is served. -/
structure Request where
  text : String
  collaborators : Collaborators
  marking : Bool
  /-- Whether the run is cancelled from the start. -/
  cancelled : Bool := false

def serve (g : DomainGraph) (cwd : Place) (path : String) (s : Session) (r : Request) : Session :=
  (migrate g cwd path r.text r.collaborators r.marking { s with cancelled := r.cancelled }).2

def serveAll (g : DomainGraph) (cwd : Place) (path : String) (requests : List Request)
    (s : Session) : Session := requests.foldl (serve g cwd path) s

end Session

end Cutover
