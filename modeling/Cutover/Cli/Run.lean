import Cutover.Cli.Arguments
import Cutover.Cli.Display
import Cutover.Command.Basic
import Cutover.Corpus.Scan
import Cutover.Rollout.Attempt
import Cutover.Rollout.StateFile

/-!
# Carrying out a command line

A command line is carried out on a file tree and gives the printed lines, the exit status and
the tree afterwards. An error is told after the lines printed before it. What external commands and
databases do is left open.
-/
namespace Cutover.Cli

/-- What a command line relies on without being it, with a state `σ` of its own: commands, which may
change files, databases, and a user who may interrupt a run on the way to a gate. -/
structure Services (σ : Type) where
  execute : Command → Place → (timeoutSecs : Nat) → FileTree × σ → StepOutcome × FileTree × σ
  /-- Connects to a database that tells which domains of a graph are migrated. -/
  stateDatabase : (url : String) → DomainGraph → Except Error (Domain → σ → Except Error Bool × σ)
  /-- Connects to two databases whose data are compared. -/
  comparison : (source target : String) → Except Error (DomainSpec → σ → StepOutcome × σ)
  interrupts : Stage → σ → Bool × σ

/-- What a command line finds around it. -/
structure Surroundings (σ : Type) where
  services : Services σ
  outside : σ
  files : FileTree
  cwd : Place
  now : Instant
  userFolder : Option String
  config : Option String

/-- What came of a command line. -/
structure Result where
  status : Nat
  lines : List String := []
  error : Option String := none
  files : FileTree

def Result.failed (files : FileTree) (lines : List String) (message : String) : Result :=
  { status := 1, lines, error := some s!"Error: {message}", files }

def versionLine : String := "dw-migrate 0.3.0"

def Refusal.result (files : FileTree) : Refusal → Result
  | .help => { status := 0, files }
  | .version => { status := 0, lines := [versionLine], files }
  | .usage => { status := 2, files }

variable {σ : Type}

def analyze (w : Surroundings σ) (c : Config) (folder output : String) : Result :=
  match Report.ofFolder .byKeyword c.tools w.files w.cwd folder with
  | .error e => .failed w.files reportTitle e.chain
  | .ok report =>
    let lines := reportTitle ++ summaryLines c.tools report.summary
    match report.save w.files w.cwd output with
    | (.error e, files) => .failed files lines s!"writing {output}: {e.chain}"
    | (.ok (), files) =>
      { status := 0, lines := lines ++ [s!"✓ Report written to {output}"], files }

def explain (w : Surroundings σ) (c : Config) (file : String) : Result :=
  let a := Analysis.ofFile .byKeyword c.tools w.files w.cwd file
  match a.error with
  | some reason => .failed w.files [] s!"cannot read {file}: {reason}"
  | none => { status := 0, lines := analysisLines a, files := w.files }

def domains (w : Surroundings σ) (c : Config) : Result :=
  match c.graph with
  | .error e => .failed w.files [] e.chain
  | .ok g => { status := 0, lines := graphLines g, files := w.files }

/-- The databases that a run uses, where states are not told by the state file and data are
compared. -/
structure Backends (σ : Type) where
  state : Option (Domain → σ → Except Error Bool × σ)
  comparison : Option (DomainSpec → σ → StepOutcome × σ)

def backends (s : Services σ) (c : Config) (g : DomainGraph) : Except Error (Backends σ) := do
  let state ← match c.state.databaseUrl with
    | some url => (s.stateDatabase url g).map some
    | none => .ok none
  let comparison ← match ← c.verify.backend with
    | .databases source target => (s.comparison source target).map some
    | .skipped => .ok none
  return ⟨state, comparison⟩

/-- The surroundings of a run. Without databases the states are those of the state file, and the
data are taken as they are. -/
def environment (w : Surroundings σ) (c : Config) (b : Backends σ) (target : String) :
    Environment (FileTree × σ) where
  now _ := w.now
  cancelled gate s :=
    let (cancelled, outside) := w.services.interrupts gate s.2
    (cancelled, s.1, outside)
  isMigrated d s :=
    match b.state with
    | some ask =>
      let (answer, outside) := ask d s.2
      (answer, s.1, outside)
    | none => (StateFile.isMigrated s.1 w.cwd c.state.file d, s)
  runModel m :=
    w.services.execute (Command.ofModel c.runner target m) w.cwd c.runner.timeoutSecs
  runTests d :=
    w.services.execute (Command.ofTests c.runner target d) w.cwd c.runner.timeoutSecs
  verify spec s :=
    match b.comparison with
    | some compare =>
      let (result, outside) := compare spec s.2
      (result, s.1, outside)
    | none => (.passed, s)

def mark (w : Surroundings σ) (c : Config) (b : Backends σ) (d : Domain) (files : FileTree) :
    Except Error Unit × FileTree :=
  if b.state.isSome then (.ok (), files) else StateFile.mark files w.cwd c.state.file d

def migrate (w : Surroundings σ) (c : Config) (domain target : String) : Result :=
  match c.graph.bind fun g => (g.lookup domain).map fun spec => (g, spec) with
  | .error e => .failed w.files [] e.chain
  | .ok (g, spec) =>
    let title := runTitle spec.name target
    match backends w.services c g with
    | .error e => .failed w.files title e.chain
    | .ok b =>
      match Cutover.migrate (environment w c b target) g domain (w.files, w.outside) with
      | .error e => .failed w.files title e.chain
      | .ok a =>
        let lines := title ++ a.log.events.map eventLine ++ [""]
        if a.run.isSuccess then
          match mark w c b a.run.domain a.world.1 with
          | (.error e, files) => .failed files lines e.chain
          | (.ok (), files) => { status := 0, lines := lines ++ [runOutcome a.run], files }
        else { status := 1, lines := lines ++ [runOutcome a.run], files := a.world.1 }

/-- Carries out what a command line asks for, once its configuration is read. -/
def perform (w : Surroundings σ) (i : Invocation) : Result :=
  match Config.load w.files w.cwd w.userFolder i.config with
  | .error e => .failed w.files [] e.chain
  | .ok c =>
    match i.action with
    | .analyze folder output => analyze w c folder output
    | .explain file => explain w c file
    | .migrate domain target => migrate w c domain target
    | .domains => domains w c

/-- Carries out a command line. -/
def run (w : Surroundings σ) (args : List String) : Result :=
  match Invocation.parse w.config args with
  | .error r => r.result w.files
  | .ok i => perform w i

end Cutover.Cli
