import Cutover.Shell.Folder
import Cutover.Shell.Input
import Cutover.Shell.Job
import Cutover.Shell.Limits
import Cutover.Shell.Question
import Cutover.Shell.Reader

/-!
# Built-in commands

The commands of the shell that run no script of their own. An error in one of them ends the
script if the command is special, and only the command otherwise.
-/
namespace Cutover.Shell

/-- Ends the script, with the status given or that of the last command. In a trap that is the
one before the trap. -/
def exitCommand (args : List String) (s : State) : State :=
  match args with
  | [] => (s.finish (s.process.kept.getD s.status)).turn .ended
  | a :: _ =>
    match count? a with
    | some n => (s.finish n).turn .ended
    | none => s.error (noNumber a)

def returnCommand (args : List String) (s : State) : State :=
  match args with
  | [] => s.turn (.returning false)
  | a :: _ =>
    match count? a with
    | some n => (s.finish n).turn (.returning true)
    | none => s.error (noNumber a)

/-- Leaves loops, or starts the next round of one. -/
def leaveLoops (flow : Nat → Flow) (args : List String) (s : State) : State :=
  let n := count? (args.headD "1")
  match n with
  | none | some 0 => s.error (noNumber (args.headD "1"))
  | some n =>
    let n := min n s.process.loops
    if n = 0 then s.finish 0 else (s.finish 0).turn (flow n)

/-- Drops the first arguments of the script. -/
def shift (args : List String) (s : State) : State :=
  match count? (args.headD "1") with
  | none => s.error (noNumber (args.headD "1"))
  | some n =>
    if s.process.args.length < n then s.error "can't shift that many"
    else
      (s.update fun p => { p with args := p.args.drop n, next := 1, letters := none }).finish 0

/-- A built-in command, with a number of steps that bounds it. -/
abbrev Builtin := Nat → List String → Act Unit

def plainBuiltins : List (String × (List String → State → State)) :=
  [(":", fun _ s => s.finish 0), ("true", fun _ s => s.finish 0),
    ("false", fun _ s => s.finish 1), ("echo", echo), ("printf", printf), ("test", test),
    ("[", bracket), ("exit", exitCommand), ("return", returnCommand),
    ("break", leaveLoops .leaving), ("continue", leaveLoops .nextRound), ("shift", shift),
    ("set", set), ("export", exportVariables), ("readonly", readOnly), ("unset", unset),
    ("local", localVariables), ("cd", changeFolder), ("chdir", changeFolder),
    ("pwd", showFolder), ("getopts", getOptions), ("trap", trap), ("kill", kill),
    ("alias", setAliases), ("unalias", unalias), ("umask", changeMask), ("ulimit", controlLimit),
    ("jobs", showJobs), ("fg", controlJob), ("bg", controlJob),
    ("times", fun _ s => s.printLines (List.replicate 2 "0m0.000000s 0m0.000000s"))]

def builtin? (name : String) : Option Builtin :=
  match name with
  | "read" => some read
  | "wait" => some waitFor
  | _ => (plainBuiltins.lookup name).map fun f _ args => do
    Act.change (f args)
    Act.awaitRoom 1

def furtherBuiltins : List String := ["eval", ".", "exec", "command", "type", "hash"]

def isBuiltin (name : String) : Bool := furtherBuiltins.contains name || (builtin? name).isSome

end Cutover.Shell
