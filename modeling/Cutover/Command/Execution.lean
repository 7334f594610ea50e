import Cutover.Command.Basic
import Cutover.Files.System
import Cutover.Rollout.Attempt
import Cutover.Shell.Run
import Cutover.Shell.Schedule
import Cutover.Text.Blank

/-!
# Executing commands

A command passes if it ends in time with status zero. What it prints as errors is told with
its failure, as soon as nobody can print more of it.

A shell and its tools are carried out on the file tree here. They are there so that command lines
can be run. Nothing that is stated about runs depends on what a command does.
-/
namespace Cutover

/-- The files that every command finds, the programs among them. -/
def FileTree.standard : FileTree := .system Shell.programNames

namespace Command

/-- How many steps a process makes in a second at most. -/
def stepsPerSecond : Nat := 2000000

/-- How many processes may make that many steps. -/
def mostProcesses : Nat := 1000

/-- How many bytes an argument may have. -/
def longestArgument : Nat := 131071

def errorChannel : Nat := 1

def outputChannel : Nat := 2

/-- The state that a command starts in. Its output is dropped and its input is empty. -/
def startState (t : FileTree) (place : Place) (timeoutSecs : Nat) (program : String) :
    Shell.State :=
  let process : Shell.Process :=
    { number := Shell.firstProcess, parent := Shell.firstProcess - 1
      group := Shell.firstProcess - 1, shell := Shell.firstProcess
      folder := (t.number? place).getD 0, path := Shell.pathOf place, name := program
      streams := [(0, 0), (1, outputChannel), (2, errorChannel)]
      vars := [("PATH", { value := some Shell.standardPath, exported := true }),
        ("HOME", { value := some "/root", exported := true })] }
  { files := t
    channels := [(0, .device .null Shell.Opening.input.access), (outputChannel, .dropped),
      (errorChannel, .errors)]
    nextChannel := outputChannel + 1
    limit := timeoutSecs * 1000000
    peers := [process.peer]
    nextProcess := Shell.firstProcess + 1
    process }

def launchPlace (t : FileTree) (cwd : Place) (c : Command) : Except FileError Place := do
  if (c.folder :: c.program :: c.args).any (·.contains '\x00') then throw .nullInCommand
  match ← t.locate cwd c.folder with
  | (place, some .folder) => return place
  | (_, none) => throw .notFound
  | (_, some _) => throw .notAFolder

/-- The program that a command starts. It is looked for by its path, from the folder that it
runs in, if its name has a slash in it. -/
def resolve (s : Shell.State) (c : Command) :
    Except FileError (String × String × List String) := do
  let program := Text.bytewise c.program
  if !program.contains '/' && FileTree.longestName < program.length then throw .nameTooLong
  let path ← s.resolveFor program
  let _ ← s.image path
  if c.args.any (longestArgument < ·.utf8ByteSize) then throw .argumentTooLong
  s.commandLine Shell.State.mostInterpreters path program (c.args.map Text.bytewise)

/-- How a process has ended, unless with success. -/
def ending? (e : Shell.Ending) : Option String :=
  match e.killer with
  | some signal => some (s!"signal: {signal} (SIG" ++ Shell.signalName signal ++ ")")
  | none => if e.status % 256 = 0 then none else some s!"exit status: {e.status % 256}"

/-- Whether a command has ended and nobody can print errors any more. -/
def isOver (s : Shell.State) : Bool :=
  (s.endingOf? Shell.firstProcess).isSome && !s.peers.any (·.channels.contains errorChannel)

/-- Executes a command. What it leaves running goes on for as long again. -/
def execute (t : FileTree) (cwd : Place) (timeoutSecs : Nat) (c : Command) :
    StepOutcome × FileTree :=
  let denied (e : FileError) : StepOutcome × FileTree :=
    (.failed (s!"cannot start " ++ quoted c.text ++ s!": {e.message}"), t)
  match launchPlace t cwd c with
  | .error e => denied e
  | .ok place =>
    let start := startState t place timeoutSecs (Text.bytewise c.program)
    match resolve start c with
    | .error e => denied e
    | .ok (program, called, args) =>
      let steps := (timeoutSecs + 1) * stepsPerSecond
      let all := steps * mostProcesses
      let first := Shell.World.start start (Shell.runProgram steps program called args)
      let world := first.run isOver start.limit all
      let outcome : StepOutcome :=
        match world.state.endingOf? Shell.firstProcess with
        | some ending =>
          if isOver world.state then
            match ending? ending with
            | none => .passed
            | some ending =>
              let errors := String.ofList (Text.trim (Text.decode world.state.errorOutput))
              .failed (quoted c.text ++ s!" exited with {ending}: {errors}")
          else late
        | none => late
      let rest := world.without Shell.firstProcess
      (outcome, (rest.run (fun _ => false) (2 * start.limit) all).state.files)
where
  quoted (text : String) : String := "\x60" ++ text ++ "\x60"
  late : StepOutcome := .failed (quoted c.text ++ s!" timed out after {timeoutSecs}s")

end Command

end Cutover
