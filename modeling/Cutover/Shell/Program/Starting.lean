import Cutover.Shell.Fork
import Cutover.Shell.Program.Input
import Cutover.Shell.Program.Sleep

/-!
# Programs that start others

Each gets the way to run another program in its own process, which also tells why that cannot
be done.
-/
namespace Cutover.Shell

abbrev Starter := (List String → Act Unit) → Program

def printSettings : Program := fun _ program args => do
  let u : Usage := { letters := "0", names := [("null", '0')], status := 2 }
  withUsage u program args fun r => do
    let s ← Act.state
    let told := (s.process.vars.filter fun v => v.2.exported && v.2.value.isSome).reverse
    let ended := if r.has '0' then "\x00" else "\n"
    match r.operands with
    | [] =>
      Act.finish 0
      let lines := told.map fun v => v.1 ++ "=" ++ v.2.value.getD "" ++ ended
      Act.outputText program (String.join lines).toList
    | names =>
      let values := names.filterMap fun name => (told.lookup name).bind (·.value)
      Act.finish (if values.length = names.length then 0 else 1)
      Act.outputText program (String.join (values.map (· ++ ended))).toList

/-- Why a program cannot be run by another one, with the status that tells so. -/
def unstarted (program name : String) (e : FileError) (s : State) : State :=
  let missing := e = .notFound
  let isTold := ["timeout", "nohup", "stdbuf"].any fun name => program.endsWith name
  let what := if isTold then "failed to run command " else ""
  let s := s.failed program (what ++ Quoted.always name ++ ": " ++ e.cause)
    (if missing then 127 else 126)
  if missing && program.endsWith "env" && name.any isSpace
  then s.complain program "use -[v]S to pass options in shebang lines" else s

def withSettings : Starter := fun exec n program args => do
  let u : Usage :=
    { letters := "i0v", valued := "uC", ordered := true, status := 125
      names := [("ignore-environment", 'i'), ("unset", 'u'), ("null", '0'), ("chdir", 'C')] }
  withUsage u program args fun r => do
    let (bare, operands) := match r.operands with
      | "-" :: operands => (true, operands)
      | operands => (r.has 'i', operands)
    let isSetting (a : String) : Bool := a.contains '='
    let words := operands.dropWhile isSetting
    Act.update fun p =>
      if bare then { p with vars := p.vars.filter fun v => !v.2.exported } else p
    Act.change fun s =>
      let dropped := r.options.filterMap fun o => if o.1 = 'u' then some o.2 else none
      let s := dropped.foldl (fun s name => s.setVariable name none) s
      (operands.takeWhile isSetting).foldl (fun s a =>
        let (name, value) := splitSetting a
        s.setVariable name (some { value, exported := true })) s
    match r.value? 'C', words with
    | some _, [] =>
      Act.misused program "must specify command with --chdir (-C)" 125
    | none, [] => printSettings n program (if r.has '0' then ["-0"] else [])
    | none, words => exec words
    | some path, words =>
      match (← Act.state).locate path with
      | .ok (p, some .folder) =>
        Act.change fun s => s.update fun q => { q with folder := (s.files.number? p).getD 0 }
        exec words
      | found =>
        let why := match found with
          | .ok (_, some _) => FileError.notAFolder
          | .ok (_, none) => .notFound
          | .error e => e
        Act.failed program (s!"cannot change directory to {Quoted.always path}: " ++ why.cause) 125

namespace Timeout

/-- What has been asked for. -/
structure Plan where
  time : Nat
  signal : Nat
  /-- How long to wait before the process is killed that has not ended. -/
  killAfter : Option Nat
  foreground : Bool
  preserve : Bool
  verbose : Bool

/-- Sends a signal to a program that has taken too long, and to all processes of the group. -/
def send (plan : Plan) (program name : String) (number signal : Nat) (s : State) : State :=
  let s := if plan.verbose then
      s.complain program
        (s!"sending signal {signalName signal} to command " ++ Quoted.always name)
    else s
  let s := { s with sent := s.sent ++ [(number, signal)] }
  if plan.foreground then s
  else
    let group := s.others.filter fun m => m.group = s.process.group && m.number ≠ number
    let others := group.map (·.number)
    let s := { s with sent := s.sent ++ others.map (·, signal) }
    if signal = 9 then s.receive 9
    else
      { s with sent := s.sent ++ (number :: others).map (·, 18) }

/-- Waits for a program for some time, and ends it if it takes longer. Gives the ending and
whether the time was up. -/
def guard (plan : Plan) (program name : String) (number : Nat) : Act (Ending × Bool) := do
  let start ← Act.get (·.elapsed)
  let ended (s : State) : Bool := (s.endingOf? number).isSome
  let ending : Act Ending := Act.get fun s => (s.endingOf? number).getD ⟨0, none⟩
  if plan.time = 0 then
    Act.await ended
    return (← ending, false)
  Act.pause (some (start + plan.time)) ended
  if ended (← Act.state) then return (← ending, false)
  Act.change (send plan program name number plan.signal)
  match plan.killAfter with
  | none => Act.pause none ended
  | some time =>
    Act.pause (some (start + plan.time + time)) ended
    unless ended (← Act.state) do
      Act.change (send plan program name number 9)
      Act.pause none ended
  return (← ending, true)

def statusOf (plan : Plan) (ending : Ending) (timedOut : Bool) : Nat :=
  if timedOut && !plan.preserve && ending.killer ≠ some 9 then 124 else ending.code

end Timeout

def withLimit : Starter := fun exec _ program args => do
  let u : Usage :=
    { letters := "fpv", valued := "ks", ordered := true, status := 125
      names := [("kill-after", 'k'), ("signal", 's'), ("foreground", 'f'),
        ("preserve-status", 'p'), ("verbose", 'v')] }
  withUsage u program args fun r => do
    let limit ← Act.get (·.limit)
    let wrong := fun (arg : String) (s : State) =>
      ((Sleep.refuse program arg s).tryHelp program).finish 125
    let killAfter := (r.value? 'k').map (Sleep.duration? limit)
    let signal := (r.value? 's').map fun name =>
      signal? (if name.startsWith "SIG" then String.ofList (name.toList.drop 3) else name)
    match r.operands with
    | [] | [_] => Act.change fun s => (s.tryHelp program).finish 125
    | time :: name :: args =>
      match Sleep.duration? limit time, killAfter, signal with
      | none, _, _ => Act.change (wrong time)
      | _, some none, _ => Act.change (wrong ((r.value? 'k').getD ""))
      | _, _, some none =>
        Act.misused program (Quoted.plain ((r.value? 's').getD "") ++ ": invalid signal") 125
      | some time, killAfter, signal =>
        let plan : Timeout.Plan :=
          { time, signal := (signal.bind id).getD 15, killAfter := killAfter.bind id
            foreground := r.has 'f', preserve := r.has 'p', verbose := r.has 'v' }
        unless plan.foreground do
          Act.update fun p => { p with group := p.number }
        let number ← Act.fork (·.process) (exec (name :: args))
        let (ending, timedOut) ← Timeout.guard plan program name number
        Act.change (·.forgetProcesses [number])
        match ending.killer, timedOut with
        | some signal, false =>
          Act.update fun p => { p with killer := some signal, flow := .ended }
        | _, _ => Act.finish (Timeout.statusOf plan ending timedOut)

def withoutHangup : Starter := fun exec _ program args => do
  let u : Usage := { ordered := true, status := 125 }
  withUsage u program args fun r =>
    if r.operands.isEmpty then Act.misused program "missing operand" 125
    else do
      Act.update fun p => { p with ignored := 1 :: p.ignored }
      exec r.operands

def starters : List (String × Starter) :=
  [("env", withSettings), ("timeout", withLimit), ("nohup", withoutHangup)]

end Cutover.Shell
