import Cutover.Shell.Number
import Cutover.Shell.Options

/-!
# Signals

Signals have numbers and names. A trap is a script that runs when a signal has come in, or at
the end.
-/
namespace Cutover.Shell

def commonSignals : List (Nat × String) :=
  [(0, "EXIT"), (1, "HUP"), (2, "INT"), (3, "QUIT"), (4, "ILL"), (5, "TRAP"), (6, "ABRT"),
    (7, "BUS"), (8, "FPE"), (9, "KILL"), (10, "USR1"), (11, "SEGV"), (12, "USR2"), (13, "PIPE"),
    (14, "ALRM"), (15, "TERM"), (16, "16"), (17, "CHLD"), (18, "CONT"), (19, "STOP"),
    (20, "TSTP"), (21, "TTIN"), (22, "TTOU"), (23, "URG"), (24, "XCPU"), (25, "XFSZ"),
    (26, "VTALRM"), (27, "PROF"), (28, "WINCH"), (29, "IO"), (30, "PWR"), (31, "SYS"),
    (32, "32"), (33, "33"), (34, "RTMIN")]

/-- The signals by number, those that have no meaning of their own among them. -/
def signals : List (Nat × String) :=
  let low := (List.range 15).map fun i => (35 + i, s!"RTMIN+{i + 1}")
  let high := (List.range 14).map fun i => (50 + i, s!"RTMAX-{14 - i}")
  commonSignals ++ low ++ high ++ [(64, "RTMAX")]

/-- The number of a signal that is given by number or name. -/
def signal? (s : String) : Option Nat :=
  if s ≠ "" && s.toList.all Char.isDigit then s.toNat?.filter (· < 65)
  else (signals.find? fun e => e.2 = String.ofList (s.toList.map Char.toUpper)).map (·.1)

def signalName (n : Nat) : String := ((signals.find? (·.1 = n)).map (·.2)).getD (toString n)

def trap (args : List String) (s : State) : State :=
  withOptions "" "" args s fun _ args =>
    match args with
    | [] =>
      let set := s.process.traps.mergeSort fun a b => a.1 ≤ b.1
      s.printLines (set.map fun (n, action) =>
        "trap -- " ++ singleQuoted action ++ " " ++ signalName n)
    | first :: rest =>
      let isSignal := first ≠ "" && first.toList.all Char.isDigit && (signal? first).isSome
      let (action, names) := if rest = [] || isSignal then (none, args)
        else (if first = "-" then none else some first, rest)
      let rec go : List String → State → State
        | [], s => s.finish 0
        | name :: names, s =>
          match signal? name with
          | none => (s.put 2 s!"trap: {name}: bad trap\n").finish 1
          | some n =>
            go names (s.update fun p =>
              let others := p.traps.filter (·.1 ≠ n)
              { p with traps := match action with
                | some a => (n, a) :: others
                | none => others })
      go names s

/-- How a signal is spoken of that has ended a process; of two it is not. -/
def endings : List (Nat × String) :=
  [(1, "Hangup"), (3, "Quit"), (4, "Illegal instruction"), (5, "Trace/breakpoint trap"),
    (6, "Aborted"), (7, "Bus error"), (8, "Floating point exception"), (9, "Killed"),
    (10, "User defined signal 1"), (11, "Segmentation fault"), (12, "User defined signal 2"),
    (14, "Alarm clock"), (15, "Terminated"), (16, "Stack fault"), (24, "CPU time limit exceeded"),
    (25, "File size limit exceeded"), (26, "Virtual timer expired"),
    (27, "Profiling timer expired"), (29, "I/O possible"), (30, "Power failure"),
    (31, "Bad system call")]

def lastWords? (signal : Nat) : Option String :=
  if 34 ≤ signal then some s!"Real-time signal {signal - 34}" else endings.lookup signal

end Cutover.Shell
