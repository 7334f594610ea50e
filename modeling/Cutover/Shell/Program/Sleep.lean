import Cutover.Shell.Program.Usage
import Cutover.Shell.Real

/-!
# Sleeping

The program that lets time pass. An argument is a number with a fraction, and a letter after it
tells what it counts.
-/
namespace Cutover.Shell

namespace Sleep

def factor? : List Char → Option Nat
  | [] | ['s'] => some 1
  | ['m'] => some 60
  | ['h'] => some 3600
  | ['d'] => some 86400
  | _ => none

/-- The time that an argument tells, in microseconds; a time without an end is `endless`. -/
def duration? (endless : Nat) (arg : String) : Option Nat :=
  match readReal? .double arg.toList with
  | none => none
  | some (x, rest) =>
    match factor? rest, x.magnitude with
    | some f, .ratio n d =>
      if x.negative && n ≠ 0 then none else some ((n * f * 1000000 + d - 1) / d)
    | some _, .infinite => if x.negative then none else some endless
    | _, _ => none

def refuse (program arg : String) (s : State) : State :=
  s.complain program ("invalid time interval " ++ Quoted.plain arg)

end Sleep

/-- Lets the time pass that the arguments tell together. -/
def sleep : Program := fun _ program args =>
  withUsage {} program args fun r => do
    let s ← Act.state
    let times := r.operands.map (Sleep.duration? s.limit)
    if args.isEmpty then Act.misused program "missing operand" 1
    else if times.all Option.isSome then
      Act.finish 0
      Act.delay ((times.filterMap id).foldl (· + ·) 0)
    else
      let wrong := r.operands.filter fun a => (Sleep.duration? s.limit a).isNone
      Act.change fun s =>
        ((wrong.foldl (fun s a => Sleep.refuse program a s) s).tryHelp program).finish 1

end Cutover.Shell
