import Cutover.Shell.Options

/-!
# Limits

The command that shows and sets what a process may use of the system. A process may lower its
limits, and raise them again up to the harder of two bounds.
-/
namespace Cutover.Shell

/-- What can be limited. -/
structure Resource where
  letter : Char
  name : String
  /-- How much the system counts for one. -/
  unit : Nat
  start : Limit

namespace Resource

def all : List Resource :=
  [⟨'t', "time(seconds)", 1, {}⟩, ⟨'f', "file(blocks)", 512, {}⟩,
    ⟨'d', "data(kbytes)", 1024, {}⟩, ⟨'s', "stack(kbytes)", 1024, ⟨some 8388608, none⟩⟩,
    ⟨'c', "coredump(blocks)", 512, ⟨some 0, none⟩⟩, ⟨'m', "memory(kbytes)", 1024, {}⟩,
    ⟨'l', "locked memory(kbytes)", 1024, ⟨some 8388608, some 8388608⟩⟩,
    ⟨'p', "process", 1, {}⟩, ⟨'n', "nofiles", 1, ⟨some 1048576, some 1048576⟩⟩,
    ⟨'v', "vmemory(kbytes)", 1024, {}⟩, ⟨'w', "locks", 1, {}⟩,
    ⟨'r', "rtprio", 1, ⟨some 0, some 0⟩⟩]

def limit (r : Resource) (s : State) : Limit := (s.process.limits.lookup r.letter).getD r.start

def shown (r : Resource) (hard : Bool) (s : State) : String :=
  let limit := r.limit s
  match if hard then limit.hard else limit.soft with
  | none => "unlimited"
  | some n => toString (n / r.unit)

/-- Whether a bound lies above another one. -/
def exceeds : Option Nat → Option Nat → Bool
  | some a, some b => b < a
  | none, some _ => true
  | _, none => false

def set (r : Resource) (soft hard : Bool) (value : Option Nat) (s : State) : State :=
  let old := r.limit s
  let new : Limit := ⟨if soft then value else old.soft, if hard then value else old.hard⟩
  let refused (why : String) : State := s.error s!"error setting limit ({why})"
  if exceeds new.soft new.hard then refused "Invalid argument"
  else if exceeds new.hard old.hard then refused "Operation not permitted"
  else
    (s.update fun p =>
      { p with limits := (r.letter, new) :: p.limits.filter (·.1 ≠ r.letter) }).finish 0

end Resource

def controlLimit (args : List String) (s : State) : State :=
  withOptions "HSatfdscmlpnvwr" "" args s fun found rest =>
    let letters := found.map (·.1)
    let chosen := (letters.filter fun c => !"HSa".toList.contains c).getLast?.getD 'f'
    let (soft, hard) := match (letters.filter fun c => c = 'H' || c = 'S').getLast? with
      | some 'H' => (false, true)
      | some _ => (true, false)
      | none => (true, true)
    let all := letters.contains 'a'
    match Resource.all.find? (·.letter = chosen), rest with
    | none, _ => s.finish 0
    | some r, [] =>
      if all then
        s.printLines (Resource.all.map fun r =>
          let blanks := String.ofList (List.replicate (20 - r.name.length) ' ')
          r.name ++ blanks ++ " " ++ r.shown (!soft) s)
      else s.printLines [r.shown (!soft) s]
    | some r, text :: more =>
      if all || more ≠ [] then s.error "too many arguments"
      else if text = "unlimited" then r.set soft hard none s
      else if text.toList.all Char.isDigit then
        r.set soft hard (some ((text.toNat?).getD 0 * r.unit)) s
      else s.error "bad number"

end Cutover.Shell
