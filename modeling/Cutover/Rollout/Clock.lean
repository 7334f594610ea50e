/-!
# Time of day

Instants as seconds and nanoseconds since 1970, and the time of day they fall on.
-/
namespace Cutover

/-- A time as seconds since 1970 in UTC and a part of a second; a leap second is the part beyond
one. -/
structure Instant where
  secs : Int
  nanos : Nat
  deriving DecidableEq, Repr

def twoDigits (n : Nat) : String :=
  String.ofList [Nat.digitChar (n / 10 % 10), Nat.digitChar (n % 10)]

/-- Hours, minutes and seconds in UTC. A leap second is told by a full second of nanoseconds
over the second before it, and shows as one second more. -/
def Instant.timeOfDay (i : Instant) : String :=
  let s := (i.secs % 86400).toNat
  let leap := if 1000000000 ≤ i.nanos then 1 else 0
  twoDigits (s / 3600) ++ ":" ++ twoDigits (s / 60 % 60) ++ ":" ++ twoDigits (s % 60 + leap)

end Cutover
