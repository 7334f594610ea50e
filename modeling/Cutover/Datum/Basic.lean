/-!
# Data

The values that configuration files, state files and reports are written with, whatever the
notation. Fields keep the order and the repetitions of the text they come from.
-/
namespace Cutover

/-- A value of a document. -/
inductive Datum where
  | null
  | bool (b : Bool)
  | int (n : Int)
  | real (literal : String)
  | str (s : String)
  | list (items : List Datum)
  | record (fields : List (String × Datum))
  /-- Well-formed, yet no value: text with half a surrogate pair. It may stand where nothing
  is read. -/
  | garbled

namespace Datum

def nat (n : Nat) : Datum := .int n

def texts (l : List String) : Datum := .list (l.map .str)

end Datum

end Cutover
