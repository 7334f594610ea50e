import Cutover.Datum.Basic

/-!
# Reading data

Readers from data to the types of the program. A record may also be written as the list of its
fields in order. What a reader does not ask for is passed over; a field that it asks for must
not be written twice.
-/
namespace Cutover

/-- Where notations differ in writing records and choices. -/
structure Convention where
  /-- Whether a list that stands for a record may be longer than the record. -/
  spareItems : Bool
  /-- What may stand beside the name of a choice that carries nothing. -/
  isNothing : Datum → Bool

def Convention.json : Convention where
  spareItems := false
  isNothing
    | .null => true
    | _ => false

def Convention.toml : Convention where
  spareItems := true
  isNothing
    | .list [] => true
    | .record [] => true
    | _ => false

/-- The fields of a record. -/
structure Fields where
  entries : List (String × Datum)
  /-- Whether they were written as a list. -/
  listed : Bool

namespace Datum

def text? : Datum → Option String
  | .str s => some s
  | _ => none

def bool? : Datum → Option Bool
  | .bool b => some b
  | _ => none

/-- A whole number from zero to `largest`. -/
def nat? (largest : Nat) : Datum → Option Nat
  | .int n => if 0 ≤ n && n ≤ largest then some n.toNat else none
  | _ => none

def items? : Datum → Option (List Datum)
  | .list items => some items
  | _ => none

def entries? : Datum → Option (List (String × Datum))
  | .record fields => some fields
  | _ => none

/-- A list each of whose items `read` accepts. -/
def listOf? (read : Datum → Option α) (d : Datum) : Option (List α) :=
  d.items?.bind (·.mapM read)

def orNull? (read : Datum → Option α) : Datum → Option (Option α)
  | .null => some none
  | d => (read d).map some

/-- The member of `all` with a given name, written as the name alone or as a record that
gives the name nothing. -/
def choice? (conv : Convention) (all : List α) (name : α → String) : Datum → Option α
  | .str s => all.find? (name · == s)
  | .record [(s, d)] => if conv.isNothing d then all.find? (name · == s) else none
  | _ => none

def fields? (conv : Convention) (names : List String) : Datum → Option Fields
  | .record entries =>
    if names.all fun n => entries.countP (·.1 == n) ≤ 1 then some ⟨entries, false⟩ else none
  | .list items =>
    if conv.spareItems || items.length ≤ names.length then some ⟨names.zip items, true⟩ else none
  | _ => none

end Datum

namespace Fields

def find? (f : Fields) (name : String) : Option Datum := f.entries.lookup name

def required (f : Fields) (name : String) (read : Datum → Option α) : Option α :=
  (f.find? name).bind read

def orElse (f : Fields) (name : String) (value : α) (read : Datum → Option α) : Option α :=
  match f.find? name with
  | some d => read d
  | none => some value

/-- A field that may be null, or be left out of a record that is not written as a list. -/
def nullable (f : Fields) (name : String) (read : Datum → Option α) : Option (Option α) :=
  match f.find? name with
  | some d => d.orNull? read
  | none => if f.listed then none else some none

end Fields

end Cutover
