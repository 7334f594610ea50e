import Cutover.Datum.Basic

/-!
# Tables of TOML

A document fills one tree of tables. Which table a line may still add to depends on how the
table came about: by a header of its own, because a header below it named it, or because a
dotted key did.
-/
namespace Cutover.Toml

/-- How a table came about. -/
inductive Origin where
  | header
  | implied
  | dotted
  deriving DecidableEq, Repr

/-- What a key leads to. -/
inductive Node where
  | leaf (d : Datum)
  | table (origin : Origin) (items : List (String × Node))
  | series (tables : List (List (String × Node)))

abbrev Items := List (String × Node)

/-- The items with another node at a key that is among them. -/
def replace (items : Items) (key : String) (n : Node) : Items :=
  items.map fun e => if e.1 = key then (key, n) else e

/-- Changes the table that a path leads to. Tables that are missing on the way come about as
`made`; a path of dotted keys must not pass a table that has a header of its own. -/
def within (made : Origin) (f : Origin → Items → Option (Origin × Items)) :
    List String → Origin → Items → Option (Origin × Items)
  | [], origin, items => f origin items
  | key :: path, origin, items =>
    match items.lookup key with
    | none => do
      let (o, new) ← within made f path made []
      some (origin, items ++ [(key, .table o new)])
    | some (.leaf _) => none
    | some (.table o old) =>
      if made = .dotted && o = .header then none
      else do
        let (o, new) ← within made f path o old
        some (origin, replace items key (.table o new))
    | some (.series tables) =>
      match tables.getLast? with
      | none => none
      | some last => do
        let (_, new) ← within made f path .header last
        some (origin, replace items key (.series (tables.dropLast ++ [new])))

/-- Adds a key that is not there yet. Dotted keys add only to tables that dotted keys made. -/
def addLeaf (isDotted : Bool) (key : String) (d : Datum) (origin : Origin) (items : Items) :
    Option (Origin × Items) :=
  if isDotted != decide (origin = .dotted) then none
  else if (items.lookup key).isSome then none
  else some (origin, items ++ [(key, .leaf d)])

def addDotted (path : List String) (key : String) (d : Datum) (origin : Origin) (items : Items) :
    Option (Origin × Items) :=
  within .dotted (addLeaf (path ≠ []) key d) path origin items

def startTable (key : String) (origin : Origin) (items : Items) : Option (Origin × Items) :=
  match items.lookup key with
  | none => some (origin, items ++ [(key, .table .header [])])
  | some (.table .implied old) => some (origin, replace items key (.table .header old))
  | some _ => none

/-- Starts one more table of a header in double brackets. -/
def startSeries (key : String) (origin : Origin) (items : Items) : Option (Origin × Items) :=
  match items.lookup key with
  | none => some (origin, items ++ [(key, .series [[]])])
  | some (.series tables) => some (origin, replace items key (.series (tables ++ [[]])))
  | some _ => none

mutual

def Node.datum : Node → Datum
  | .leaf d => d
  | .table _ items => .record (datumOfItems items)
  | .series tables => .list (datumOfTables tables)

def datumOfItems : List (String × Node) → List (String × Datum)
  | [] => []
  | (key, n) :: items => (key, n.datum) :: datumOfItems items

def datumOfTables : List (List (String × Node)) → List Datum
  | [] => []
  | items :: tables => .record (datumOfItems items) :: datumOfTables tables

end

end Cutover.Toml
