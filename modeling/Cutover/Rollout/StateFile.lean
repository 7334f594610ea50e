import Cutover.Datum.Decode
import Cutover.Datum.Json
import Cutover.Datum.JsonText
import Cutover.Files.Change
import Cutover.Warehouse.Domain
import Std.Data.ExtTreeSet

/-!
# State files

The domains that have been migrated are kept in a file of JSON. Reading it gives a set, and
what is written depends on the set alone. A file that cannot be read is never written over.
-/
namespace Cutover

abbrev DomainSet := Std.ExtTreeSet Domain

namespace StateFile

/-- The text of a state file. -/
def encode (s : DomainSet) : String :=
  Json.render (.record [("migrated", .list (s.toList.map fun d => .str d.name))])

/-- The set that a state file tells. -/
def decode? (text : String) : Option DomainSet := do
  let f ← (← Json.read? text).fields? .json ["migrated"]
  let l ← f.required "migrated" (Datum.listOf? (Datum.choice? .json Domain.all Domain.name))
  return Std.ExtTreeSet.ofList l

def migrated (t : FileTree) (cwd : Place) (path : String) : Except Error DomainSet :=
  if t.contains cwd path then
    match t.readText cwd path with
    | .error e => .error (.file e.message)
    | .ok text =>
      match decode? text with
      | some s => .ok s
      | none => .error .json
  else .ok ∅

def isMigrated (t : FileTree) (cwd : Place) (path : String) (d : Domain) : Except Error Bool :=
  (migrated t cwd path).map (·.contains d)

/-- Adds a domain to the migrated ones. The folders of the file are made if need be, and stay
even if the file cannot be written. -/
def mark (t : FileTree) (cwd : Place) (path : String) (d : Domain) :
    Except Error Unit × FileTree :=
  match migrated t cwd path with
  | .error e => (.error e, t)
  | .ok s =>
    match t.makeFolders cwd path with
    | (.error e, t) => (.error (.file e.message), t)
    | (.ok (), t) =>
      let (written, t) := t.writeText cwd path (encode (s.insert d))
      (written.mapError fun e => .file e.message, t)

end StateFile

end Cutover
