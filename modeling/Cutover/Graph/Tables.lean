import Cutover.Graph.Spec

/-!
# Tables of models

A model's identifier names the table that it fills, after the name of its schema.
-/
namespace Cutover

/-- The schema and the table of a model: what stands before and after the first dot. Without
a dot the table is in the public schema. -/
def modelTable (id : String) : String × String :=
  let cs := id.toList
  match cs.dropWhile (· ≠ '.') with
  | [] => ("public", id)
  | _ :: table => (String.ofList (cs.takeWhile (· ≠ '.')), String.ofList table)

def legacyTable (id : String) : String :=
  String.ofList (id.toList.map fun c => if c = '.' then '_' else c)

end Cutover
