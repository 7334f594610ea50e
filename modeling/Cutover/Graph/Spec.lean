import Cutover.Warehouse.Domain

/-!
# Domain declarations

A domain is declared with the models that make it up and the domains that have to be migrated
before it.
-/
namespace Cutover

/-- The tool that a model belongs to. -/
inductive ModelTool where
  | sqlmesh
  | dbt
  deriving DecidableEq, Repr

def ModelTool.name : ModelTool → String
  | sqlmesh => "SQLMesh"
  | dbt => "dbt"

/-- A model with the tool that runs it. -/
structure Model where
  tool : ModelTool
  id : String
  deriving DecidableEq, Repr

def Model.label (m : Model) : String := s!"{m.id} ({m.tool.name})"

/-- The declaration of a domain. -/
structure DomainSpec where
  name : Domain
  sqlmeshModels : List String := []
  dbtModels : List String := []
  dependsOn : List Domain := []
  deriving DecidableEq, Repr

namespace DomainSpec

/-- All models of the domain in the order in which they run. -/
def models (s : DomainSpec) : List Model :=
  s.sqlmeshModels.map (⟨.sqlmesh, ·⟩) ++ s.dbtModels.map (⟨.dbt, ·⟩)

def modelCount (s : DomainSpec) : Nat := s.models.length

end DomainSpec

end Cutover
