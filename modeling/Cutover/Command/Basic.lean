import Cutover.Config

/-!
# External commands

The commands that run the models of the two tools and the tests of a domain.
-/
namespace Cutover

/-- A command with the folder that it runs in. -/
structure Command where
  program : String
  args : List String
  folder : String
  deriving DecidableEq, Repr

namespace Command

def text (c : Command) : String := " ".intercalate (c.program :: c.args)

/-- The command that runs a model; `target` is the database that it is run against. -/
def ofModel (r : RunnerConfig) (target : String) (m : Model) : Command :=
  match m.tool with
  | .sqlmesh =>
    ⟨r.sqlmeshBin, ["plan", r.sqlmeshEnv, "--auto-apply", "--models", m.id], r.sqlmeshProject⟩
  | .dbt => ⟨r.dbtBin, ["run", "--select", m.id, "--target", target], r.dbtProject⟩

def ofTests (r : RunnerConfig) (target : String) (d : Domain) : Command :=
  ⟨r.dbtBin, ["test", "--select", "*" ++ d.name ++ "*", "--target", target], r.dbtProject⟩

end Command

end Cutover
