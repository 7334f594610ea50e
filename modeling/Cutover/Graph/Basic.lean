import Cutover.Error
import Cutover.Graph.Search

/-!
# Domain graphs

The declared domains in declaration order, once they have been checked: no domain is the common
one, none is declared twice, every prerequisite is declared and no domain waits for itself,
directly or through others.
-/
namespace Cutover

/-- Why declarations do not make a graph. -/
inductive GraphError where
  | common
  | declaredTwice (d : Domain)
  | undeclared (d missing : Domain)
  | cycle (path : List Domain)
  deriving DecidableEq, Repr

def GraphError.message : GraphError → String
  | common => "'common' cannot be migrated as a domain"
  | declaredTwice d => s!"domain '{d.name}' is declared twice"
  | undeclared d missing => s!"domain '{d.name}' depends on undeclared domain '{missing.name}'"
  | cycle path => "dependency cycle: " ++ " -> ".intercalate (path.map Domain.name)

/-- The declared domains, in declaration order. -/
structure DomainGraph where
  specs : List DomainSpec
  deriving DecidableEq, Repr

namespace DomainGraph

/-- The first declaration that may not follow the `seen` ones. -/
def badName? (seen : List Domain) : List DomainSpec → Option GraphError
  | [] => none
  | s :: specs =>
    if s.name = .common then some .common
    else if s.name ∈ seen then some (.declaredTwice s.name)
    else badName? (s.name :: seen) specs

def dangling? (declared : List Domain) (specs : List DomainSpec) : Option GraphError :=
  specs.findSome? fun s =>
    (s.dependsOn.find? (· ∉ declared)).map fun missing => .undeclared s.name missing

/-- What is wrong with the declarations, the names first and the cycles last. -/
def fault? (specs : List DomainSpec) : Option GraphError :=
  ((badName? [] specs).orElse fun _ => dangling? (specs.map (·.name)) specs).orElse fun _ =>
    (findCycle specs).map .cycle

/-- The graph of the declarations, unless something is wrong with them. -/
def ofSpecs (specs : List DomainSpec) : Except GraphError DomainGraph :=
  match fault? specs with
  | some e => .error e
  | none => .ok ⟨specs⟩

def find? (g : DomainGraph) (d : Domain) : Option DomainSpec := g.specs.find? (·.name = d)

def names (g : DomainGraph) : List String := g.specs.map (·.name.name)

/-- The declaration that a user's text names. -/
def lookup (g : DomainGraph) (text : String) : Except Error DomainSpec :=
  match (Domain.ofText? text).bind g.find? with
  | some spec => .ok spec
  | none => .error (.unknownDomain text g.names)

def ready (done : List Domain) (s : DomainSpec) : Bool :=
  s.name ∉ done && s.dependsOn.all (· ∈ done)

/-- Lengthens an order by the first declared domain that is ready, at most `n` times. -/
def orderFrom (specs : List DomainSpec) : Nat → List Domain → List Domain
  | 0, order => order
  | n + 1, order =>
    match specs.find? (ready order) with
    | some s => orderFrom specs n (order ++ [s.name])
    | none => order

def migrationOrder (g : DomainGraph) : List Domain := orderFrom g.specs g.specs.length []

def builtin : DomainGraph where
  specs :=
    [ { name := .sales
        sqlmeshModels := ["dwd.order_fact", "dws.order_daily"]
        dbtModels := ["staging.sales.*", "marts.sales.*"] },
      { name := .production
        sqlmeshModels := ["dwd.production_fact", "dws.production_daily"]
        dbtModels := ["staging.production.*"]
        dependsOn := [.sales] },
      { name := .inventory
        sqlmeshModels := ["dwd.inventory_fact", "dws.inventory_daily"]
        dbtModels := ["staging.inventory.*"] },
      { name := .purchase
        sqlmeshModels := ["dwd.purchase_fact", "dws.purchase_daily"]
        dbtModels := ["staging.purchase.*"] },
      { name := .quality
        sqlmeshModels := ["dwd.quality_fact", "dws.quality_daily"]
        dbtModels := ["staging.quality.*"]
        dependsOn := [.production] },
      { name := .cost
        sqlmeshModels := ["dwd.cost_fact", "dws.cost_daily"]
        dbtModels := ["staging.cost.*"]
        dependsOn := [.production, .purchase] } ]

end DomainGraph

end Cutover
