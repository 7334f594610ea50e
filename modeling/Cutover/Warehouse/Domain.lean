import Cutover.Text.Blank
import Cutover.Text.Folding
import Cutover.Text.Lowercase

/-!
# Business domains

The domains that the warehouse is migrated by, their spelling, and how a script's text tells
the domain it belongs to.
-/
namespace Cutover

/-- A business domain, in the order of summaries and state files. -/
inductive Domain where
  | sales
  | production
  | inventory
  | purchase
  | quality
  | cost
  | common
  deriving DecidableEq, Repr

namespace Domain

def all : List Domain := [.sales, .production, .inventory, .purchase, .quality, .cost, .common]

theorem mem_all (d : Domain) : d ∈ all := by cases d <;> decide

def name : Domain → String
  | sales => "sales"
  | production => "production"
  | inventory => "inventory"
  | purchase => "purchase"
  | quality => "quality"
  | cost => "cost"
  | common => "common"

/-- Position in the order of domains. -/
def rank : Domain → Nat
  | sales => 0
  | production => 1
  | inventory => 2
  | purchase => 3
  | quality => 4
  | cost => 5
  | common => 6

theorem rank_injective {a b : Domain} (h : a.rank = b.rank) : a = b := by
  revert h; cases a <;> cases b <;> decide

instance : Ord Domain := ⟨compareOn rank⟩

instance : Std.TransOrd Domain := inferInstanceAs (Std.TransCmp (compareOn rank))

instance : Std.LawfulEqOrd Domain where
  eq_of_compare h := rank_injective (Nat.compare_eq_eq.1 h)

/-- The text as it is compared with domain names: trimmed, ASCII letters in lower case. -/
def normalise (text : String) : String :=
  String.ofList ((Text.trim text.toList).map Char.toLower)

/-- The domain that a user's text spells, white space around it and letter case aside. -/
def ofText? (text : String) : Option Domain := all.find? (·.name == normalise text)

/-- What is said of a text that spells no domain. -/
def unknownMessage (text : String) : String := s!"unknown domain '{normalise text}'"

/-- Words that tell a domain, in the order in which the domains are tried. -/
def keywords : List (Domain × List String) :=
  [ (.sales, ["order", "customer", "sales"]),
    (.production, ["production", "work_order", "bom"]),
    (.inventory, ["inventory", "warehouse", "material"]),
    (.purchase, ["purchase", "supplier"]),
    (.quality, ["quality", "defect", "inspection"]),
    (.cost, ["cost", "cost_center"]) ]

/-- The first domain, in probing order, one of whose words stands in the lower-cased script. -/
def ofScript (sql : String) : Domain :=
  let text := Text.lower sql.toList
  match keywords.find? fun k => k.2.any fun w => Text.occursIn w.toList text with
  | some k => k.1
  | none => .common

end Domain

end Cutover
