import Cutover.Text.Lowercase

/-!
# Warehouse layers

The four layers of the warehouse, and how a script's file name tells its layer.
-/
namespace Cutover

/-- A warehouse layer, in the order of the summaries. -/
inductive Layer where
  | ods
  | dwd
  | dws
  | ads
  | unknown
  deriving DecidableEq, Repr

namespace Layer

def all : List Layer := [.ods, .dwd, .dws, .ads, .unknown]

theorem mem_all (l : Layer) : l ∈ all := by cases l <;> decide

/-- The layers that a file name can spell, in the order in which they are tried. -/
def probed : List Layer := [.ods, .dwd, .dws, .ads]

def name : Layer → String
  | ods => "ods"
  | dwd => "dwd"
  | dws => "dws"
  | ads => "ads"
  | unknown => "unknown"

/-- Position in the order of layers. -/
def rank : Layer → Nat
  | ods => 0
  | dwd => 1
  | dws => 2
  | ads => 3
  | unknown => 4

theorem rank_injective {a b : Layer} (h : a.rank = b.rank) : a = b := by
  revert h; cases a <;> cases b <;> decide

instance : Ord Layer := ⟨compareOn rank⟩

instance : Std.TransOrd Layer := inferInstanceAs (Std.TransCmp (compareOn rank))

instance : Std.LawfulEqOrd Layer where
  eq_of_compare h := rank_injective (Nat.compare_eq_eq.1 h)

/-- The first layer, in probing order, whose name stands anywhere in the lower-cased file name. -/
def ofFileName (fileName : String) : Layer :=
  let text := Text.lower fileName.toList
  (probed.find? fun l => Text.occursIn l.name.toList text).getD .unknown

end Layer

end Cutover
