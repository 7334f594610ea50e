import Cutover.Proofs.Files.Path
import Cutover.Proofs.Text.Lowercase
import Cutover.Script.Analysis

/-!
# The layer of a script

The layer is told by the last part of the path alone, whatever folders stand before it and whatever
is in the script. Nothing else in an analysis but the path itself depends on the path.
-/
namespace Cutover

open Cutover.Path (IdleEnding IsComponent)
open Text (IsLowerOf NoSigma)

/-- The first layer, in a fixed order, whose name occurs in a text. -/
def Layer.firstIn (text : List Char) : Layer :=
  if "ods".toList <:+: text then .ods
  else if "dwd".toList <:+: text then .dwd
  else if "dws".toList <:+: text then .dws
  else if "ads".toList <:+: text then .ads
  else .unknown

theorem Layer.ofFileName_eq_firstIn {name : String} {low : List Char}
    (hlow : IsLowerOf low name.toList) : ofFileName name = firstIn low := by
  have hword : ∀ l ∈ probed, l.name.toList <:+: low ↔
      Text.occursIn l.name.toList (Text.lower name.toList) = true := by
    intro l hl
    have hsigma : ∀ l ∈ probed, NoSigma l.name.toList := by decide
    rw [Text.occursIn_iff, hlow.infix_iff (hsigma l hl)]
  have hods := hword .ods (by decide)
  have hdwd := hword .dwd (by decide)
  have hdws := hword .dws (by decide)
  have hads := hword .ads (by decide)
  simp only [Layer.name] at hods hdwd hdws hads
  simp only [firstIn, ofFileName, probed, Layer.name, hods, hdwd, hdws, hads, List.find?_cons,
    List.find?_nil]
  cases Text.occursIn "ods".toList (Text.lower name.toList) <;>
    cases Text.occursIn "dwd".toList (Text.lower name.toList) <;>
      cases Text.occursIn "dws".toList (Text.lower name.toList) <;>
        cases Text.occursIn "ads".toList (Text.lower name.toList) <;> rfl

namespace Analysis

/-- An analysis without the path and the layer. -/
def withoutPath (a : Analysis) : Analysis := { a with file := "", layer := .unknown }

theorem layer_ofScript (extractor : TableExtractor) (tools : ToolNames) (file sql : String) :
    (ofScript extractor tools file sql).layer = layerOf file := by
  simp only [ofScript]

theorem layerOf_append {dir name ending : String} (hn : IsComponent name) (hup : name ≠ "..")
    (he : IdleEnding ending.toList) :
    layerOf (dir ++ "/" ++ name ++ ending) = Layer.ofFileName name := by
  rw [layerOf, Path.fileName?_append hn hup he, Option.getD_some]

/-- The last part of a script's path tells the layer: it is the first of the four, in their order
and not in that of the text, whose name occurs in the lower-case form of the part. Neither the
folders before the part, nor slashes and dots behind it, nor the script change it. Apart from the
path and the layer nothing in an analysis depends on the path. -/
theorem layer_of_last_part {name : String} (hn : IsComponent name) (hup : name ≠ "..") :
    (∃ layer, (∀ low, IsLowerOf low name.toList → layer = Layer.firstIn low) ∧
      ∀ extractor tools dir ending sql, IdleEnding ending.toList →
        (ofScript extractor tools (dir ++ "/" ++ name ++ ending) sql).layer = layer) ∧
    ∀ extractor tools file file' sql,
      (ofScript extractor tools file sql).withoutPath =
        (ofScript extractor tools file' sql).withoutPath := by
  refine ⟨⟨Layer.ofFileName name, ?_, ?_⟩, ?_⟩
  · intro low hlow
    exact Layer.ofFileName_eq_firstIn hlow
  · intro extractor tools dir ending sql he
    rw [layer_ofScript, layerOf_append hn hup he]
  · intro extractor tools file file' sql
    simp only [ofScript, withoutPath]

/-- Layers in the folders, and two layers in the name, the later one of which is tried first. -/
theorem layer_of_last_part_swapped :
    let name := "ADS_of_Dwd.sql"
    let ending := "//./"
    IsComponent name ∧ name ≠ ".." ∧ IdleEnding ending.toList ∧
      (ofScript .byKeyword {} ("/data/ods_x/dws" ++ "/" ++ name ++ ending)
        "SELECT * FROM ods_a").layer = .dwd := by
  intro name ending
  have hn : IsComponent name := ⟨by decide, by decide, by decide⟩
  have hup : name ≠ ".." := by decide
  have he : IdleEnding "//./".toList := .slash (.dot (.slash .nil))
  obtain ⟨⟨layer, hfirst, hlayer⟩, -⟩ := layer_of_last_part hn hup
  refine ⟨hn, hup, he, ?_⟩
  rw [hlayer _ _ _ _ _ he, hfirst _ (Text.isLowerOf_lower _)]
  decide

end Analysis

end Cutover
