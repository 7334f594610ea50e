import Cutover.Files.Path
import Cutover.Warehouse.Layer
import Cutover.Warehouse.Domain
import Cutover.Script.Incremental
import Cutover.Script.Tables
import Cutover.Script.Window
import Cutover.Script.Outcome

/-!
# Analysis of one script

All that is learnt from a script's file name and its text. The file name tells the layer and
nothing else; the text tells everything else.
-/
namespace Cutover

/-- What is known of one script. -/
structure Analysis where
  file : String
  layer : Layer
  domain : Domain
  tables : NameSet
  lineage : Lineage
  incremental : Incremental
  timeRange : Option TimeRange
  complexity : Complexity
  dialect : Dialect
  recommendation : String
  outcome : Outcome
  /-- Why the script could not be read; all else then describes an empty script. -/
  error : Option String := none

namespace Analysis

def isUnreadable (a : Analysis) : Bool := a.error.isSome

/-- The layer told by the last part of a path, or by the whole path if it has none. -/
def layerOf (file : String) : Layer := Layer.ofFileName ((Path.fileName? file).getD file)

def ofScript (extractor : TableExtractor) (tools : ToolNames) (file sql : String) : Analysis :=
  let kind := LoadKind.detect? sql
  let complexity := Complexity.ofScript sql
  let dialect := Dialect.ofScript sql
  let outcome := Outcome.recommend kind.isSome complexity.level dialect.generic
  { file
    layer := layerOf file
    domain := Domain.ofScript sql
    tables := extractor.tables sql
    lineage := extractor.lineage sql
    incremental := Incremental.ofKind kind tools.advanced
    timeRange := TimeRange.ofScript? sql
    complexity
    dialect
    recommendation := outcome.render tools
    outcome }

/-- The entry of a script that could not be read, with the reason. -/
def unreadable (extractor : TableExtractor) (tools : ToolNames) (file reason : String) :
    Analysis :=
  { ofScript extractor tools file "" with error := some reason }

end Analysis

end Cutover
