import Cutover.Corpus.Report
import Cutover.Files.Change

/-!
# Scanning a folder

The scripts of a corpus are the files directly inside one folder whose names end in .sql, in
whatever letter case. A script that cannot be read stays in the report.
-/
namespace Cutover

/-- Whether a file name is that of a script. -/
def isScriptName (name : String) : Bool :=
  match Path.extension? name with
  | some e => Text.asciiLower e = "sql"
  | none => false

def scriptNames (t : FileTree) (cwd : Place) (folder : String) (p : Place) : List String :=
  ((t.names p).filter fun n =>
    isScriptName n && t.isFile cwd (Path.join folder n)).mergeSort (compare · · |>.isLE)

def scripts (t : FileTree) (cwd : Place) (folder : String) : Except Error (List String) :=
  match t.locate cwd folder with
  | .ok (p, some .folder) =>
    if t.permits p .read then .ok ((scriptNames t cwd folder p).map (Path.join folder))
    else .error (.file FileError.denied.message)
  | _ => .error (.notADirectory folder)

namespace Analysis

/-- Reads and analyses a script. -/
def ofFile (extractor : TableExtractor) (tools : ToolNames) (t : FileTree) (cwd : Place)
    (path : String) : Analysis :=
  match t.readText cwd path with
  | .ok sql => ofScript extractor tools path sql
  | .error e => unreadable extractor tools path e.message

end Analysis

namespace Report

/-- The report on all scripts of a folder. -/
def ofFolder (extractor : TableExtractor) (tools : ToolNames) (t : FileTree) (cwd : Place)
    (folder : String) : Except Error Report :=
  (scripts t cwd folder).map fun paths =>
    ofAnalyses tools (paths.map (Analysis.ofFile extractor tools t cwd))

def save (r : Report) (t : FileTree) (cwd : Place) (path : String) : Except Error Unit × FileTree :=
  let (written, t) := t.writeText cwd path r.render
  (written.mapError fun e => .file e.message, t)

end Report

end Cutover
