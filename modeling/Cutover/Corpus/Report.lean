import Cutover.Corpus.Summary
import Cutover.Datum.Decode
import Cutover.Datum.Json
import Cutover.Datum.JsonText

/-!
# Corpus reports

The report on a corpus is an analysis for each script and the summary. It is written as JSON
and can be read back. What is absent is left out, except the time range, which is then null.
-/
namespace Cutover

/-- The report on a corpus of scripts. -/
structure Report where
  files : List Analysis
  summary : Summary

/-- The largest number of files, and the longest interval, in a report. -/
def largestTotal : Nat := 18446744073709551615

/-- A field, unless there is nothing to write. -/
def Datum.fieldOf (name : String) (value : Option Datum) : List (String × Datum) :=
  match value with
  | some d => [(name, d)]
  | none => []

/-- A word, written as a number. -/
def Datum.word (w : UInt32) : Datum := .nat w.toNat

/-- Reads a number that a word can hold. -/
def Datum.word? (d : Datum) : Option UInt32 := (d.nat? 4294967295).map UInt32.ofNat

/-- Reads a name of one of the members of `all` in a report. -/
def Datum.named? (all : List α) (name : α → String) : Datum → Option α :=
  Datum.choice? .json all name

namespace Incremental

def toDatum (i : Incremental) : Datum :=
  .record <|
    [("detected", .bool i.detected)] ++
    Datum.fieldOf "type" (i.kind.map fun k => .str k.name) ++
    Datum.fieldOf "recommendation" (i.recommendation.map .str)

def ofDatum? (d : Datum) : Option Incremental := do
  let f ← d.fields? .json ["detected", "type", "recommendation"]
  return {
    detected := ← f.required "detected" Datum.bool?
    kind := ← f.orElse "type" none (Datum.orNull? (Datum.named? LoadKind.all LoadKind.name))
    recommendation := ← f.orElse "recommendation" none (Datum.orNull? Datum.text?) }

end Incremental

namespace TimeRange

def toDatum (t : TimeRange) : Datum :=
  .record [("interval", .nat t.interval), ("unit", .str t.unit.name),
    ("recommendation", .str t.recommendation)]

def ofDatum? (d : Datum) : Option TimeRange := do
  let f ← d.fields? .json ["interval", "unit", "recommendation"]
  return {
    interval := ← f.required "interval" (Datum.nat? largestTotal)
    unit := ← f.required "unit" (Datum.named? TimeUnit.all TimeUnit.name)
    recommendation := ← f.required "recommendation" Datum.text? }

end TimeRange

namespace Complexity

def toDatum (c : Complexity) : Datum :=
  .record [("subqueries", .word c.subqueries), ("joins", .word c.joins),
    ("aggregations", .word c.aggregations), ("case_statements", .word c.caseStatements),
    ("lines", .word c.lines), ("score", .word c.score), ("level", .str c.level.name)]

def ofDatum? (d : Datum) : Option Complexity := do
  let f ← d.fields? .json
    ["subqueries", "joins", "aggregations", "case_statements", "lines", "score", "level"]
  return {
    subqueries := ← f.required "subqueries" Datum.word?
    joins := ← f.required "joins" Datum.word?
    aggregations := ← f.required "aggregations" Datum.word?
    caseStatements := ← f.required "case_statements" Datum.word?
    lines := ← f.required "lines" Datum.word?
    score := ← f.required "score" Datum.word?
    level := ← f.required "level" (Datum.named? Level.all Level.name) }

end Complexity

namespace Dialect

def toDatum (d : Dialect) : Datum :=
  .record [("mysql", .texts d.mysql), ("postgres", .texts d.postgres),
    ("generic", .bool d.generic)]

def ofDatum? (d : Datum) : Option Dialect := do
  let f ← d.fields? .json ["mysql", "postgres", "generic"]
  return {
    mysql := ← f.required "mysql" (Datum.listOf? Datum.text?)
    postgres := ← f.required "postgres" (Datum.listOf? Datum.text?)
    generic := ← f.required "generic" Datum.bool? }

end Dialect

namespace NameSet

def toDatum (s : NameSet) : Datum := .texts s.toList

def ofDatum? (d : Datum) : Option NameSet :=
  (d.listOf? Datum.text?).map fun l => Std.ExtTreeSet.ofList l

end NameSet

namespace Lineage

def toDatum (l : Lineage) : Datum := .record (l.toList.map fun e => (e.1, NameSet.toDatum e.2))

/-- Of two entries for one table the later counts. -/
def ofDatum? (d : Datum) : Option Lineage := do
  let entries ← d.entries?
  let entries ← entries.mapM fun e => (NameSet.ofDatum? e.2).map fun s => (e.1, s)
  return Std.ExtTreeMap.ofList entries

end Lineage

namespace Analysis

def toDatum (a : Analysis) : Datum :=
  .record <|
    [ ("file", .str a.file),
      ("layer", .str a.layer.name),
      ("domain", .str a.domain.name),
      ("tables", NameSet.toDatum a.tables),
      ("dependencies", Lineage.toDatum a.lineage),
      ("incremental", a.incremental.toDatum),
      ("time_range", (a.timeRange.map TimeRange.toDatum).getD .null),
      ("complexity", a.complexity.toDatum),
      ("dialect", a.dialect.toDatum),
      ("recommendation", .str a.recommendation),
      ("outcome", .str a.outcome.name) ] ++
    Datum.fieldOf "error" (a.error.map .str)

def ofDatum? (d : Datum) : Option Analysis := do
  let f ← d.fields? .json
    ["file", "layer", "domain", "tables", "dependencies", "incremental", "time_range",
      "complexity", "dialect", "recommendation", "outcome", "error"]
  return {
    file := ← f.required "file" Datum.text?
    layer := ← f.required "layer" (Datum.named? Layer.all Layer.name)
    domain := ← f.required "domain" (Datum.named? Domain.all Domain.name)
    tables := ← f.required "tables" NameSet.ofDatum?
    lineage := ← f.required "dependencies" Lineage.ofDatum?
    incremental := ← f.required "incremental" Incremental.ofDatum?
    timeRange := ← f.nullable "time_range" TimeRange.ofDatum?
    complexity := ← f.required "complexity" Complexity.ofDatum?
    dialect := ← f.required "dialect" Dialect.ofDatum?
    recommendation := ← f.required "recommendation" Datum.text?
    outcome := ← f.required "outcome" (Datum.named? Outcome.all Outcome.name)
    error := ← f.orElse "error" none (Datum.orNull? Datum.text?) }

end Analysis

namespace Tally

variable {κ : Type} [Ord κ] [Std.TransOrd κ]

def toDatum (name : κ → String) (t : Tally κ) : Datum :=
  .record (t.toList.map fun e => (name e.1, .nat e.2))

/-- Of two entries for one kind the later counts. -/
def ofDatum? (key : String → Option κ) (d : Datum) : Option (Tally κ) := do
  let entries ← d.entries?
  let entries ← entries.mapM fun e => do
    return (← key e.1, ← e.2.nat? largestTotal)
  return Std.ExtTreeMap.ofList entries

end Tally

namespace Summary

def toDatum (s : Summary) : Datum :=
  .record
    [ ("total_files", .nat s.totalFiles),
      ("unreadable_files", .nat s.unreadableFiles),
      ("outcomes", Tally.toDatum Outcome.name s.outcomes),
      ("tools", Tally.toDatum id s.tools),
      ("domains", Tally.toDatum Domain.name s.domains),
      ("layers", Tally.toDatum Layer.name s.layers) ]

def ofDatum? (d : Datum) : Option Summary := do
  let f ← d.fields? .json
    ["total_files", "unreadable_files", "outcomes", "tools", "domains", "layers"]
  let total := Datum.nat? largestTotal
  return {
    totalFiles := ← f.required "total_files" total
    unreadableFiles := ← f.required "unreadable_files" total
    outcomes := ← f.required "outcomes"
      (Tally.ofDatum? fun s => Outcome.all.find? (·.name == s))
    tools := ← f.required "tools" (Tally.ofDatum? some)
    domains := ← f.required "domains" (Tally.ofDatum? fun s => Domain.all.find? (·.name == s))
    layers := ← f.required "layers" (Tally.ofDatum? fun s => Layer.all.find? (·.name == s)) }

end Summary

namespace Report

def toDatum (r : Report) : Datum :=
  .record [("files", .list (r.files.map Analysis.toDatum)), ("summary", r.summary.toDatum)]

def ofDatum? (d : Datum) : Option Report := do
  let f ← d.fields? .json ["files", "summary"]
  return {
    files := ← f.required "files" (Datum.listOf? Analysis.ofDatum?)
    summary := ← f.required "summary" Summary.ofDatum? }

/-- The report of a list of analyses. -/
def ofAnalyses (tools : ToolNames) (files : List Analysis) : Report :=
  ⟨files, Summary.ofAnalyses tools files⟩

/-- The report as it is written. -/
def render (r : Report) : String := Json.render r.toDatum

/-- Reads a written report. -/
def read? (text : String) : Option Report := (Json.read? text).bind ofDatum?

end Report

end Cutover
