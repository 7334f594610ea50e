import Cutover.Corpus.Summary
import Cutover.Graph.Basic
import Cutover.Rollout.Attempt

/-!
# What the program shows

The lines that are printed for a report, a script, the domain graph and a run.
-/
namespace Cutover.Cli

/-- A text with blanks after it up to a width. A longer text stays as it is. -/
def padRight (width : Nat) (text : String) : String :=
  text ++ String.ofList (List.replicate (width - text.length) ' ')

/-- Names with commas between them. -/
def commas (names : List String) : String := ", ".intercalate names

def reportTitle : List String := ["🔍 SQL Script Analysis", ""]

def countLines (title : String) (entries : List (String × Nat)) : List String :=
  [title] ++ entries.map (fun e => s!"  {e.1} {e.2}") ++ [""]

/-- The summary of a report. Outcomes and tools stand in a column. -/
def summaryLines (tools : ToolNames) (s : Summary) : List String :=
  let column (name : String) : String := padRight 40 name
  [s!"  Files analyzed: {s.totalFiles}"] ++
    (if s.unreadableFiles = 0 then [] else [s!"  Unreadable:     {s.unreadableFiles}"]) ++
    [""] ++
    countLines "Recommendations:"
      (s.outcomes.toList.filterMap fun e =>
        if e.2 = 0 then none else some (column (e.1.render tools), e.2)) ++
    countLines "By tool:" (s.tools.toList.map fun e => (column e.1, e.2)) ++
    countLines "By layer:" (s.layers.toList.map fun e => (e.1.name, e.2)) ++
    countLines "By domain:" (s.domains.toList.map fun e => (e.1.name, e.2))

def incrementalText (i : Incremental) : String :=
  match i.kind, i.recommendation with
  | some kind, some advice => s!"{kind.name} ({advice})"
  | some kind, none => kind.name
  | none, _ => "no"

def timeRangeText : Option TimeRange → String
  | some range => s!"{range.interval} {range.unit.name} ({range.recommendation})"
  | none => "none"

def complexityText (c : Complexity) : String :=
  s!"{c.level.name} (score {c.score}: {c.subqueries} subqueries, {c.joins} joins, " ++
    s!"{c.aggregations} aggregations, {c.caseStatements} CASE, {c.lines} lines)"

def dialectLines (d : Dialect) : List String :=
  if d.generic then ["  Dialect:        generic"]
  else
    (if d.mysql.isEmpty then [] else ["  MySQL:          " ++ commas d.mysql]) ++
      (if d.postgres.isEmpty then [] else ["  PostgreSQL:     " ++ commas d.postgres])

/-- All that is known of one script. -/
def analysisLines (a : Analysis) : List String :=
  [ s!"📄 {a.file}",
    "",
    s!"  Layer:          {a.layer.name}",
    s!"  Domain:         {a.domain.name}",
    "  Tables:         " ++ commas a.tables.toList ] ++
    a.lineage.toList.map (fun e => s!"  Lineage:        {e.1} ← " ++ commas e.2.toList) ++
    [ s!"  Incremental:    {incrementalText a.incremental}",
      s!"  Time range:     {timeRangeText a.timeRange}",
      s!"  Complexity:     {complexityText a.complexity}" ] ++
    dialectLines a.dialect ++
    ["", s!"  Recommendation: {a.recommendation}"]

/-- One domain of the graph, with its place in the order of migration. -/
def domainLines (number : Nat) (s : DomainSpec) : List String :=
  let before := if s.dependsOn.isEmpty then "-" else commas (s.dependsOn.map Domain.name)
  s!"  {number}. {padRight 12 s.name.name} after: {before}" ::
    s.models.map fun m => s!"       {m.label}"

def graphLines (g : DomainGraph) : List String :=
  let specs := g.migrationOrder.filterMap g.find?
  ["📋 Domains (migration order)", ""] ++
    (specs.zipIdx 1).flatMap fun e => domainLines e.2 e.1

/-- A gate with the time at which it was passed or not. -/
def gateLine (o : GateOutcome) : String :=
  let time := o.time.timeOfDay
  let detail := match o.detail with
    | some d => s!": {d}"
    | none => ""
  if o.passed then s!"{time} ✓ {o.gate.label}{detail}"
  else if o.gate.canAbort then s!"{time} ✗ {o.gate.label}{detail}"
  else s!"{time} ⚠ {o.gate.label} failed, continuing{detail}"

def eventLine : Event → String
  | .checking d => s!"  → prerequisite {d.name}"
  | .migrating m => s!"  → {m.label}"
  | .testing => "  → running domain tests"
  | .verifying => "  → verifying row counts"
  | .gate o => gateLine o

def runTitle (d : Domain) (target : String) : List String :=
  [s!"🚚 Migrating domain {d.name} (target: {target})", ""]

/-- How a run came out. -/
def runOutcome (r : Run) : String :=
  if r.isSuccess then s!"✅ Domain migrated: {r.domain.name}"
  else "❌ Migration aborted: " ++ r.reason?.getD ""

end Cutover.Cli
