import Cutover.Text.Pattern

/-!
# Incremental loads

The idioms by which a script loads only what is new, and what is advised for such a script.
-/
namespace Cutover

open Text

/-- An incremental-load idiom, in the order in which idioms are tried. -/
inductive LoadKind where
  | mysqlUpsert
  | postgresUpsert
  | merge
  | timeFilter
  deriving DecidableEq, Repr

namespace LoadKind

def all : List LoadKind := [.mysqlUpsert, .postgresUpsert, .merge, .timeFilter]

def name : LoadKind → String
  | mysqlUpsert => "mysql_upsert"
  | postgresUpsert => "postgres_upsert"
  | merge => "merge"
  | timeFilter => "time_filter"

/-- The construct that shows the idiom: the upsert clause of either system, a MERGE, or a lower
bound on a date, all on one line, or one that the scheduler fills in. -/
def pattern : LoadKind → Pattern
  | mysqlUpsert =>
    ⟨false, [[.letters "ON", .gap, .letters "DUPLICATE", .gap, .letters "KEY", .gap,
      .letters "UPDATE"]]⟩
  | postgresUpsert => ⟨false, [[.letters "ON", .gap, .letters "CONFLICT"]]⟩
  | merge => ⟨false, [[.letters "MERGE", .gap, .letters "INTO"]]⟩
  | timeFilter =>
    ⟨false,
      [ [.letters "WHERE", .later ">=", .later "DATE"],
        [.letters "@start_ds"],
        [.letters "@end_ds"] ]⟩

def detect? (sql : String) : Option LoadKind := all.find? (·.pattern.found sql)

end LoadKind

/-- What an analysis says of incremental loading. -/
structure Incremental where
  detected : Bool
  kind : Option LoadKind := none
  recommendation : Option String := none
  deriving DecidableEq

namespace Incremental

/-- The advice for a script with the given idiom, or none, where `tool` can load
incrementally. -/
def ofKind (kind : Option LoadKind) (tool : String) : Incremental :=
  match kind with
  | some k => ⟨true, some k, some s!"use {tool} INCREMENTAL_BY_TIME_RANGE"⟩
  | none => ⟨false, none, none⟩

end Incremental

end Cutover
