import Cutover.Text.Pattern
import Std.Data.ExtTreeSet
import Std.Data.ExtTreeMap

/-!
# Tables of a script

Table names are picked up after the words that introduce them; no grammar of SQL stands behind
it. An extractor tells the tables a script refers to and those it inserts into, and the
lineage of the script follows from the two sets.
-/
namespace Cutover

open Text

abbrev NameSet := Std.ExtTreeSet String

/-- Each inserted table with all other tables of the script. -/
abbrev Lineage := Std.ExtTreeMap String NameSet

def reference : Pattern :=
  ⟨true, [[.anyOf ["FROM", "JOIN", "INTO"], .gap, .name true]]⟩

/-- A table named after UPDATE. After KEY or DO the word belongs to an upsert clause: the
match is passed over and names no table. -/
def updated : Pattern :=
  ⟨true,
    [ [.anyOf ["KEY", "DO"], .gap, .letters "UPDATE", .gap, .name false],
      [.letters "UPDATE", .gap, .name true] ]⟩

/-- A table named after INSERT INTO, with or without IGNORE. -/
def inserted : Pattern :=
  ⟨true,
    [ [.letters "INSERT", .gap, .letters "IGNORE", .gap, .letters "INTO", .gap, .name true],
      [.letters "INSERT", .gap, .letters "INTO", .gap, .name true] ]⟩

/-- Words that can follow those keywords and never name a table. -/
def reserved : List String := ["select", "set", "values", "where"]

def namesOf (p : Pattern) (sql : String) : List String :=
  ((p.matches sql).filter (!·.isEmpty)).map fun n => String.ofList (n.map Char.toLower)

/-- Tells the tables of a script. -/
structure TableExtractor where
  tables : String → NameSet
  targets : String → NameSet

namespace TableExtractor

/-- Each target with all other tables of the script. -/
def lineage (e : TableExtractor) (sql : String) : Lineage :=
  let tables := e.tables sql
  Std.ExtTreeMap.ofList ((e.targets sql).toList.map fun t => (t, tables.erase t))

/-- The extractor by keywords. Reserved words are left out of the tables, not of the targets. -/
def byKeyword : TableExtractor where
  tables sql :=
    Std.ExtTreeSet.ofList
      ((namesOf reference sql ++ namesOf updated sql).filter (!reserved.contains ·))
  targets sql := Std.ExtTreeSet.ofList (namesOf inserted sql)

end TableExtractor

end Cutover
