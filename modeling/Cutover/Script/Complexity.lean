import Cutover.Text.Pattern

/-!
# Complexity of a script

Four kinds of construct are counted and weighed; the level follows from the sum. Counts and sums
are words of 32 bits: of a larger number they keep the lowest ones.
-/
namespace Cutover

open Text

/-- How hard a script is to move. -/
inductive Level where
  | low
  | medium
  | high
  deriving DecidableEq, Repr

namespace Level

def all : List Level := [.low, .medium, .high]

def name : Level → String
  | low => "low"
  | medium => "medium"
  | high => "high"

/-- Above 20 a score is high, above 10 it is medium. -/
def ofScore (score : UInt32) : Level :=
  if 20 < score then .high else if 10 < score then .medium else .low

end Level

/-- The counts of one script, with score and level. -/
structure Complexity where
  subqueries : UInt32
  joins : UInt32
  aggregations : UInt32
  caseStatements : UInt32
  /-- Reported only: lines weigh nothing. -/
  lines : UInt32
  score : UInt32
  level : Level
  deriving DecidableEq

def subquery : Pattern := ⟨false, [[.letters "(SELECT"]]⟩

/-- The word JOIN, together with the words that say what join it is. -/
def join : Pattern :=
  let kinds := .anyOf ["INNER", "LEFT", "RIGHT", "FULL"]
  ⟨true,
    [ [kinds, .gap, .letters "OUTER", .gap, .letters "JOIN", .wordEnd],
      [kinds, .gap, .letters "JOIN", .wordEnd],
      [.letters "JOIN", .wordEnd] ]⟩

def aggregation : Pattern :=
  ⟨true, [[.anyOf ["SUM", "COUNT", "AVG", "MAX", "MIN"], .loose, .letters "("]]⟩

def caseWord : Pattern := ⟨true, [[.letters "CASE", .wordEnd]]⟩

namespace Complexity

def ofCounts (subqueries joins aggregations caseStatements lines : UInt32) : Complexity :=
  let score := 3 * subqueries + 2 * joins + aggregations + caseStatements
  ⟨subqueries, joins, aggregations, caseStatements, lines, score, Level.ofScore score⟩

/-- Counts what stands in a script, and its lines: one more than there are line breaks. -/
def ofScript (sql : String) : Complexity :=
  ofCounts (.ofNat (subquery.count sql)) (.ofNat (join.count sql))
    (.ofNat (aggregation.count sql)) (.ofNat (caseWord.count sql))
    (.ofNat (sql.toList.count '\n' + 1))

end Complexity

end Cutover
