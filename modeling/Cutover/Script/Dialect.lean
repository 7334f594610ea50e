import Cutover.Text.Pattern

/-!
# Dialects

Constructs that only one of the two database systems knows. A script may use both.
-/
namespace Cutover

open Text

/-- A construct that belongs to one dialect. -/
structure Construct where
  label : String
  pattern : Pattern

def mysqlConstructs : List Construct :=
  [ ⟨"ON DUPLICATE KEY UPDATE",
      ⟨false, [[.letters "ON", .gap, .letters "DUPLICATE", .gap, .letters "KEY", .gap,
        .letters "UPDATE"]]⟩⟩,
    ⟨"CURDATE()", ⟨false, [[.letters "CURDATE()"]]⟩⟩,
    ⟨"DATE_SUB()", ⟨false, [[.letters "DATE_SUB("]]⟩⟩,
    ⟨"QUARTER()", ⟨false, [[.letters "QUARTER("]]⟩⟩ ]

def postgresConstructs : List Construct :=
  [ ⟨"ON CONFLICT", ⟨false, [[.letters "ON", .gap, .letters "CONFLICT"]]⟩⟩,
    ⟨"CURRENT_DATE", ⟨false, [[.letters "CURRENT_DATE"]]⟩⟩,
    ⟨"DATE_TRUNC()", ⟨false, [[.letters "DATE_TRUNC("]]⟩⟩,
    ⟨"EXTRACT()", ⟨false, [[.letters "EXTRACT("]]⟩⟩ ]

def constructsIn (constructs : List Construct) (sql : String) : List String :=
  (constructs.filter (·.pattern.found sql)).map (·.label)

/-- What an analysis says of dialects. -/
structure Dialect where
  mysql : List String
  postgres : List String
  /-- Whether the script keeps to what both systems know. -/
  generic : Bool
  deriving DecidableEq

def Dialect.ofScript (sql : String) : Dialect :=
  let mysql := constructsIn mysqlConstructs sql
  let postgres := constructsIn postgresConstructs sql
  ⟨mysql, postgres, mysql.isEmpty && postgres.isEmpty⟩

end Cutover
