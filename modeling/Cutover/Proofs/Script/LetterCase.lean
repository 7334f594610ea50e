import Cutover.Proofs.Text.LetterCase
import Cutover.Script.Analysis
import Mathlib.Data.List.TakeWhile

/-!
# Scripts in another letter case

Everything that is learnt from the text of a script can be learnt from its lower-case form in ASCII.
So two scripts that differ in the case of such letters only have the same analysis, whatever other
letters stand in them.
-/
namespace Cutover

open Text

theorem namesOf_asciiLower (p : Pattern) (sql : String) :
    namesOf p (asciiLower sql) = namesOf p sql := by
  simp only [namesOf, p.matches_asciiLower, List.filter_map, List.map_map, Function.comp_def,
    List.isEmpty_map, toLower_toLower]

namespace TableExtractor

/-- Whether the extractor tells the same of a script and of its lower-case form. -/
structure IgnoresCase (e : TableExtractor) : Prop where
  tables : ∀ sql, e.tables (asciiLower sql) = e.tables sql
  targets : ∀ sql, e.targets (asciiLower sql) = e.targets sql

theorem ignoresCase_byKeyword : byKeyword.IgnoresCase where
  tables sql := by simp only [byKeyword, namesOf_asciiLower]
  targets sql := by simp only [byKeyword, namesOf_asciiLower]

theorem IgnoresCase.lineage {e : TableExtractor} (h : e.IgnoresCase) (sql : String) :
    e.lineage (asciiLower sql) = e.lineage sql := by
  simp only [TableExtractor.lineage, h.tables, h.targets]

end TableExtractor

section Findings

variable (sql : String)

theorem Domain.ofScript_asciiLower : ofScript (asciiLower sql) = ofScript sql := by
  simp only [ofScript, asciiLower, String.toList_ofList, lower_map_toLower]

theorem LoadKind.detect?_asciiLower : detect? (asciiLower sql) = detect? sql := by
  simp only [detect?, Pattern.found_asciiLower]

theorem Dialect.ofScript_asciiLower : ofScript (asciiLower sql) = ofScript sql := by
  simp only [ofScript, constructsIn, Pattern.found_asciiLower]

theorem Complexity.ofScript_asciiLower : ofScript (asciiLower sql) = ofScript sql := by
  have hlines : (asciiLower sql).toList.count '\n' = sql.toList.count '\n' := by
    simp only [asciiLower, String.toList_ofList, List.count, List.countP_map]
    congr 1
    funext c
    simp [toLower_eq_newline_iff]
  simp only [ofScript, Pattern.count_asciiLower, hlines]

end Findings

theorem readAscii_map_toLower (word s : List Char) :
    readAscii word (s.map Char.toLower) = (readAscii word s).map (List.map Char.toLower) := by
  induction word generalizing s with
  | nil => simp [readAscii]
  | cons l word ih =>
    cases s with
    | nil => rfl
    | cons c s =>
      simp only [List.map_cons, readAscii, toLower_toLower, ih]
      split <;> rfl

namespace Window

variable (s : List Char)

@[simp] theorem isSpace_toLower (c : Char) : isSpace c.toLower = isSpace c :=
  apply_toLower (by decide) c

@[simp] theorem isDigit_toLower (c : Char) : c.toLower.isDigit = c.isDigit :=
  apply_toLower (f := Char.isDigit) (by decide) c

theorem readSpace_map_toLower :
    readSpace (s.map Char.toLower) = (readSpace s).map (List.map Char.toLower) := by
  simp only [readSpace, any_head?_map_toLower isSpace_toLower,
    dropWhile_map_toLower isSpace_toLower]
  split <;> rfl

/-- A run of digits has no letters whose case could be changed. -/
theorem map_toLower_takeWhile_isDigit :
    (s.takeWhile Char.isDigit).map Char.toLower = s.takeWhile Char.isDigit := by
  refine (List.map_congr_left fun c hc => ?_).trans (List.map_id _)
  have hdigit : c.isDigit = true := List.mem_takeWhile_imp hc
  have hcapitals : capitals.all (!·.isDigit) = true := by decide
  have hupper : ¬c.isUpper = true := by
    intro h
    simpa [hdigit] using List.all_eq_true.mp hcapitals c (mem_capitals_of_isUpper h)
  exact toLower_of_not_isUpper hupper

theorem readInterval_map_toLower :
    readInterval (s.map Char.toLower) =
      (readInterval s).map fun r => (r.1, r.2.map Char.toLower) := by
  simp only [readInterval, any_head?_map_toLower isDigit_toLower,
    dropWhile_map_toLower isDigit_toLower, takeWhile_map_toLower isDigit_toLower,
    map_toLower_takeWhile_isDigit]
  split <;> rfl

theorem readUnit_map_toLower :
    readUnit (s.map Char.toLower) = (readUnit s).map fun r => (r.1, r.2.map Char.toLower) := by
  refine findSome?_eq_map fun u _ => ?_
  rw [readAscii_map_toLower, Option.map_map, Option.map_map]
  rfl

theorem readAt_map_toLower : readAt (s.map Char.toLower) = readAt s := by
  simp only [readAt, readAscii_map_toLower, readSpace_map_toLower, readInterval_map_toLower,
    readUnit_map_toLower, Option.bind_eq_bind, Option.bind_map, Function.comp_def]

theorem first?_map_toLower : first? (s.map Char.toLower) = first? s := by
  induction s with
  | nil => rfl
  | cons c s ih =>
    have hread := readAt_map_toLower (c :: s)
    simp only [List.map_cons] at hread ⊢
    simp only [first?, hread, ih]

end Window

theorem TimeRange.ofScript?_asciiLower (sql : String) :
    TimeRange.ofScript? (asciiLower sql) = TimeRange.ofScript? sql := by
  simp only [ofScript?, asciiLower, String.toList_ofList, Window.first?_map_toLower]

namespace Analysis

/-- All that is learnt from a script is learnt from its lower-case form. -/
theorem ofScript_asciiLower {e : TableExtractor} (he : e.IgnoresCase) (tools : ToolNames)
    (file sql : String) : ofScript e tools file (asciiLower sql) = ofScript e tools file sql := by
  simp only [ofScript, he.tables, he.lineage, Domain.ofScript_asciiLower,
    LoadKind.detect?_asciiLower, Dialect.ofScript_asciiLower, Complexity.ofScript_asciiLower,
    TimeRange.ofScript?_asciiLower]

/-- Two texts that differ in the case of ASCII letters only have the same analysis: the same
tables and lineage, domain, load idiom, look-back window, counts, constructs of the dialects and
recommendation. -/
theorem ofScript_congr_case (tools : ToolNames) (file : String) {sql sql' : String}
    (h : asciiLower sql = asciiLower sql') :
    ofScript .byKeyword tools file sql = ofScript .byKeyword tools file sql' := by
  have hlower := ofScript_asciiLower TableExtractor.ignoresCase_byKeyword tools file
  rw [← hlower sql, h, hlower]

theorem ofScript_congr_case_insert :
    let sql := "INSERT INTO Ziel SELECT SUM(x) FROM \u017frc WHERE y >= CurDate()"
    let sql' := "insert into zIEL select sum(X) from \u017fRC where Y >= curdate()"
    sql ≠ sql' ∧ asciiLower sql = asciiLower sql' ∧
      ofScript .byKeyword {} "ods_1.sql" sql = ofScript .byKeyword {} "ods_1.sql" sql' := by
  intro sql sql'
  have hne : sql ≠ sql' := by decide +kernel
  have hcase : asciiLower sql = asciiLower sql' := by decide +kernel
  exact ⟨hne, hcase, ofScript_congr_case {} "ods_1.sql" hcase⟩

end Analysis

end Cutover
