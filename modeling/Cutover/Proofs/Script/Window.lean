import Cutover.Proofs.Text.Separator
import Cutover.Script.Window

/-!
# Windows before a semicolon

Nothing in a window takes a semicolon, so what is read of one is read the same way at the end of a
statement as at the end of a script.
-/
namespace Cutover

open Text

/-- Whether a character is none of the letters of a word, up to ASCII case. -/
def sparesAscii (c : Char) (word : List Char) : Bool := word.all (·.toLower != c.toLower)

theorem readAscii_append {word : List Char} {c : Char} (h : sparesAscii c word = true)
    (a s : List Char) : readAscii word (a ++ c :: s) = (readAscii word a).map (· ++ c :: s) := by
  induction word generalizing a with
  | nil => simp [readAscii]
  | cons l word ih =>
    obtain ⟨hl, hword⟩ : ¬l.toLower = c.toLower ∧ sparesAscii c word = true := by
      simpa [sparesAscii] using h
    cases a with
    | nil => simp [readAscii, hl]
    | cons x a =>
      simp only [List.cons_append, readAscii, ih hword]
      split <;> rfl

namespace Window

variable (a s : List Char)

theorem readSpace_append :
    readSpace (a ++ ';' :: s) = (readSpace a).map (· ++ ';' :: s) := by
  have hc : isSpace ';' = false := by decide
  simp only [readSpace, any_head?_append_cons hc, dropWhile_append_cons hc]
  split <;> rfl

theorem readInterval_append :
    readInterval (a ++ ';' :: s) = (readInterval a).map fun r => (r.1, r.2 ++ ';' :: s) := by
  have hc : Char.isDigit ';' = false := by decide
  simp only [readInterval, any_head?_append_cons hc, takeWhile_append_cons hc,
    dropWhile_append_cons hc]
  split <;> rfl

theorem readUnit_append :
    readUnit (a ++ ';' :: s) = (readUnit a).map fun r => (r.1, r.2 ++ ';' :: s) := by
  have hall : ∀ u ∈ TimeUnit.all, sparesAscii ';' u.name.toList = true := by decide
  refine findSome?_eq_map fun u hu => ?_
  rw [readAscii_append (hall u hu), Option.map_map, Option.map_map]
  rfl

/-- A window is read before a semicolon as at the end of the text. -/
theorem readAt_append : readAt (a ++ ';' :: s) = readAt a := by
  have hanchor : sparesAscii ';' anchor = true := by decide
  have hword : sparesAscii ';' "interval".toList = true := by decide
  have hclose : sparesAscii ';' [')'] = true := by decide
  simp only [readAt, readAscii_append hanchor, readAscii_append hword, readAscii_append hclose,
    readSpace_append, readInterval_append, readUnit_append, Option.bind_eq_bind, Option.bind_map,
    Function.comp_def]

/-- No window begins with a character other than the first of its anchor. -/
theorem readAt_cons {c : Char} (h : ('d'.toLower == c.toLower) = false) :
    readAt (c :: s) = none := by
  have hanchor : anchor = 'd' :: anchor.tail := by decide
  have hread : readAscii anchor (c :: s) = none := by
    rw [hanchor, readAscii, if_neg (by simpa only [Bool.not_eq_true] using h)]
  rw [readAt, hread]
  rfl

/-- The first window of two statements is that of the first one, if it has one. -/
theorem first?_append :
    first? (a ++ ';' :: '\n' :: s) = (first? a).orElse fun _ => first? s := by
  induction a with
  | nil =>
    have hsemicolon := readAt_cons ('\n' :: s) (c := ';') (by decide)
    have hline := readAt_cons s (c := '\n') (by decide)
    simp [first?, hsemicolon, hline]
  | cons c a ih =>
    rw [List.cons_append, first?, ← List.cons_append, readAt_append, ih, first?]
    cases readAt (c :: a) <;> rfl

end Window

/-- The look-back window of two statements is that of the first one, if it has one. -/
theorem TimeRange.ofScript?_statements (a b : String) :
    TimeRange.ofScript? (a ++ ";\n" ++ b) =
      (TimeRange.ofScript? a).orElse fun _ => TimeRange.ofScript? b := by
  have hwhole : (a ++ ";\n" ++ b).toList = a.toList ++ ';' :: '\n' :: b.toList := by simp
  rw [TimeRange.ofScript?, TimeRange.ofScript?, TimeRange.ofScript?, hwhole, Window.first?_append]
  cases Window.first? a.toList <;> rfl

end Cutover
