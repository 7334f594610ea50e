import Cutover.Text.Blank
import Mathlib.Data.List.TakeWhile

/-!
# Trimming

What trimming takes off a text is white space at both ends. A word without white space is what is
left of a text just if the text is that word with white space around it.
-/
namespace Cutover.Text

variable {before word after text : List Char}

/-- What is dropped at the end of a text is white space. -/
theorem exists_trimEnd (text : List Char) :
    ∃ gap, text = trimEnd text ++ gap ∧ ∀ c ∈ gap, isBlank c = true := by
  refine ⟨(text.reverse.takeWhile isBlank).reverse, ?_, fun c hc => ?_⟩
  · rw [trimEnd, ← List.reverse_append, List.takeWhile_append_dropWhile, List.reverse_reverse]
  · exact List.mem_takeWhile_imp (List.mem_reverse.mp hc)

theorem exists_trim (text : List Char) :
    ∃ before after, text = before ++ trim text ++ after ∧ (∀ c ∈ before, isBlank c = true) ∧
      ∀ c ∈ after, isBlank c = true := by
  obtain ⟨after, hrest, hafter⟩ := exists_trimEnd (text.dropWhile isBlank)
  refine ⟨text.takeWhile isBlank, after, ?_, fun c hc => List.mem_takeWhile_imp hc, hafter⟩
  rw [trim, List.append_assoc, ← hrest, List.takeWhile_append_dropWhile]

theorem dropWhile_append_word (hbefore : ∀ c ∈ before, isBlank c = true) (hne : word ≠ [])
    (hword : ∀ c ∈ word, isBlank c = false) :
    (before ++ word ++ after).dropWhile isBlank = word ++ after := by
  obtain ⟨c, word, rfl⟩ := List.exists_cons_of_ne_nil hne
  have hc := hword c (by simp)
  rw [List.append_assoc, List.dropWhile_append_of_pos hbefore, List.cons_append,
    List.dropWhile_cons_of_neg (by simp [hc])]

theorem trimEnd_append_word (hafter : ∀ c ∈ after, isBlank c = true) (hne : word ≠ [])
    (hword : ∀ c ∈ word, isBlank c = false) : trimEnd (word ++ after) = word := by
  have hdrop : (after.reverse ++ word.reverse ++ []).dropWhile isBlank = word.reverse ++ [] :=
    dropWhile_append_word (by simpa using hafter) (by simpa using hne) (by simpa using hword)
  rw [List.append_nil, List.append_nil, ← List.reverse_append] at hdrop
  rw [trimEnd, hdrop, List.reverse_reverse]

theorem trim_eq_iff (hne : word ≠ []) (hword : ∀ c ∈ word, isBlank c = false) :
    trim text = word ↔ ∃ before after, text = before ++ word ++ after ∧
      (∀ c ∈ before, isBlank c = true) ∧ ∀ c ∈ after, isBlank c = true := by
  constructor
  · rintro rfl
    exact exists_trim text
  · rintro ⟨before, after, rfl, hbefore, hafter⟩
    rw [trim, dropWhile_append_word hbefore hne hword, trimEnd_append_word hafter hne hword]

end Cutover.Text
