import Cutover.Proofs.Text.Count
import Cutover.Script.Complexity
import Mathlib.Tactic.Common

/-!
# Joins are words

The words that say what join it is are passed over together with the word JOIN, and no word JOIN is
passed over with them: a join is found for each such word that stands alone, whatever stands before
it.
-/
namespace Cutover

open Text

section Qualifiers

/-- The pattern of the word JOIN, without the words that may come before it. -/
def joinWord : Pattern := Pattern.alone "JOIN"

theorem keywords_join : Keywords ["JOIN"] := ⟨by decide, by decide, by decide⟩

theorem refuses_joinWord {c : Char} : joinWord.refuses c = true ↔ fold 'J' ≠ fold c := by
  rw [Ne, ← sameLetter_iff, Bool.not_eq_true]
  simp [joinWord, Pattern.alone, Pattern.refuses, Piece.refuses]

/-- A stretch of text in which no JOIN begins and behind which a word can begin. -/
structure Qualifier (x : List Char) : Prop where
  refused : ∀ c ∈ x, joinWord.refuses c = true
  ends : ∀ front : List Char, front.getLast?.any isWord = false →
    (front ++ x).getLast?.any isWord = false

namespace Qualifier

variable {x y word gap : List Char} {words : List String}

theorem nil : Qualifier [] := ⟨by simp, by simp⟩

theorem append (hx : Qualifier x) (hy : Qualifier y) : Qualifier (x ++ y) where
  refused c hc := (List.mem_append.mp hc).elim (hx.refused c) (hy.refused c)
  ends front hf := List.append_assoc front x y ▸ hy.ends _ (hx.ends front hf)

/-- A word without a J, and white space behind it. -/
theorem word_gap (hwords : ∀ w ∈ words, fold 'J' ∉ w.toList.map fold) (hword : Spells words word)
    (hne : gap ≠ []) (hgap : ∀ c ∈ gap, isBlank c = true) : Qualifier (word ++ gap) where
  refused c hc := by
    rw [refuses_joinWord]
    intro hj
    rcases List.mem_append.mp hc with hc | hc
    · obtain ⟨w, hmem, he⟩ := hword
      exact hwords w hmem (hj ▸ he ▸ List.mem_map_of_mem hc)
    · have hname : isNameChar c = true := (isNameChar_congr hj).symm.trans (by decide)
      rw [isNameChar_eq_false_of_isBlank (hgap c hc)] at hname
      cases hname
  ends front _ := by
    rw [← List.append_assoc]
    exact ends_of_blank hne hgap

end Qualifier

/-- A phrase that asks for one of some words without a J, and white space, passes over them. -/
theorem exists_qualifier {words : List String} (hw : Keywords words)
    (hwords : ∀ w ∈ words, fold 'J' ∉ w.toList.map fold) {ps : Phrase} {s name rest : List Char}
    (h : readPhrase (.anyOf words :: .gap :: ps) s = some (name, rest)) :
    ∃ x t m, Qualifier x ∧ s = x ++ t ∧ readPhrase ps t = some (m, rest) := by
  simp only [readPhrase_cons_iff, read_anyOf_iff hw, read_gap_iff] at h
  obtain ⟨_, _, _, ⟨rfl, word, rfl, hword⟩, ⟨_, t, m, ⟨rfl, gap, hgap⟩, hrest, -⟩, -⟩ := h
  obtain rfl := hgap.eq
  exact ⟨word ++ gap, t, m, .word_gap hwords hword hgap.ne_nil hgap.all, by simp, hrest⟩

/-- Each reading of a join ends with a word JOIN. -/
theorem exists_joinWord {s name rest : List Char}
    (h : join.phrases.findSome? (readPhrase · s) = some (name, rest)) :
    ∃ x t m, Qualifier x ∧ s = x ++ t ∧
      readPhrase [.letters "JOIN", .wordEnd] t = some (m, rest) := by
  have hkinds : Keywords ["INNER", "LEFT", "RIGHT", "FULL"] := ⟨by decide, by decide, by decide⟩
  have houter : Keywords ["OUTER"] := ⟨by decide, by decide, by decide⟩
  obtain ⟨ps, hps, hread⟩ := List.exists_of_findSome?_eq_some h
  simp only [join, List.mem_cons, List.not_mem_nil, or_false] at hps
  rcases hps with rfl | rfl | rfl
  · obtain ⟨x, t, m, hx, rfl, ht⟩ := exists_qualifier hkinds (by decide) hread
    rw [readPhrase, read_letters, ← readPhrase] at ht
    obtain ⟨y, u, n, hy, rfl, hu⟩ := exists_qualifier houter (by decide) ht
    exact ⟨x ++ y, u, n, hx.append hy, by simp, hu⟩
  · obtain ⟨x, t, m, hx, rfl, ht⟩ := exists_qualifier hkinds (by decide) hread
    exact ⟨x, t, m, hx, rfl, ht⟩
  · exact ⟨[], s, name, .nil, rfl, hread⟩

end Qualifiers

section Scan

/-- Where a pattern cannot be read no part of its choice can. -/
theorem Text.Pattern.readAt_eq_none_of_subset {p q : Pattern} (hat : q.atWord = p.atWord)
    (hsub : q.phrases ⊆ p.phrases) {before : Option Char} {s : List Char}
    (h : p.readAt before s = none) : q.readAt before s = none := by
  rw [readAt] at h ⊢
  rw [hat]
  split at h
  · next hw => rw [if_pos hw]
  · next hw =>
    rw [if_neg hw]
    exact List.findSome?_eq_none_iff.mpr fun ps hps =>
      List.findSome?_eq_none_iff.mp h ps (hsub hps)

/-- A scan for joins finds as many as a scan for the word alone. -/
theorem length_scan_join (front s : List Char) :
    (join.scan 0 front.getLast? s).length = (joinWord.scan 0 front.getLast? s).length := by
  induction hlength : s.length using Nat.strong_induction_on generalizing front s with
  | _ n ih =>
    subst hlength
    cases s with
    | nil => simp [Pattern.scan]
    | cons c s =>
      cases hread : join.readAt front.getLast? (c :: s) with
      | none =>
        have hnext := ih s.length (by simp) (front ++ [c]) s rfl
        rw [List.getLast?_concat] at hnext
        have hsub : joinWord.phrases ⊆ join.phrases := by simp [joinWord, Pattern.alone, join]
        have hat : joinWord.atWord = join.atWord := rfl
        have hnone := Pattern.readAt_eq_none_of_subset hat hsub hread
        rw [Pattern.scan, Pattern.scan, hread, hnone, hnext]
      | some r =>
        obtain ⟨name, rest⟩ := r
        have hfront : front.getLast?.any isWord = false := by
          by_contra hw
          simp [Pattern.readAt, join, hw] at hread
        have hphrase : join.phrases.findSome? (readPhrase · (c :: s)) = some (name, rest) := by
          simpa [Pattern.readAt, hfront] using hread
        -- the match is a stretch without a JOIN and then the word, where both scans find one
        obtain ⟨x, t, m, hx, hs, ht⟩ := exists_joinWord hphrase
        obtain ⟨rfl, word, rfl, hword, hend⟩ := readPhrase_alone_iff.mp ht
        have hne : word ≠ [] := Spells.ne_nil keywords_join ⟨"JOIN", by simp, hword⟩
        have halone : joinWord.readAt (front ++ x).getLast? (word ++ rest) = some ([], rest) := by
          rw [Pattern.readAt, hx.ends front hfront, Bool.and_false, if_neg Bool.false_ne_true]
          simpa [joinWord, Pattern.alone] using ht
        have hpos := List.length_pos_iff.mpr hne
        have hshorter : rest.length < (c :: s).length := by
          rw [hs, List.length_append, List.length_append]
          omega
        have hnext := ih rest.length hshorter (front ++ x ++ word) rest rfl
        rw [hs, Pattern.scan_of_refuses hx.refused, Pattern.scan_of_readAt halone hne,
          ← List.append_assoc]
        rw [hs, ← List.append_assoc] at hread
        rw [Pattern.scan_of_readAt hread (by simp [hne]), List.length_cons, List.length_cons,
          ← List.append_assoc, hnext]

theorem count_join (sql : String) : join.count sql = joinWord.count sql :=
  length_scan_join [] sql.toList

end Scan

end Cutover
