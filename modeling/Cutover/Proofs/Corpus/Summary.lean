import Cutover.Proofs.Corpus.Counting

/-!
# Numbers in summaries

A summary counts files, so none of its numbers is larger than that of the files.
-/
namespace Cutover

/-- Whether no number is larger than `n`. -/
def Tally.AtMost {κ : Type} [Ord κ] [Std.TransOrd κ] (n : Nat) (t : Tally κ) : Prop :=
  ∀ (k : κ) (m : Nat), t[k]? = some m → m ≤ n

/-- No kind has more places in a list than the list has. -/
theorem Tally.Counts.atMost {κ : Type} [Ord κ] [Std.TransOrd κ] [DecidableEq κ] {t : Tally κ}
    {ks : List κ} (h : t.Counts ks) : t.AtMost ks.length := by
  intro k m hm
  have hnumber := h.getD_eq k
  rw [Std.ExtTreeMap.getD_eq_getD_getElem?, hm, Option.getD_some] at hnumber
  exact hnumber ▸ List.count_le_length

/-- Whether no number is larger than `n`. -/
structure Summary.AtMost (n : Nat) (s : Summary) : Prop where
  totalFiles : s.totalFiles ≤ n
  unreadableFiles : s.unreadableFiles ≤ n
  outcomes : s.outcomes.AtMost n
  tools : s.tools.AtMost n
  domains : s.domains.AtMost n
  layers : s.layers.AtMost n

namespace Summary

variable {n : Nat} {s : Summary} {tools : ToolNames} {files : List Analysis}

theorem Counts.atMost (h : s.Counts tools files) : s.AtMost files.length where
  totalFiles := h.totalFiles.le
  unreadableFiles := h.unreadableFiles ▸ List.countP_le_length
  outcomes := by simpa using h.outcomes.atMost
  tools := by simpa using h.tools.atMost
  domains := by simpa using h.domains.atMost
  layers := by simpa using h.layers.atMost

/-- No number in a summary is larger than that of the files. -/
theorem atMost_ofAnalyses (tools : ToolNames) (files : List Analysis) :
    (ofAnalyses tools files).AtMost files.length := (counts_ofAnalyses tools files).atMost

theorem AtMost.mono {m : Nat} (h : s.AtMost n) (hle : n ≤ m) : s.AtMost m where
  totalFiles := Nat.le_trans h.totalFiles hle
  unreadableFiles := Nat.le_trans h.unreadableFiles hle
  outcomes k l hl := Nat.le_trans (h.outcomes k l hl) hle
  tools k l hl := Nat.le_trans (h.tools k l hl) hle
  domains k l hl := Nat.le_trans (h.domains k l hl) hle
  layers k l hl := Nat.le_trans (h.layers k l hl) hle

end Summary

end Cutover
