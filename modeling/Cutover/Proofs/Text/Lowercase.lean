import Cutover.Text.Lowercase
import Mathlib.Data.List.Infix
import Mathlib.Tactic.Common

/-!
# Words in lower-case texts

Which of the two small sigmas a capital one becomes in lower case depends on the letters around it.
A word without a sigma occurs in one lower-case form of a text just if it occurs in another.
-/
namespace Cutover.Text

variable {low s word : List Char}

theorem occursIn_iff : occursIn word s = true ↔ word <:+: s := by
  induction s with
  | nil => simp [occursIn]
  | cons c s ih =>
    rw [occursIn, Bool.or_eq_true, ih, List.isPrefixOf_iff_prefix, List.infix_cons_iff]

/-- The small sigma at the end of a word taken for the other one. -/
def oneSigma (c : Char) : Char := if c = '\u03c2' then '\u03c3' else c

/-- Whether a text is a lower-case form of another one, with either small sigma for a capital
one. -/
def IsLowerOf (low s : List Char) : Prop := low.map oneSigma = (lower s).map oneSigma

theorem isLowerOf_lower (s : List Char) : IsLowerOf (lower s) s := rfl

/-- Whether neither small sigma stands in a word. -/
def NoSigma (word : List Char) : Prop := '\u03c2' ∉ word ∧ '\u03c3' ∉ word

instance (word : List Char) : Decidable (NoSigma word) := inferInstanceAs (Decidable (_ ∧ _))

theorem map_oneSigma_eq_iff (h : NoSigma word) : s.map oneSigma = word ↔ s = word := by
  induction word generalizing s with
  | nil => simp
  | cons c word ih =>
    rw [NoSigma, List.mem_cons, List.mem_cons, not_or, not_or] at h
    obtain ⟨⟨hc, hw⟩, hc', hw'⟩ := h
    cases s with
    | nil => simp
    | cons d s =>
      have hd : oneSigma d = c ↔ d = c := by
        unfold oneSigma
        split
        · next hd => simp [hd, hc, hc']
        · rfl
      rw [List.map_cons, List.cons.injEq, List.cons.injEq, hd, ih ⟨hw, hw'⟩]

theorem infix_map_oneSigma_iff (h : NoSigma word) : word <:+: s.map oneSigma ↔ word <:+: s := by
  constructor
  · rintro ⟨before, after, hs⟩
    obtain ⟨front, after', rfl, hfront, -⟩ := List.map_eq_append_iff.mp hs.symm
    obtain ⟨before', word', rfl, -, hword⟩ := List.map_eq_append_iff.mp hfront
    obtain rfl := (map_oneSigma_eq_iff h).mp hword
    exact ⟨before', after', rfl⟩
  · intro hs
    have hmap := hs.map oneSigma
    rwa [(map_oneSigma_eq_iff h).mpr rfl] at hmap

theorem IsLowerOf.infix_iff (hlow : IsLowerOf low s) (h : NoSigma word) :
    word <:+: low ↔ word <:+: lower s := by
  rw [← infix_map_oneSigma_iff h, hlow, infix_map_oneSigma_iff h]

end Cutover.Text
