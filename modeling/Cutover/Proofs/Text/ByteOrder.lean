import Cutover.Proofs.Text.Bytes
import Mathlib.Data.List.Nodup

/-!
# The order of bytes

Texts are in order as their bytes are: of two characters the first byte in which they differ tells
which one is the smaller. Texts in increasing order are known by what they are.
-/
namespace Cutover.Text

/-- Numbers are compared by their last digit to the base 64 if they agree before it. -/
theorem digit_lt {v w : Nat} (h : v < w) :
    v / 64 < w / 64 ∨ v / 64 = w / 64 ∧ v % 64 < w % 64 := by omega

theorem utf8EncodeChar_append_lt {c d : Char} (h : c < d) (s s' : List UInt8) :
    String.utf8EncodeChar c ++ s < String.utf8EncodeChar d ++ s' := by
  have hlt : c.val.toNat < d.val.toNat := h
  have hd : d.val.toNat < 0x110000 := by
    rcases d.valid with hv | hv
    · exact Nat.lt_trans hv (by decide)
    · exact hv.2
  unfold String.utf8EncodeChar
  generalize c.val.toNat = v at *
  generalize d.val.toNat = w at *
  have h₁ := digit_lt hlt
  have h₂ : v / 64 < w / 64 → _ := digit_lt
  have h₃ : v / 4096 < w / 4096 → _ := digit_lt
  simp only [Nat.div_div_eq_div_mul, Nat.reduceMul] at h₂ h₃
  -- no digit is too large for its byte
  have hbyte : ∀ a, (a % 64 + 128) % 2 ^ 8 = a % 64 + 128 := by omega
  have hv : (v / 262144 % 8 + 240) % 2 ^ 8 = v / 262144 + 240 := by omega
  have hw : (w / 262144 % 8 + 240) % 2 ^ 8 = w / 262144 + 240 := by omega
  dsimp only
  split_ifs <;>
    simp only [List.cons_append, List.nil_append, List.cons_lt_cons_iff, UInt8.lt_iff_toNat_lt,
      ← UInt8.toNat_inj, UInt8.toNat_ofNat', hbyte, hv, hw, Nat.add_lt_add_iff_right,
      Nat.add_right_cancel_iff] <;>
    omega

theorem flatMap_utf8EncodeChar_lt {a b : List Char} (h : a < b) :
    a.flatMap String.utf8EncodeChar < b.flatMap String.utf8EncodeChar := by
  induction h with
  | @nil c b =>
    have hne : String.utf8EncodeChar c ≠ [] := by
      rw [← List.length_pos_iff_ne_nil, String.length_utf8EncodeChar]
      exact c.utf8Size_pos
    obtain ⟨byte, bytes, hc⟩ := List.exists_cons_of_ne_nil hne
    simp [hc]
  | cons _ ih =>
    rw [List.flatMap_cons, List.flatMap_cons]
    exact List.append_left_lt ih
  | rel h =>
    rw [List.flatMap_cons, List.flatMap_cons]
    exact utf8EncodeChar_append_lt h _ _

theorem bytes_lt_of_compare {a b : String} (h : compare a b = .lt) : bytes a < bytes b := by
  have hlt : a < b := compareOfLessAndEq_eq_lt.mp h
  have hbytes := flatMap_utf8EncodeChar_lt (String.lt_iff.mp hlt)
  simpa [← bytes_ofList] using hbytes

/-- Whether each text is smaller than those after it. -/
def Increasing (texts : List String) : Prop := texts.Pairwise (compare · · = .lt)

namespace Increasing

variable {texts texts' : List String} {text : String}

theorem bytes (h : Increasing texts) : (texts.map Text.bytes).Pairwise (· < ·) :=
  List.pairwise_map.mpr (h.imp bytes_lt_of_compare)

theorem nodup (h : Increasing texts) : texts.Nodup :=
  h.imp fun hlt heq => by simp [heq] at hlt

theorem eq_of_mem_iff (h : Increasing texts) (h' : Increasing texts')
    (hmem : ∀ s, s ∈ texts ↔ s ∈ texts') : texts = texts' := by
  have hperm : texts.Perm texts' := (List.perm_ext_iff_of_nodup h.nodup h'.nodup).mpr hmem
  refine hperm.eq_of_pairwise (fun s s' _ _ hlt hgt => ?_) h h'
  rw [Std.OrientedOrd.eq_swap (a := s), hgt] at hlt
  cases hlt

/-- A further text stands somewhere between the others. -/
theorem exists_insert (h : Increasing texts) (h' : Increasing texts') (hn : text ∉ texts)
    (hmem : ∀ s, s ∈ texts' ↔ s = text ∨ s ∈ texts) :
    ∃ before after, texts = before ++ after ∧ texts' = before ++ text :: after := by
  obtain ⟨before, after, rfl⟩ := List.append_of_mem ((hmem text).mpr (.inl rfl))
  refine ⟨before, after, ?_, rfl⟩
  have hothers := (List.nodup_cons.mp (List.nodup_middle.mp h'.nodup)).1
  refine h.eq_of_mem_iff (h'.sublist (by simp)) fun s => ?_
  by_cases hs : s = text
  · rw [hs]
    exact iff_of_false hn hothers
  · simpa [hs] using (hmem s).symm

/-- Sorting makes texts that differ from each other increase. -/
theorem mergeSort (h : texts.Nodup) : Increasing (texts.mergeSort (compare · · |>.isLE)) := by
  have htotal : ∀ s s' : String, ((compare s s').isLE || (compare s' s).isLE) = true := by
    intro s s'
    rw [Std.OrientedOrd.eq_swap (a := s')]
    cases compare s s' <;> rfl
  have hsorted := List.pairwise_mergeSort (fun _ _ _ => Std.TransCmp.isLE_trans) htotal texts
  have hnodup := (List.mergeSort_perm texts (compare · · |>.isLE)).nodup_iff.mpr h
  refine (hsorted.and hnodup).imp fun ⟨hle, hne⟩ => ?_
  rw [Ordering.isLE_iff_eq_lt_or_eq_eq] at hle
  exact hle.resolve_right fun heq => hne (Std.LawfulEqOrd.eq_of_compare heq)

end Increasing

end Cutover.Text
