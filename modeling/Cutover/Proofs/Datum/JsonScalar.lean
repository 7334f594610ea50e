import Cutover.Datum.Json
import Cutover.Datum.JsonText
import Mathlib.Tactic.Common

/-!
# Texts and numbers of JSON are read as they were written

A text in quotes and a whole number are read back from their written form, whatever text follows
in which they end.
-/
namespace Cutover.Json

/-- A written value ends before this text: at a comma, at the end of the line or at the end. -/
def Ends (rest : List Char) : Prop := ∀ c ∈ rest.head?, c = ',' ∨ c = '\n'

section texts

theorem hexDigit?_hexChar : ∀ n < 16, hexDigit? (hexChar n) = some n := by decide

theorem hex4?_control {n : Nat} (h : n < 0x20) :
    hex4? '0' '0' (hexChar (n / 16)) (hexChar (n % 16)) = some n := by
  have hzero : hexDigit? '0' = some 0 := by decide
  have hhigh := hexDigit?_hexChar (n / 16) (by omega)
  have hlow := hexDigit?_hexChar (n % 16) (by omega)
  simp only [hex4?, hzero, hhigh, hlow, Option.bind_eq_bind, Option.bind_some, Option.pure_def,
    Option.some.injEq]
  omega

/-- The characters that are written with a backslash and a letter. -/
def lettered : List Char := ['"', '\\', '\u0008', '\u000c', '\n', '\r', '\t']

/-- The unit that a character is read as. -/
def unitOf (c : Char) : TextUnit :=
  if c ∉ lettered ∧ c.toNat < 0x20 then .code c.toNat else .char c

theorem readUnits_escape (c : Char) (s : List Char) :
    readUnits (escape c ++ s) = (readUnits s).map fun r => (unitOf c :: r.1, r.2) := by
  by_cases hl : c ∈ lettered
  · have hu : unitOf c = .char c := by simp [unitOf, hl]
    rw [hu]
    simp only [lettered, List.mem_cons, List.not_mem_nil, or_false] at hl
    rcases hl with rfl | rfl | rfl | rfl | rfl | rfl | rfl <;>
      cases h : readUnits s <;> simp [escape, readUnits, escaped?, h]
  have hne := hl
  simp only [lettered, List.mem_cons, List.not_mem_nil, or_false, not_or] at hne
  obtain ⟨hquote, hback, h8, hc, hn, hr, ht⟩ := hne
  by_cases hsmall : c.toNat < 0x20
  · have hu : unitOf c = .code c.toNat := by simp [unitOf, hl, hsmall]
    have he : escape c =
        ['\\', 'u', '0', '0', hexChar (c.toNat / 16), hexChar (c.toNat % 16)] := by
      simp [escape, hquote, hback, h8, hc, hn, hr, ht, hsmall]
    cases h : readUnits s <;> simp [hu, he, readUnits, hex4?_control hsmall, h]
  · have hu : unitOf c = .char c := by simp [unitOf, hsmall]
    have he : escape c = [c] := by simp [escape, hquote, hback, h8, hc, hn, hr, ht, hsmall]
    rw [hu, he, List.singleton_append, readUnits]
    · cases h : readUnits s <;> simp [hsmall, hback]
    all_goals simp_all

theorem joinUnits_unitOf (c : Char) (us : List TextUnit) :
    joinUnits (unitOf c :: us) = (joinUnits us).map (c :: ·) := by
  unfold unitOf
  split
  · next h =>
    have hh : isHigh c.toNat = false := by simp [isHigh]; omega
    have hlow : isLow c.toNat = false := by simp [isLow]; omega
    cases us with
    | nil => simp [joinUnits, hh, hlow]
    | cons u us => cases u <;> simp [joinUnits, hh, hlow]
  · rfl

theorem readUnits_flatMap_escape (s rest : List Char) :
    readUnits (s.flatMap escape ++ '"' :: rest) = some (s.map unitOf, rest) := by
  induction s with
  | nil => rfl
  | cons c s ih => simp [readUnits_escape, ih]

theorem joinUnits_map_unitOf (s : List Char) : joinUnits (s.map unitOf) = some s := by
  induction s with
  | nil => rfl
  | cons c s ih => simp [joinUnits_unitOf, ih]

theorem readText_flatMap_escape (s : String) (rest : List Char) :
    readText (s.toList.flatMap escape ++ '"' :: rest) = some (some s, rest) := by
  simp [readText, readUnits_flatMap_escape, joinUnits_map_unitOf]

end texts

section numbers

theorem exists_toDigits (n : Nat) : ∃ c ds, Nat.toDigits 10 n = c :: ds :=
  List.exists_cons_of_ne_nil Nat.toDigits_ne_nil

theorem isDigit_of_mem_toDigits {n : Nat} : ∀ c ∈ Nat.toDigits 10 n, c.isDigit :=
  fun _ hc => Nat.isDigit_of_mem_toDigits (by decide) (by decide) hc

/-- A number of several digits does not begin with zero. -/
theorem head?_toDigits_ne {n : Nat} (hn : n ≠ 0) : (Nat.toDigits 10 n).head? ≠ some '0' := by
  have hone : ∀ m < 10, m ≠ 0 → [m.digitChar].head? ≠ some '0' := by decide
  induction n using Nat.strongRecOn with
  | _ n ih =>
    by_cases hs : n < 10
    · rw [Nat.toDigits_of_lt_base hs]
      exact hone n hs hn
    · rw [Nat.toDigits_of_base_le (by decide) (by omega), List.head?_append]
      have hfront := ih (n / 10) (by omega) (by omega)
      obtain ⟨c, ds, hds⟩ := exists_toDigits (n / 10)
      simpa [hds] using hfront

theorem readDigits_append {ds rest : List Char} (hne : ds ≠ []) (hd : ∀ c ∈ ds, c.isDigit)
    (hr : ∀ c ∈ rest.head?, c.isDigit = false) : readDigits (ds ++ rest) = some (ds, rest) := by
  have hrest : rest.takeWhile Char.isDigit = [] ∧ rest.dropWhile Char.isDigit = rest := by
    cases rest with
    | nil => simp
    | cons c rest => simp [hr c (by simp)]
  obtain ⟨c, ds, rfl⟩ := List.exists_cons_of_ne_nil hne
  have hc := hd c (by simp)
  simp only [readDigits, List.cons_append, List.head?_cons, Option.any_some, hc, if_true]
  rw [← List.cons_append, List.takeWhile_append_of_pos hd, List.dropWhile_append_of_pos hd, hrest.1,
    hrest.2, List.append_nil]

theorem readWhole_toDigits {rest : List Char} (hr : ∀ c ∈ rest.head?, c.isDigit = false)
    (n : Nat) : readWhole (Nat.toDigits 10 n ++ rest) = some (Nat.toDigits 10 n, rest) := by
  rw [readWhole, readDigits_append Nat.toDigits_ne_nil isDigit_of_mem_toDigits hr]
  by_cases hn : n = 0
  · subst hn
    rfl
  · simp [head?_toDigits_ne hn]

theorem readUnsigned_toDigits {rest : List Char} (hr : Ends rest) (negative : Bool) (n : Nat)
    (hn : negative → n ≠ 0) :
    readUnsigned negative (Nat.toDigits 10 n ++ rest) =
      some (.int (if negative then -n else n), rest) := by
  have hdigit : ∀ c ∈ rest.head?, c.isDigit = false := by
    intro c hc
    rcases hr c hc with rfl | rfl <;> decide
  have hfraction : readFraction rest = some ([], rest) := by
    cases rest with
    | nil => rfl
    | cons c rest => rcases hr c (by simp) with rfl | rfl <;> rfl
  have hexponent : readExponent rest = some ([], rest) := by
    cases rest with
    | nil => rfl
    | cons c rest => rcases hr c (by simp) with rfl | rfl <;> rfl
  have hnumber := Nat.ofDigitChars_toDigits (b := 10) (n := n) (by decide) (by decide)
  simpa [readUnsigned, readWhole_toDigits hdigit, hfraction, hexponent, hnumber] using hn

/-- The first character of a whole number. -/
theorem exists_writeInt (n : Int) : ∃ c s, writeInt n = c :: s ∧ (c = '-' ∨ c.isDigit) := by
  unfold writeInt
  split
  · exact ⟨'-', _, rfl, .inl rfl⟩
  · obtain ⟨c, s, hs⟩ := exists_toDigits n.natAbs
    exact ⟨c, s, hs, .inr (isDigit_of_mem_toDigits (n := n.natAbs) c (by simp [hs]))⟩

theorem readNumber_writeInt {rest : List Char} (hr : Ends rest) (n : Int) :
    readNumber (writeInt n ++ rest) = some (.int n, rest) := by
  unfold writeInt
  split
  · next hn =>
    have hu := readUnsigned_toDigits hr true n.natAbs (by omega)
    have he : (-(n.natAbs : Int)) = n := by omega
    rw [List.cons_append, readNumber, hu, if_pos rfl, he]
  · next hn =>
    have hu := readUnsigned_toDigits hr false n.natAbs (by simp)
    have he : (n.natAbs : Int) = n := by omega
    obtain ⟨c, s, hs⟩ := exists_toDigits n.natAbs
    have hc := isDigit_of_mem_toDigits (n := n.natAbs) c (by simp [hs])
    have hminus : c ≠ '-' := by
      rintro rfl
      simp at hc
    rw [hs, readNumber, ← hs, hu]
    · rw [if_neg Bool.false_ne_true, he]
    · simp [hminus]

end numbers

end Cutover.Json
