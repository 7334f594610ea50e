import Cutover.Proofs.Script.LetterCase
import Cutover.Proofs.Text.Bytes
import Cutover.Proofs.Text.Piece
import Mathlib.Tactic.Common

/-!
# The first window of a script

A window is described by its parts, and what is read as a window is just what has these parts. The
window of a script is the one that begins first. A search that looks for the beginning in the
lower-case form of the script, byte by byte, and reads the script itself from there on comes to the
same, since each place that it finds is the beginning of a character.
-/
namespace Cutover

open Text

namespace Window

section Grammar

/-- The four kinds of white space. -/
def spaces : List Char := [' ', '\t', '\r', '\n']

/-- A window in lower case, by its parts: how it begins, white space, the word INTERVAL, white
space, digits, white space, a unit and a parenthesis. -/
structure Form where
  lead : List Char
  middle : List Char
  digits : List Char
  trail : List Char
  unit : TimeUnit
  gaps : ∀ gap ∈ [lead, middle, trail], gap ≠ [] ∧ ∀ c ∈ gap, c ∈ spaces
  digits_ne_nil : digits ≠ []
  digits_all : ∀ c ∈ digits, c.isDigit = true

namespace Form

def text (f : Form) : List Char :=
  anchor ++ (f.lead ++ ("interval".toList ++ (f.middle ++ (f.digits ++ (f.trail ++
    (f.unit.name.toList ++ [')']))))))

/-- The value of the digits, or the largest interval if that is less. -/
def interval (f : Form) : Nat := min (Nat.ofDigitChars 10 f.digits 0) largest

/-- Whether the window stands at a position of a text, its letters in any ASCII case. -/
def StandsAt (f : Form) (text : List Char) (n : Nat) : Prop :=
  f.text <+: (text.drop n).map Char.toLower

/-- Whether no window stands at an earlier position than this one. -/
def StandsFirst (f : Form) (text : List Char) (n : Nat) : Prop :=
  f.StandsAt text n ∧ ∀ (g : Form) (m : Nat), g.StandsAt text m → n ≤ m

end Form

end Grammar

section Reading

variable {s rest word : List Char} {interval : Nat} {unit : TimeUnit}

theorem isSpace_iff {c : Char} : isSpace c = true ↔ c ∈ spaces := by
  simp [isSpace, spaces, or_assoc]

theorem isDigit_eq_false_of_isSpace {c : Char} (h : isSpace c = true) : c.isDigit = false := by
  have hall : spaces.all (!·.isDigit) = true := by decide
  simpa using List.all_eq_true.mp hall c (isSpace_iff.mp h)

theorem isSpace_eq_false_of_isDigit {c : Char} (h : c.isDigit = true) : isSpace c = false := by
  by_contra hs
  rw [isDigit_eq_false_of_isSpace (by simpa only [Bool.not_eq_false] using hs)] at h
  cases h

theorem readAscii_eq_some_iff : readAscii word s = some rest ↔
    ∃ x, s = x ++ rest ∧ x.map Char.toLower = word.map Char.toLower := by
  induction word generalizing s with
  | nil => simp [readAscii, eq_comm]
  | cons l word ih =>
    cases s with
    | nil => simp [readAscii]
    | cons c s =>
      simp only [readAscii, beq_iff_eq]
      constructor
      · intro h
        split at h
        · next hl =>
          obtain ⟨x, rfl, hx⟩ := ih.mp h
          exact ⟨c :: x, rfl, by simp [hl, hx]⟩
        · cases h
      · rintro ⟨x, hs, hx⟩
        cases x with
        | nil => simp at hx
        | cons c' x =>
          obtain ⟨hl, htail⟩ := List.cons.inj hx
          obtain ⟨rfl, rfl⟩ := List.cons.inj hs
          rw [if_pos hl.symm]
          exact ih.mpr ⟨x, rfl, htail⟩

theorem readSpace_eq_some_iff : readSpace s = some rest ↔ ∃ gap, Runs isSpace s gap rest := by
  simp only [runs_iff, readSpace]
  split
  · next h => simp [h]
  · next h => simp [h]

theorem readInterval_eq_some_iff : readInterval s = some (interval, rest) ↔
    ∃ digits, Runs Char.isDigit s digits rest ∧
      interval = min (Nat.ofDigitChars 10 digits 0) largest := by
  simp only [runs_iff, readInterval]
  split
  · next h => simp [h, and_comm, eq_comm]
  · next h => simp [h]

/-- Only one unit can be read at a place. -/
theorem unit_eq_of_readAscii {u v : TimeUnit} {r r' : List Char}
    (h : readAscii u.name.toList s = some r) (h' : readAscii v.name.toList s = some r') :
    u = v := by
  obtain ⟨x, rfl, hx⟩ := readAscii_eq_some_iff.mp h
  obtain ⟨y, hs, hy⟩ := readAscii_eq_some_iff.mp h'
  have hnames : ∀ u v : TimeUnit,
      u.name.toList.map Char.toLower <+: v.name.toList.map Char.toLower → u = v := by
    intro u v
    cases u <;> cases v <;> decide
  rcases List.prefix_or_prefix_of_prefix (List.prefix_append x r) ⟨r', hs.symm⟩ with hxy | hyx
  · exact hnames u v (hx ▸ hy ▸ hxy.map Char.toLower)
  · exact (hnames v u (hx ▸ hy ▸ hyx.map Char.toLower)).symm

theorem readUnit_eq_some_iff : readUnit s = some (unit, rest) ↔
    readAscii unit.name.toList s = some rest := by
  constructor
  · intro h
    obtain ⟨u, -, hu⟩ := List.exists_of_findSome?_eq_some h
    obtain ⟨r, hr, he⟩ := Option.map_eq_some_iff.mp hu
    cases he
    exact hr
  · intro h
    have hmem : unit ∈ TimeUnit.all := by cases unit <;> decide
    cases hfirst : readUnit s with
    | none =>
      have hnone := List.findSome?_eq_none_iff.mp hfirst unit hmem
      simp [h] at hnone
    | some w =>
      obtain ⟨u, -, hu⟩ := List.exists_of_findSome?_eq_some hfirst
      obtain ⟨r, hr, rfl⟩ := Option.map_eq_some_iff.mp hu
      obtain rfl := unit_eq_of_readAscii hr h
      rw [hr] at h
      cases h
      rfl

theorem map_toLower_gap {gap : List Char} (h : ∀ c ∈ gap, c ∈ spaces) :
    gap.map Char.toLower = gap := by
  have hall : spaces.all (fun c => c.toLower == c) = true := by decide
  have hkept : ∀ c ∈ gap, c.toLower = c := fun c hc => by
    simpa using List.all_eq_true.mp hall c (h c hc)
  exact (List.map_congr_left hkept).trans (List.map_id gap)

theorem map_toLower_digits {digits : List Char} (h : ∀ c ∈ digits, c.isDigit = true) :
    digits.map Char.toLower = digits := by
  have hlower := map_toLower_takeWhile_isDigit digits
  rwa [List.takeWhile_eq_self_iff.mpr h] at hlower

/-- What is read as a window has the parts of one. -/
theorem exists_form_of_readAt (h : readAt s = some (interval, unit)) :
    ∃ f : Form, f.StandsAt s 0 ∧ f.interval = interval ∧ f.unit = unit := by
  simp only [readAt, Option.bind_eq_bind, Option.bind_eq_some_iff, Prod.exists,
    readAscii_eq_some_iff, readSpace_eq_some_iff, readInterval_eq_some_iff,
    readUnit_eq_some_iff] at h
  obtain ⟨_, ⟨start, rfl, hstart⟩, _, ⟨lead, hlead⟩, _, ⟨word, rfl, hword⟩, _, ⟨middle, hmiddle⟩,
    n, _, ⟨digits, hdigits, rfl⟩, _, ⟨trail, htrail⟩, u, _, ⟨name, rfl, hname⟩,
    rest, ⟨close, rfl, hclose⟩, he⟩ := h
  cases he
  obtain rfl := hlead.eq
  obtain rfl := hmiddle.eq
  obtain rfl := hdigits.eq
  obtain rfl := htrail.eq
  have hspaces : ∀ {t gap r}, Runs isSpace t gap r →
      gap ≠ [] ∧ ∀ c ∈ gap, c ∈ spaces :=
    fun hruns => ⟨hruns.ne_nil, fun c hc => isSpace_iff.mp (hruns.all c hc)⟩
  have hgaps : ∀ gap ∈ [lead, middle, trail],
      gap ≠ [] ∧ ∀ c ∈ gap, c ∈ spaces := by
    simp only [List.forall_mem_cons]
    exact ⟨hspaces hlead, hspaces hmiddle, hspaces htrail, by simp⟩
  refine ⟨⟨lead, middle, digits, trail, unit, hgaps, hdigits.ne_nil, hdigits.all⟩, ?_, rfl, rfl⟩
  have hlower : anchor.map Char.toLower = anchor ∧
      "interval".toList.map Char.toLower = "interval".toList ∧
      unit.name.toList.map Char.toLower = unit.name.toList ∧ [')'].map Char.toLower = [')'] := by
    cases unit <;> decide
  refine ⟨rest.map Char.toLower, ?_⟩
  simp only [List.forall_mem_cons] at hgaps
  simp only [Form.text, List.drop_zero, List.map_append, List.append_assoc, hstart, hword, hname,
    hclose, hlower.1, hlower.2.1, hlower.2.2.1, hlower.2.2.2, map_toLower_gap hgaps.1.2,
    map_toLower_gap hgaps.2.1.2, map_toLower_gap hgaps.2.2.1.2, map_toLower_digits hdigits.all]

/-- What is read as a window begins as one does. -/
theorem anchor_prefix_of_readAt (h : readAt s = some (interval, unit)) :
    anchor <+: s.map Char.toLower := by
  obtain ⟨f, ⟨rest, hrest⟩, -⟩ := exists_form_of_readAt h
  rw [List.drop_zero, Form.text, List.append_assoc] at hrest
  exact ⟨_, hrest⟩

/-- What has the parts of a window is read as one. -/
theorem readAt_text (f : Form) (rest : List Char) :
    readAt (f.text ++ rest) = some (f.interval, f.unit) := by
  obtain ⟨lead, middle, digits, trail, unit, hgaps, hne, hdigits⟩ := f
  simp only [List.forall_mem_cons] at hgaps
  obtain ⟨hlead, hmiddle, htrail, -⟩ := hgaps
  have hspaces : ∀ {gap t : List Char},
      (gap ≠ [] ∧ ∀ c ∈ gap, c ∈ spaces) → t.head?.any isSpace = false →
        readSpace (gap ++ t) = some t :=
    fun hgap ht => readSpace_eq_some_iff.mpr
      ⟨_, rfl, hgap.1, fun c hc => isSpace_iff.mpr (hgap.2 c hc), ht⟩
  have hspell : ∀ word t : List Char, readAscii word (word ++ t) = some t :=
    fun word t => readAscii_eq_some_iff.mpr ⟨word, rfl, rfl⟩
  have hword : ∀ t, ("interval".toList ++ t).head?.any isSpace = false := fun t => by
    simp [isSpace]
  have hdigit : ∀ t, (digits ++ t).head?.any isSpace = false := fun t => by
    obtain ⟨c, digits, rfl⟩ := List.exists_cons_of_ne_nil hne
    simpa using isSpace_eq_false_of_isDigit (hdigits c (by simp))
  have hunit : ∀ t, (unit.name.toList ++ t).head?.any isSpace = false := fun t => by
    cases unit <;> simp [TimeUnit.name, isSpace]
  have hends : ∀ t, (trail ++ t).head?.any Char.isDigit = false := fun t => by
    obtain ⟨c, trail, rfl⟩ := List.exists_cons_of_ne_nil htrail.1
    simpa using isDigit_eq_false_of_isSpace (isSpace_iff.mpr (htrail.2 c (by simp)))
  have hinterval : ∀ t, readInterval (digits ++ (trail ++ t)) =
      some (min (Nat.ofDigitChars 10 digits 0) largest, trail ++ t) :=
    fun t => readInterval_eq_some_iff.mpr ⟨digits, ⟨rfl, hne, hdigits, hends t⟩, rfl⟩
  have hname : ∀ t, readUnit (unit.name.toList ++ t) = some (unit, t) :=
    fun t => readUnit_eq_some_iff.mpr (hspell _ t)
  simp only [readAt, Form.text, Form.interval, List.append_assoc, hspell, hspaces hlead (hword _),
    hspaces hmiddle (hdigit _), hspaces htrail (hunit _), hinterval, hname, Option.bind_eq_bind,
    Option.bind_some]

/-- What is read as a window at a position is a window that stands there. -/
theorem readAt_drop_eq_some_iff {n : Nat} : readAt (s.drop n) = some (interval, unit) ↔
    ∃ f : Form, f.StandsAt s n ∧ f.interval = interval ∧ f.unit = unit := by
  constructor
  · intro h
    obtain ⟨f, hf, hparts⟩ := exists_form_of_readAt h
    exact ⟨f, by simpa only [Form.StandsAt, List.drop_zero] using hf, hparts⟩
  · rintro ⟨f, ⟨rest, hrest⟩, rfl, rfl⟩
    rw [← readAt_map_toLower, ← hrest, readAt_text]

theorem readAt_drop_eq_none_iff {n : Nat} :
    readAt (s.drop n) = none ↔ ∀ f : Form, ¬f.StandsAt s n := by
  constructor
  · intro h f hf
    have hread := readAt_drop_eq_some_iff.mpr ⟨f, hf, rfl, rfl⟩
    rw [h] at hread
    cases hread
  · intro h
    refine Option.eq_none_iff_forall_ne_some.mpr fun w hw => ?_
    obtain ⟨f, hf, -⟩ := readAt_drop_eq_some_iff.mp hw
    exact h f hf

end Reading

section Search

variable {s : List Char} {interval : Nat} {unit : TimeUnit}

theorem readAt_nil : readAt [] = none := by decide

/-- The first window is read at the first position at which there is one. -/
theorem first?_eq_some_iff {w : Nat × TimeUnit} : first? s = some w ↔
    ∃ n, readAt (s.drop n) = some w ∧ ∀ m < n, readAt (s.drop m) = none := by
  induction s with
  | nil => simp [first?, readAt_nil]
  | cons c s ih =>
    cases hhere : readAt (c :: s) with
    | some w' =>
      simp only [first?, hhere, Option.orElse_some]
      constructor
      · intro h
        exact ⟨0, by rw [List.drop_zero, hhere, h], by simp⟩
      · rintro ⟨n, hn, hbefore⟩
        cases n with
        | zero => rwa [List.drop_zero, hhere] at hn
        | succ n => simpa [hhere] using hbefore 0 n.succ_pos
    | none =>
      simp only [first?, hhere, Option.orElse_none, ih]
      constructor
      · rintro ⟨n, hn, hbefore⟩
        refine ⟨n + 1, hn, fun m hm => ?_⟩
        cases m with
        | zero => exact hhere
        | succ m => exact hbefore m (Nat.lt_of_succ_lt_succ hm)
      · rintro ⟨n, hn, hbefore⟩
        cases n with
        | zero => simp [hhere] at hn
        | succ n => exact ⟨n, hn, fun m hm => hbefore (m + 1) (Nat.succ_lt_succ hm)⟩

theorem first?_eq_none_iff : first? s = none ↔ ∀ n, readAt (s.drop n) = none := by
  constructor
  · intro h n
    induction s generalizing n with
    | nil => simp [readAt_nil]
    | cons c s ih =>
      rw [first?, Option.orElse_eq_or, Option.or_eq_none_iff] at h
      cases n with
      | zero => exact h.1
      | succ n => exact ih h.2 n
  · intro h
    refine Option.eq_none_iff_forall_ne_some.mpr fun w hw => ?_
    obtain ⟨n, hn, -⟩ := first?_eq_some_iff.mp hw
    rw [h n] at hn
    cases hn

/-- The first window is the one that no other window stands before. -/
theorem first?_eq_some_iff_form : first? s = some (interval, unit) ↔
    ∃ (f : Form) (n : Nat), f.StandsFirst s n ∧ f.interval = interval ∧ f.unit = unit := by
  rw [first?_eq_some_iff]
  constructor
  · rintro ⟨n, hn, hbefore⟩
    obtain ⟨f, hf, hparts⟩ := readAt_drop_eq_some_iff.mp hn
    refine ⟨f, n, ⟨hf, fun g m hg => ?_⟩, hparts⟩
    by_contra hlt
    exact readAt_drop_eq_none_iff.mp (hbefore m (not_le.mp hlt)) g hg
  · rintro ⟨f, n, ⟨hf, hfirst⟩, hparts⟩
    refine ⟨n, readAt_drop_eq_some_iff.mpr ⟨f, hf, hparts⟩, fun m hm => ?_⟩
    exact readAt_drop_eq_none_iff.mpr fun g hg => (hfirst g m hg).not_gt hm

theorem first?_eq_findSome? (s : List Char) : first? s = s.tails.findSome? readAt := by
  induction s with
  | nil => simp [first?, readAt_nil]
  | cons c s ih =>
    rw [first?, ih, List.tails_cons, List.findSome?_cons]
    cases readAt (c :: s) <;> rfl

/-- Where in a script a window may begin, in bytes, as found in the copy in lower case. -/
def candidates (sql : String) : List Nat := byteOffsets (String.ofList anchor) (asciiLower sql)

/-- The search by bytes: from each candidate on, the script itself is read. -/
def search? (sql : String) : Option (Nat × TimeUnit) :=
  (candidates sql).findSome? fun i => (fromByte? sql i).bind readAt

theorem search?_eq (sql : String) : search? sql = first? sql.toList := by
  have hne : anchor ≠ [] := by decide
  have hanchor : ∀ s, ¬anchor <+: s.map Char.toLower → readAt s = none := by
    intro s hs
    exact Option.eq_none_iff_forall_ne_some.mpr fun w hw => hs (anchor_prefix_of_readAt hw)
  have hfound := findSome?_byteOffsets hne hanchor (List.nil_append sql.toList).symm
  simp only [String.utf8Len_nil, Nat.zero_add] at hfound
  rw [search?, candidates, asciiLower, hfound, first?_eq_findSome?]

/-- How a window begins does not begin again within itself, so no two candidates overlap. -/
theorem pairwise_candidates (sql : String) :
    (candidates sql).Pairwise fun i j => i + anchor.length ≤ j := by
  have hlength : (bytes (String.ofList anchor)).length = anchor.length := by decide +kernel
  rw [← hlength]
  exact pairwise_byteOffsets _ (by decide +kernel)

end Search

end Window

namespace TimeRange

open Window

end TimeRange

end Cutover
