import Cutover.Proofs.Text.Occurrence
import Cutover.Proofs.Text.Separator
import Mathlib.Data.Nat.Count
import Mathlib.Tactic.Common

/-!
# How many matches there are

A scan passes over what it has matched. Where no match can be read within another one, nothing is
lost by that: there are as many matches as places where the pattern can be read. Such are the
patterns of one word, whose matches are the places where the word stands alone.
-/
namespace Cutover.Text

section Counting

variable {P Q : Nat → Prop} [DecidablePred P] [DecidablePred Q] {k n : Nat}

theorem count_congr (h : ∀ i < n, P i ↔ Q i) : Nat.count P n = Nat.count Q n :=
  Nat.le_antisymm (Nat.count_mono_left fun i hi => (h i hi).mp)
    (Nat.count_mono_left fun i hi => (h i hi).mpr)

/-- One place more is one more in the count. -/
theorem count_insert (hk : k < n) (hnot : ¬Q k) (h : ∀ i < n, P i ↔ Q i ∨ i = k) :
    Nat.count P n = Nat.count Q n + 1 := by
  have hinsert : (Finset.range n).filter P = insert k ((Finset.range n).filter Q) := by
    ext i
    simp only [Finset.mem_filter, Finset.mem_range, Finset.mem_insert]
    constructor
    · rintro ⟨hi, hp⟩
      exact ((h i hi).mp hp).symm.imp id fun hq => ⟨hi, hq⟩
    · rintro (rfl | ⟨hi, hq⟩)
      · exact ⟨hk, (h i hk).mpr (.inr rfl)⟩
      · exact ⟨hi, (h i hi).mpr (.inl hq)⟩
  rw [Nat.count_eq_card_filter_range, Nat.count_eq_card_filter_range, hinsert]
  exact Finset.card_insert_of_notMem fun hmem => hnot (Finset.mem_filter.mp hmem).2

end Counting

namespace Pattern

variable {p : Pattern} {front x rest name : List Char}

section Scan

theorem scan_passed (p : Pattern) (front x rest : List Char) :
    p.scan x.length front.getLast? (x ++ rest) = p.scan 0 (front ++ x).getLast? rest := by
  induction x generalizing front with
  | nil => simp
  | cons c x ih =>
    have hnext := ih (front ++ [c])
    rw [List.getLast?_concat, List.append_assoc, List.singleton_append] at hnext
    rw [List.length_cons, List.cons_append, scan, hnext]

/-- After a match the scan goes on behind it. -/
theorem scan_of_readAt (h : p.readAt front.getLast? (x ++ rest) = some (name, rest))
    (hne : x ≠ []) :
    p.scan 0 front.getLast? (x ++ rest) = name :: p.scan 0 (front ++ x).getLast? rest := by
  obtain ⟨c, x, rfl⟩ := List.exists_cons_of_ne_nil hne
  have hpassed := scan_passed p (front ++ [c]) x rest
  rw [List.getLast?_concat, List.append_assoc, List.singleton_append] at hpassed
  have hlength : (x ++ rest).length - rest.length = x.length := by simp
  rw [List.cons_append] at h ⊢
  rw [scan, h, ← hpassed]
  simp only [hlength]

/-- A scan finds nothing among characters that no match begins with. -/
theorem scan_of_refuses (h : ∀ c ∈ x, p.refuses c = true) (front rest : List Char) :
    p.scan 0 front.getLast? (x ++ rest) = p.scan 0 (front ++ x).getLast? rest := by
  induction x generalizing front with
  | nil => simp
  | cons c x ih =>
    obtain ⟨hc, hx⟩ := List.forall_mem_cons.mp h
    have hnext := ih hx (front ++ [c])
    rw [List.getLast?_concat, List.append_assoc, List.singleton_append] at hnext
    rw [List.cons_append, scan, readAt_of_refuses hc, hnext]

end Scan

/-- Whether no match can be read within another one. -/
def Apart (p : Pattern) : Prop :=
  ∀ front s name rest, p.readAt front.getLast? s = some (name, rest) →
    ∃ x, x ≠ [] ∧ s = x ++ rest ∧
      ∀ y z, x = y ++ z → y ≠ [] → z ≠ [] → p.readAt (front ++ y).getLast? (z ++ rest) = none

/-- Matches are apart that are a run of word characters followed by characters that no match
begins with: a match begins where a word does. -/
theorem apart_of_run (hp : p.atWord = true)
    (h : ∀ s name rest, p.phrases.findSome? (readPhrase · s) = some (name, rest) →
      ∃ run tail, run ≠ [] ∧ s = run ++ (tail ++ rest) ∧ (∀ c ∈ run, isWord c = true) ∧
        ∀ c ∈ tail, p.refuses c = true) : p.Apart := by
  intro front s name rest hread
  rw [readAt, hp, Bool.true_and] at hread
  split at hread
  · cases hread
  obtain ⟨run, tail, hne, rfl, hrun, htail⟩ := h s name rest hread
  refine ⟨run ++ tail, by simp [hne], by simp, fun y z hxy hy hz => ?_⟩
  rcases List.append_eq_append_iff.mp hxy with ⟨u, rfl, rfl⟩ | ⟨u, rfl, rfl⟩
  · -- behind the run stands nothing that a match begins with
    obtain ⟨c, z, rfl⟩ := List.exists_cons_of_ne_nil hz
    exact readAt_of_refuses (htail c (by simp)) _ _
  · -- within the run a word character comes before
    obtain ⟨y, c, rfl⟩ := (List.eq_nil_or_concat y).resolve_left hy
    have hc : isWord c = true := hrun c (by simp)
    simp [readAt, hp, hc]

/-- Whether the pattern can be read at a position. -/
def ReadsAt (p : Pattern) (text : List Char) (n : Nat) : Prop := (p.matchAt? text n).isSome = true

instance (p : Pattern) (text : List Char) : DecidablePred (p.ReadsAt text) :=
  fun _ => inferInstanceAs (Decidable (_ = true))

theorem readsAt_length (p : Pattern) (front rest : List Char) :
    p.ReadsAt (front ++ rest) front.length ↔ (p.readAt front.getLast? rest).isSome = true := by
  rw [ReadsAt, matchAt?_length, Option.isSome_map]

theorem readsAt_length_add (p : Pattern) (front y rest : List Char) :
    p.ReadsAt (front ++ (y ++ rest)) (front.length + y.length) ↔
      (p.readAt (front ++ y).getLast? rest).isSome = true := by
  rw [← List.append_assoc, ← List.length_append, readsAt_length]

/-- Of the places that a match covers only the first one counts. -/
theorem count_readsAt_of_apart (h : p.readAt front.getLast? (x ++ rest) = some (name, rest))
    (hfree : ∀ y z, x = y ++ z → y ≠ [] → z ≠ [] →
      p.readAt (front ++ y).getLast? (z ++ rest) = none) {k : Nat} (hk : k < x.length) :
    Nat.count (fun n => p.ReadsAt (front ++ (x ++ rest)) (front.length + n)) (k + 1) = 1 := by
  induction k with
  | zero =>
    have hreads := (readsAt_length p front (x ++ rest)).mpr (by simp [h])
    simp [Nat.count_succ, hreads]
  | succ k ih =>
    have hsplit := (List.take_append_drop (k + 1) x).symm
    have hnone := hfree _ _ hsplit (List.ne_nil_of_length_pos (by simp; omega))
      (List.ne_nil_of_length_pos (by simp; omega))
    have hnot : ¬p.ReadsAt (front ++ (x ++ rest)) (front.length + (k + 1)) := by
      have hreads := readsAt_length_add p front (x.take (k + 1)) (x.drop (k + 1) ++ rest)
      rw [← List.append_assoc (x.take (k + 1)), List.take_append_drop, List.length_take,
        Nat.min_eq_left hk.le, hnone] at hreads
      simpa using hreads
    rw [Nat.count_succ, ih (by omega), if_neg hnot]

/-- Where matches are apart a scan finds as many as there are places where one can be read. -/
theorem Apart.length_scan (hp : p.Apart) (front s : List Char) :
    (p.scan 0 front.getLast? s).length =
      Nat.count (fun n => p.ReadsAt (front ++ s) (front.length + n)) s.length := by
  induction hlength : s.length using Nat.strong_induction_on generalizing front s with
  | _ n ih =>
    subst hlength
    cases s with
    | nil => simp [scan]
    | cons c s =>
      cases hread : p.readAt front.getLast? (c :: s) with
      | none =>
        have hnext := ih s.length (by simp) (front ++ [c]) s rfl
        have hnot : ¬p.ReadsAt (front ++ c :: s) front.length := by simp [readsAt_length, hread]
        rw [List.getLast?_concat] at hnext
        rw [scan, hread, List.length_cons, Nat.count_succ', Nat.add_zero, if_neg hnot, hnext]
        simp [Nat.add_assoc, Nat.add_comm 1]
      | some r =>
        obtain ⟨name, rest⟩ := r
        obtain ⟨x, hne, hs, hfree⟩ := hp front (c :: s) name rest hread
        rw [hs] at hread ih ⊢
        have hx := List.length_pos_iff.mpr hne
        have hnext := ih rest.length (by simp; omega) (front ++ x) rest rfl
        have hfirst := count_readsAt_of_apart hread hfree (Nat.sub_lt hx Nat.one_pos)
        have hparts : (x ++ rest).length = x.length + rest.length := List.length_append
        rw [Nat.sub_add_cancel hx] at hfirst
        rw [scan_of_readAt hread hne, List.length_cons, hnext, hparts, Nat.count_add, hfirst,
          Nat.add_comm]
        simp only [List.append_assoc, List.length_append, Nat.add_assoc]

theorem Apart.count_eq (hp : p.Apart) (text : String) :
    p.count text = Nat.count (p.ReadsAt text.toList) text.toList.length := by
  simpa [Pattern.count, Pattern.matches] using hp.length_scan [] text.toList

end Pattern

section Words

variable {word : String} {s rest name text : List Char} {n : Nat}

/-- Whether a word stands alone at a position of a text: its letters, up to case, with no word
character right before them and none right behind. -/
def StandsAlone (word : String) (text : List Char) (n : Nat) : Prop :=
  (text.take n).getLast?.any isWord = false ∧
    ((text.drop n).take word.toList.length).map fold = word.toList.map fold ∧
    (text.drop (n + word.toList.length)).head?.any isWord = false

instance (word : String) (text : List Char) : DecidablePred (StandsAlone word text) :=
  fun _ => inferInstanceAs (Decidable (_ ∧ _ ∧ _))

/-- The pattern of a word that stands alone. -/
def Pattern.alone (word : String) : Pattern := ⟨true, [[.letters word, .wordEnd]]⟩

/-- No keyword begins with a character that no name holds. -/
theorem Piece.refuses_anyOf {words : List String} (hw : Keywords words) {c : Char}
    (h : isNameChar c = false) : (Piece.anyOf words).refuses c = true := by
  refine List.all_eq_true.mpr fun w hmem => ?_
  obtain ⟨l, rest, hl⟩ := List.exists_cons_of_ne_nil (hw.ne_nil w hmem)
  have hname : isNameChar l = true := List.all_eq_true.mp (hw.letters w hmem) l (by simp [hl])
  have hne : ¬fold l = fold c := by
    intro he
    rw [← isNameChar_congr he, hname] at h
    cases h
  simp [hl, sameLetter, hne]

theorem readPhrase_alone_iff : readPhrase [.letters word, .wordEnd] s = some (name, rest) ↔
    name = [] ∧ ∃ x, s = x ++ rest ∧ x.map fold = word.toList.map fold ∧
      rest.head?.any isWord = false := by
  simp only [readPhrase_cons_iff, readPhrase_singleton, read_letters_iff, read_wordEnd_iff]
  constructor
  · rintro ⟨n, r, m, ⟨rfl, x, rfl, hx⟩, ⟨rfl, rfl, hr⟩, rfl⟩
    exact ⟨rfl, x, rfl, hx, hr⟩
  · rintro ⟨rfl, x, rfl, hx, hr⟩
    exact ⟨[], rest, [], ⟨rfl, x, rfl, hx⟩, ⟨rfl, rfl, hr⟩, rfl⟩

namespace Pattern

/-- The pattern of a word can be read where the word stands alone. -/
theorem readsAt_alone_iff : (alone word).ReadsAt text n ↔ StandsAlone word text n := by
  have hat : (alone word).atWord = true := rfl
  rw [ReadsAt, Option.isSome_iff_exists]
  simp only [Prod.exists, matchAt?_eq_some_iff hat]
  simp only [alone, List.findSome?_singleton, readPhrase_alone_iff]
  constructor
  · rintro ⟨name, stop, hbefore, rest, ⟨-, x, hdrop, hx, hbehind⟩, -⟩
    have hlength : x.length = word.toList.length := by simpa using congrArg List.length hx
    refine ⟨hbefore, ?_, ?_⟩
    · rw [hdrop, ← hlength, List.take_left' rfl, hx]
    · rw [← List.drop_drop, hdrop, ← hlength, List.drop_left' rfl]
      exact hbehind
  · rintro ⟨hbefore, hword, hbehind⟩
    rw [← List.drop_drop] at hbehind
    exact ⟨[], _, hbefore, _, ⟨rfl, _, (List.take_append_drop _ _).symm, hword, hbehind⟩, rfl⟩

/-- The matches of a word are apart: they are words of their own. -/
theorem apart_alone (hw : Keywords [word]) : (alone word).Apart := by
  refine apart_of_run rfl fun s name rest h => ?_
  simp only [alone, List.findSome?_singleton, readPhrase_alone_iff] at h
  obtain ⟨-, x, rfl, hx, -⟩ := h
  have hspells : Spells [word] x := ⟨word, by simp, hx⟩
  exact ⟨x, [], hspells.ne_nil hw, by simp,
    fun c hc => isWord_of_isNameChar (hspells.isNameChar hw c hc), by simp⟩

/-- The pattern of a word is matched as often as the word stands alone. -/
theorem count_alone (hw : Keywords [word]) (text : String) :
    (alone word).count text =
      Nat.count (StandsAlone word text.toList) text.toList.length := by
  rw [(apart_alone hw).count_eq]
  exact count_congr fun n _ => readsAt_alone_iff

end Pattern

end Words

end Cutover.Text
