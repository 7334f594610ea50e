import Cutover.Text.Pattern
import Mathlib.Data.List.TakeWhile
import Mathlib.Tactic.Common

/-!
# What pieces read

A piece reads a text in one way or not at all. Here that way is told by how the text is divided:
the letters of a word, a run of white space, a run of name characters, each as far as it goes.
-/
namespace Cutover.Text

section Characters

variable {c l : Char}

/-- What a character is compared by decides whether it may stand in a name. -/
theorem isNameChar_congr (h : fold c = fold l) : isNameChar c = isNameChar l := by
  simp only [isNameChar, h]

theorem isWord_of_isNameChar (h : isNameChar c = true) : isWord c = true := by
  by_cases hs : c = '\u017f'
  · subst hs
    decide +kernel
  by_cases hk : c = '\u212a'
  · subst hk
    decide +kernel
  have hfold : fold c = c.toLower := by simp [fold, hs, hk]
  by_cases hupper : c.isUpper = true
  · have hall : capitals.all isWord = true := by decide +kernel
    exact List.all_eq_true.mp hall c (mem_capitals_of_isUpper hupper)
  · rw [isNameChar, hfold, toLower_of_not_isUpper hupper, Bool.or_eq_true, beq_iff_eq] at h
    rcases h with hlower | rfl
    · have hbounds : c.val ≥ 'a'.val ∧ c.val ≤ 'z'.val := by simpa [Char.le_def] using hlower
      have hlt : c.toNat < 128 := (UInt32.le_iff_toNat_le.mp hbounds.2).trans_lt (by decide)
      have hsmall : c.isLower = true :=
        Bool.and_eq_true_iff.mpr (hbounds.imp decide_eq_true decide_eq_true)
      have hletter : c.isAlpha = true := Bool.or_eq_true_iff.mpr (.inr hsmall)
      exact isWord_of_isAlphanum c hlt (Bool.or_eq_true_iff.mpr (.inl hletter))
    · decide

theorem isNameChar_eq_false_of_isBlank (h : isBlank c = true) : isNameChar c = false := by
  have hall : blanks.all (!isNameChar ·) = true := by decide
  simpa using List.all_eq_true.mp hall c ((isBlank_iff c).mp h)

theorem isBlank_eq_false_of_isNameChar (h : isNameChar c = true) : isBlank c = false := by
  by_contra hb
  rw [isNameChar_eq_false_of_isBlank (by simpa only [Bool.not_eq_false] using hb)] at h
  cases h

theorem isWord_eq_false_of_isBlank (h : isBlank c = true) : isWord c = false := by
  have hall : blanks.all (!isWord ·) = true := by decide +kernel
  simpa using List.all_eq_true.mp hall c ((isBlank_iff c).mp h)

end Characters

section Reading

variable {s run rest name : List Char} {p : Char → Bool}

/-- A run of characters of a class, as far as it goes, and what follows it. -/
theorem takeWhile_dropWhile_iff : s.takeWhile p = run ∧ s.dropWhile p = rest ↔
    s = run ++ rest ∧ (∀ c ∈ run, p c = true) ∧ rest.head?.any p = false := by
  constructor
  · rintro ⟨rfl, rfl⟩
    refine ⟨List.takeWhile_append_dropWhile.symm, fun c hc => List.mem_takeWhile_imp hc, ?_⟩
    have hstop := List.head?_dropWhile_not p s
    cases h : (s.dropWhile p).head? <;> simp_all
  · rintro ⟨rfl, hrun, hrest⟩
    have htake : rest.takeWhile p = [] := by cases rest <;> simp_all
    have hdrop : rest.dropWhile p = rest := by cases rest <;> simp_all
    rw [List.takeWhile_append_of_pos hrun, List.dropWhile_append_of_pos hrun, htake, hdrop]
    simp

/-- A run that is not empty, as far as it goes, and what follows it. -/
structure Runs (p : Char → Bool) (s run rest : List Char) : Prop where
  eq : s = run ++ rest
  ne_nil : run ≠ []
  all : ∀ c ∈ run, p c = true
  ends : rest.head?.any p = false

theorem runs_iff : Runs p s run rest ↔
    s.head?.any p = true ∧ s.takeWhile p = run ∧ s.dropWhile p = rest := by
  rw [takeWhile_dropWhile_iff]
  constructor
  · rintro ⟨rfl, hne, hall, hends⟩
    obtain ⟨c, run, rfl⟩ := List.exists_cons_of_ne_nil hne
    exact ⟨by simpa using hall c (by simp), rfl, hall, hends⟩
  · rintro ⟨hhead, rfl, hall, hends⟩
    refine ⟨rfl, ?_, hall, hends⟩
    rintro rfl
    rw [List.nil_append, hends] at hhead
    cases hhead

theorem read_gap_iff : Piece.gap.read s = some (name, rest) ↔
    name = [] ∧ ∃ gap, Runs isBlank s gap rest := by
  rw [Piece.read]
  split
  · next h =>
    constructor
    · intro he
      cases he
      exact ⟨rfl, _, runs_iff.mpr ⟨h, rfl, rfl⟩⟩
    · rintro ⟨rfl, gap, hg⟩
      rw [(runs_iff.mp hg).2.2]
  · next h =>
    constructor
    · intro he
      cases he
    · rintro ⟨-, gap, hg⟩
      exact absurd (runs_iff.mp hg).1 h

theorem read_name_iff {kept : Bool} : (Piece.name kept).read s = some (name, rest) ↔
    ∃ run, Runs isNameChar s run rest ∧ name = if kept then run else [] := by
  rw [Piece.read]
  split
  · next h =>
    constructor
    · intro he
      cases he
      exact ⟨_, runs_iff.mpr ⟨h, rfl, rfl⟩, rfl⟩
    · rintro ⟨run, hr, rfl⟩
      obtain ⟨-, rfl, rfl⟩ := runs_iff.mp hr
      rfl
  · next h =>
    constructor
    · intro he
      cases he
    · rintro ⟨run, hr, -⟩
      exact absurd (runs_iff.mp hr).1 h

theorem readFolded_eq_some_iff {word : List Char} :
    readFolded word s = some rest ↔ ∃ x, s = x ++ rest ∧ x.map fold = word.map fold := by
  induction word generalizing s with
  | nil => simp [readFolded, eq_comm]
  | cons l word ih =>
    cases s with
    | nil => simp [readFolded]
    | cons c s =>
      simp only [readFolded, sameLetter_iff]
      constructor
      · intro h
        split at h
        · next hl =>
          obtain ⟨x, rfl, hx⟩ := ih.mp h
          exact ⟨c :: x, rfl, by simp [hl, hx]⟩
        · simp at h
      · rintro ⟨x, hs, hx⟩
        cases x with
        | nil => simp at hx
        | cons c' x =>
          obtain ⟨hl, htail⟩ : fold c' = fold l ∧ x.map fold = word.map fold := by simpa using hx
          obtain ⟨rfl, rfl⟩ : c = c' ∧ s = x ++ rest := by simpa using hs
          rw [if_pos hl.symm]
          exact ih.mpr ⟨x, rfl, htail⟩

/-- One word is a choice of one. -/
theorem read_letters (word : String) : (Piece.letters word).read = (Piece.anyOf [word]).read := by
  funext s
  simp [Piece.read]

theorem read_letters_iff {word : String} : (Piece.letters word).read s = some (name, rest) ↔
    name = [] ∧ ∃ x, s = x ++ rest ∧ x.map fold = word.toList.map fold := by
  simp only [Piece.read, Option.map_eq_some_iff, Prod.mk.injEq, ← readFolded_eq_some_iff]
  constructor
  · rintro ⟨r, hr, rfl, rfl⟩
    exact ⟨rfl, hr⟩
  · rintro ⟨rfl, hr⟩
    exact ⟨rest, hr, rfl, rfl⟩

theorem read_loose_iff : Piece.loose.read s = some (name, rest) ↔
    name = [] ∧ ∃ gap, s = gap ++ rest ∧ (∀ c ∈ gap, isBlank c = true) ∧
      rest.head?.any isBlank = false := by
  simp only [Piece.read, Option.some.injEq, Prod.mk.injEq]
  constructor
  · rintro ⟨rfl, hdrop⟩
    exact ⟨rfl, _, takeWhile_dropWhile_iff.mp ⟨rfl, hdrop⟩⟩
  · rintro ⟨rfl, gap, hgap⟩
    exact ⟨rfl, (takeWhile_dropWhile_iff.mpr hgap).2⟩

theorem read_wordEnd_iff : Piece.wordEnd.read s = some (name, rest) ↔
    name = [] ∧ s = rest ∧ rest.head?.any isWord = false := by
  rw [Piece.read]
  split
  · next h =>
    simp only [reduceCtorEq, false_iff, not_and]
    rintro - rfl
    simpa only [Bool.not_eq_false] using h
  · next h =>
    simp only [Option.some.injEq, Prod.mk.injEq]
    constructor
    · rintro ⟨rfl, rfl⟩
      exact ⟨rfl, rfl, by simpa only [Bool.not_eq_true] using h⟩
    · rintro ⟨rfl, rfl, -⟩
      exact ⟨rfl, rfl⟩

theorem readPhrase_singleton {p : Piece} : readPhrase [p] s = p.read s := by
  simp only [readPhrase]
  cases p.read s <;> simp

end Reading

/-- Whether a text is one of the words, up to the case of letters. -/
def Spells (words : List String) (x : List Char) : Prop :=
  ∃ w ∈ words, x.map fold = w.toList.map fold

instance (words : List String) (x : List Char) : Decidable (Spells words x) :=
  inferInstanceAs (Decidable (∃ w ∈ words, x.map fold = w.toList.map fold))

/-- Words of which none is the beginning of another one, and that consist of letters as they stand
in names. -/
structure Keywords (words : List String) : Prop where
  apart : ∀ v ∈ words, ∀ w ∈ words, v.toList.map fold <+: w.toList.map fold → v = w
  ne_nil : ∀ w ∈ words, w.toList ≠ []
  letters : ∀ w ∈ words, w.toList.all isNameChar = true

/-- One of the words is a list of its own. -/
theorem Keywords.singleton {words : List String} (hw : Keywords words) {w : String}
    (h : w ∈ words) : Keywords [w] where
  apart := by simp
  ne_nil := by simpa using hw.ne_nil w h
  letters := by simpa using hw.letters w h

namespace Spells

variable {words others : List String} {x : List Char}

theorem mono (hsub : words ⊆ others) (h : Spells words x) : Spells others x := by
  obtain ⟨w, hmem, he⟩ := h
  exact ⟨w, hsub hmem, he⟩

theorem ne_nil (hw : Keywords words) (h : Spells words x) : x ≠ [] := by
  obtain ⟨w, hmem, he⟩ := h
  rintro rfl
  exact hw.ne_nil w hmem (by simpa using he.symm)

theorem isNameChar (hw : Keywords words) (h : Spells words x) : ∀ c ∈ x, isNameChar c = true := by
  obtain ⟨w, hmem, he⟩ := h
  intro c hc
  have hfold : fold c ∈ w.toList.map fold := he ▸ List.mem_map_of_mem hc
  obtain ⟨l, hl, hcl⟩ := List.mem_map.mp hfold
  rw [isNameChar_congr hcl.symm]
  exact List.all_eq_true.mp (hw.letters w hmem) l hl

end Spells

/-- At most one of the words can be read at a place. -/
theorem Keywords.eq_of_readFolded {words : List String} (hw : Keywords words) {v w : String}
    (hv : v ∈ words) (hw' : w ∈ words) {s r r' : List Char}
    (h : readFolded v.toList s = some r) (h' : readFolded w.toList s = some r') : v = w := by
  obtain ⟨x, rfl, hx⟩ := readFolded_eq_some_iff.mp h
  obtain ⟨y, hs, hy⟩ := readFolded_eq_some_iff.mp h'
  rcases List.prefix_or_prefix_of_prefix (List.prefix_append x r) ⟨r', hs.symm⟩ with hxy | hyx
  · exact hw.apart v hv w hw' (hx ▸ hy ▸ hxy.map fold)
  · exact (hw.apart w hw' v hv (hx ▸ hy ▸ hyx.map fold)).symm

theorem read_anyOf_iff {words : List String} (hw : Keywords words) {s name rest : List Char} :
    (Piece.anyOf words).read s = some (name, rest) ↔
      name = [] ∧ ∃ x, s = x ++ rest ∧ Spells words x := by
  have hread : (Piece.anyOf words).read s = some (name, rest) ↔
      name = [] ∧ (words.findSome? fun w => readFolded w.toList s) = some rest := by
    simp only [Piece.read, Option.map_eq_some_iff, Prod.mk.injEq]
    constructor
    · rintro ⟨r, hr, rfl, rfl⟩
      exact ⟨rfl, hr⟩
    · rintro ⟨rfl, hr⟩
      exact ⟨rest, hr, rfl, rfl⟩
  rw [hread]
  refine and_congr_right fun _ => ⟨fun h => ?_, ?_⟩
  · obtain ⟨w, hmem, hr⟩ := List.exists_of_findSome?_eq_some h
    obtain ⟨x, hs, hx⟩ := readFolded_eq_some_iff.mp hr
    exact ⟨x, hs, w, hmem, hx⟩
  · rintro ⟨x, rfl, w, hmem, hx⟩
    have hr : readFolded w.toList (x ++ rest) = some rest :=
      readFolded_eq_some_iff.mpr ⟨x, rfl, hx⟩
    cases hfirst : words.findSome? fun w => readFolded w.toList (x ++ rest) with
    | none =>
      have hnone := List.findSome?_eq_none_iff.mp hfirst w hmem
      rw [hr] at hnone
      cases hnone
    | some r =>
      obtain ⟨v, hv, hr'⟩ := List.exists_of_findSome?_eq_some hfirst
      obtain rfl := hw.eq_of_readFolded hv hmem hr' hr
      rw [← hr', hr]

/-- A phrase is read piece by piece. -/
theorem readPhrase_cons_iff {p : Piece} {ps : Phrase} {s name rest : List Char} :
    readPhrase (p :: ps) s = some (name, rest) ↔
      ∃ n r m, p.read s = some (n, r) ∧ readPhrase ps r = some (m, rest) ∧ name = n ++ m := by
  rw [readPhrase]
  cases hp : p.read s with
  | none => simp
  | some x =>
    obtain ⟨n, r⟩ := x
    dsimp only
    cases hps : readPhrase ps r with
    | none => simp [hps]
    | some y => simp [hps, Prod.ext_iff, eq_comm, and_comm]

end Cutover.Text
