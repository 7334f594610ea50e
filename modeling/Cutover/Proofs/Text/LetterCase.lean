import Cutover.Proofs.Text.Separator
import Mathlib.Tactic.Common

/-!
# Letter case in ASCII

A capital letter of ASCII is in the same classes of characters as its small letter, and both are
compared and lower-cased alike. So a pattern is read in the lower-case form of a text just where it
is read in the text, and what it reports there is the lower-case form of what it reports here.
-/
namespace Cutover.Text

section Characters

@[simp] theorem isBlank_toLower (c : Char) : isBlank c.toLower = isBlank c :=
  apply_toLower (by decide) c

@[simp] theorem isWord_toLower (c : Char) : isWord c.toLower = isWord c :=
  apply_toLower (by decide) c

@[simp] theorem fold_toLower (c : Char) : fold c.toLower = fold c := apply_toLower (by decide) c

@[simp] theorem isNameChar_toLower (c : Char) : isNameChar c.toLower = isNameChar c := by
  simp only [isNameChar, fold_toLower]

@[simp] theorem sameLetter_toLower (l c : Char) : sameLetter l c.toLower = sameLetter l c := by
  simp only [sameLetter, fold_toLower]

@[simp] theorem lowerChar_toLower (c : Char) : lowerChar c.toLower = lowerChar c :=
  apply_toLower (by decide) c

theorem toLower_eq_newline_iff (c : Char) : c.toLower = '\n' ↔ c = '\n' := by
  have h := apply_toLower (f := fun c => decide (c = '\n')) (by decide) c
  simpa using h

theorem lower_map_toLower (s : List Char) : lower (s.map Char.toLower) = lower s := by
  simp [lower, List.flatMap_map]

end Characters

section Reading

theorem readFolded_map_toLower (word s : List Char) :
    readFolded word (s.map Char.toLower) = (readFolded word s).map (List.map Char.toLower) := by
  induction word generalizing s with
  | nil => simp [readFolded]
  | cons l word ih =>
    cases s with
    | nil => rfl
    | cons c s =>
      simp only [List.map_cons, readFolded, sameLetter_toLower, ih]
      split <;> rfl

theorem readLater_map_toLower (word s : List Char) :
    readLater word (s.map Char.toLower) = (readLater word s).map (List.map Char.toLower) := by
  induction s with
  | nil => exact readFolded_map_toLower word []
  | cons c s ih =>
    have hword := readFolded_map_toLower word (c :: s)
    simp only [List.map_cons] at hword
    simp only [List.map_cons, readLater, hword, ih, toLower_eq_newline_iff]
    cases readFolded word (c :: s) with
    | some rest => rfl
    | none =>
      simp only [Option.map_none]
      split <;> rfl

theorem takeWhile_map_toLower {p : Char → Bool} (hp : ∀ c, p c.toLower = p c) (s : List Char) :
    (s.map Char.toLower).takeWhile p = (s.takeWhile p).map Char.toLower := by
  rw [List.takeWhile_map, Function.comp_def, funext hp]

theorem dropWhile_map_toLower {p : Char → Bool} (hp : ∀ c, p c.toLower = p c) (s : List Char) :
    (s.map Char.toLower).dropWhile p = (s.dropWhile p).map Char.toLower := by
  rw [List.dropWhile_map, Function.comp_def, funext hp]

theorem any_head?_map_toLower {p : Char → Bool} (hp : ∀ c, p c.toLower = p c) (s : List Char) :
    (s.map Char.toLower).head?.any p = s.head?.any p := by
  rw [List.head?_map, Option.any_map, funext hp]

theorem Piece.read_map_toLower (p : Piece) (s : List Char) :
    p.read (s.map Char.toLower) =
      (p.read s).map fun r => (r.1.map Char.toLower, r.2.map Char.toLower) := by
  cases p with
  | letters w => simp [read, readFolded_map_toLower, Function.comp_def]
  | anyOf ws =>
    have hfirst := findSome?_eq_map fun w (_ : w ∈ ws) => readFolded_map_toLower w.toList s
    simp [read, hfirst, Function.comp_def]
  | gap =>
    simp only [read, any_head?_map_toLower isBlank_toLower, dropWhile_map_toLower isBlank_toLower]
    split <;> rfl
  | loose => simp [read, dropWhile_map_toLower isBlank_toLower]
  | name kept =>
    simp only [read, any_head?_map_toLower isNameChar_toLower,
      dropWhile_map_toLower isNameChar_toLower, takeWhile_map_toLower isNameChar_toLower]
    cases kept <;> split <;> rfl
  | wordEnd =>
    simp only [read, any_head?_map_toLower isWord_toLower]
    split <;> rfl
  | later w => simp [read, readLater_map_toLower, Function.comp_def]

theorem readPhrase_map_toLower (ps : Phrase) (s : List Char) :
    readPhrase ps (s.map Char.toLower) =
      (readPhrase ps s).map fun r => (r.1.map Char.toLower, r.2.map Char.toLower) := by
  induction ps generalizing s with
  | nil => rfl
  | cons p ps ih =>
    simp only [readPhrase, p.read_map_toLower s]
    cases p.read s with
    | none => rfl
    | some r =>
      simp only [Option.map_some, ih]
      cases readPhrase ps r.2 <;> simp

end Reading

namespace Pattern

theorem readAt_map_toLower (p : Pattern) (before : Option Char) (s : List Char) :
    p.readAt (before.map Char.toLower) (s.map Char.toLower) =
      (p.readAt before s).map fun r => (r.1.map Char.toLower, r.2.map Char.toLower) := by
  have hbefore : (before.map Char.toLower).any isWord = before.any isWord := by
    rw [Option.any_map, funext isWord_toLower]
  simp only [readAt, hbefore]
  split
  · rfl
  · exact findSome?_eq_map fun ps _ => readPhrase_map_toLower ps s

theorem scan_map_toLower (p : Pattern) (skip : Nat) (before : Option Char) (s : List Char) :
    p.scan skip (before.map Char.toLower) (s.map Char.toLower) =
      (p.scan skip before s).map (List.map Char.toLower) := by
  induction s generalizing skip before with
  | nil => cases skip <;> rfl
  | cons c s ih =>
    have hread := p.readAt_map_toLower before (c :: s)
    have hnext := fun skip => ih skip (some c)
    simp only [List.map_cons, Option.map_some] at hread hnext ⊢
    cases skip with
    | succ skip => exact hnext skip
    | zero =>
      simp only [scan, hread]
      cases p.readAt before (c :: s) with
      | none => exact hnext 0
      | some r => simp [hnext]

theorem foundFrom_map_toLower (p : Pattern) (before : Option Char) (s : List Char) :
    p.foundFrom (before.map Char.toLower) (s.map Char.toLower) = p.foundFrom before s := by
  induction s generalizing before with
  | nil => rfl
  | cons c s ih =>
    have hread := p.readAt_map_toLower before (c :: s)
    have hnext := ih (some c)
    simp only [List.map_cons, Option.map_some] at hread hnext ⊢
    simp only [foundFrom, hread, hnext, Option.isSome_map]

theorem matches_asciiLower (p : Pattern) (text : String) :
    p.matches (asciiLower text) = (p.matches text).map (List.map Char.toLower) := by
  simpa [Pattern.matches, asciiLower] using p.scan_map_toLower 0 none text.toList

theorem count_asciiLower (p : Pattern) (text : String) :
    p.count (asciiLower text) = p.count text := by
  simp [count, matches_asciiLower]

theorem found_asciiLower (p : Pattern) (text : String) :
    p.found (asciiLower text) = p.found text := by
  simpa [found, asciiLower] using p.foundFrom_map_toLower none text.toList

end Pattern

end Cutover.Text
