import Cutover.Text.Lowercase
import Cutover.Text.Pattern

/-!
# Separators

A character that no piece of a pattern takes cuts a text in two. What is read before it is read
the same way whatever stands behind it, so no match reaches over it, and the matches of the whole
text are those of the first part followed by those of the second.
-/
namespace Cutover.Text

/-- If each reading differs by `k`, so does the first that there is. -/
theorem findSome?_eq_map {α β γ : Type} {l : List α} {f : α → Option β} {g : α → Option γ}
    {k : β → γ} (h : ∀ x ∈ l, g x = (f x).map k) : l.findSome? g = (l.findSome? f).map k := by
  induction l with
  | nil => rfl
  | cons x l ih =>
    obtain ⟨hx, hl⟩ := List.forall_mem_cons.mp h
    rw [List.findSome?_cons, List.findSome?_cons, hx]
    cases f x with
    | none => exact ih hl
    | some y => rfl

theorem readFolded_append {word : List Char} {c : Char} (h : ∀ l ∈ word, sameLetter l c = false)
    (a s : List Char) :
    readFolded word (a ++ c :: s) = (readFolded word a).map (· ++ c :: s) := by
  induction word generalizing a with
  | nil => simp [readFolded]
  | cons l word ih =>
    obtain ⟨hl, hword⟩ := List.forall_mem_cons.mp h
    cases a with
    | nil => simp [readFolded, hl]
    | cons x a =>
      simp only [List.cons_append, readFolded, ih hword]
      split <;> rfl

theorem takeWhile_append_cons {p : Char → Bool} {c : Char} (h : p c = false) (a s : List Char) :
    (a ++ c :: s).takeWhile p = a.takeWhile p := by
  rw [List.takeWhile_append]
  split
  · next hall =>
    simp only [List.takeWhile_cons, h, Bool.false_eq_true, if_false, List.append_nil]
    exact ((List.takeWhile_prefix p).eq_of_length hall).symm
  · rfl

theorem dropWhile_append_cons {p : Char → Bool} {c : Char} (h : p c = false) (a s : List Char) :
    (a ++ c :: s).dropWhile p = a.dropWhile p ++ c :: s := by
  rw [List.dropWhile_append]
  split
  · next hall => simp [List.isEmpty_iff.mp hall, h]
  · rfl

theorem any_head?_append_cons {p : Char → Bool} {c : Char} (h : p c = false) (a s : List Char) :
    (a ++ c :: s).head?.any p = a.head?.any p := by
  cases a <;> simp [h]

theorem isPrefixOf_append_cons {needle : List Char} {c : Char} (h : c ∉ needle) (a s : List Char) :
    needle.isPrefixOf (a ++ c :: s) = needle.isPrefixOf a := by
  induction needle generalizing a with
  | nil => simp
  | cons l needle ih =>
    obtain ⟨hl, hrest⟩ : c ≠ l ∧ c ∉ needle := by simpa using h
    cases a with
    | nil => simp [List.isPrefixOf, hl.symm]
    | cons x a => simp [List.isPrefixOf, ih hrest]

/-- A word that a character is no part of stands before it or behind it. -/
theorem occursIn_append_cons {needle : List Char} {c : Char} (h : c ∉ needle) (hne : needle ≠ [])
    (a s : List Char) :
    occursIn needle (a ++ c :: s) = (occursIn needle a || occursIn needle s) := by
  induction a with
  | nil =>
    have hhead := isPrefixOf_append_cons h [] s
    simp only [List.nil_append] at hhead
    cases needle with
    | nil => exact absurd rfl hne
    | cons l needle => simp [occursIn, hhead]
  | cons x a ih =>
    rw [List.cons_append, occursIn, ← List.cons_append, isPrefixOf_append_cons h, ih, occursIn,
      Bool.or_assoc]

namespace Piece

/-- Whether the piece reads the same before `s` as at the end of a text. -/
def StopsAt (p : Piece) (s : List Char) : Prop :=
  ∀ a, p.read (a ++ s) = (p.read a).map fun r => (r.1, r.2 ++ s)

/-- Whether a character is none of those that the piece takes or looks for. -/
def spares (c : Char) : Piece → Bool
  | .letters w => w.toList.all (!sameLetter · c)
  | .anyOf ws => ws.all (·.toList.all (!sameLetter · c))
  | .gap | .loose => !isBlank c
  | .name _ => !isNameChar c
  | .wordEnd => !isWord c
  | .later _ => false

theorem stopsAt_anyOf {ws : List String} {c : Char}
    (h : ∀ w ∈ ws, ∀ l ∈ w.toList, sameLetter l c = false) (s : List Char) :
    (anyOf ws).StopsAt (c :: s) := by
  intro a
  have hfirst := findSome?_eq_map fun w hw => readFolded_append (h w hw) a s
  simp [read, hfirst, Function.comp_def]

theorem stopsAt_of_spares {p : Piece} {c : Char} (h : p.spares c = true) (s : List Char) :
    p.StopsAt (c :: s) := by
  intro a
  cases p with
  | letters w =>
    have hw : ∀ l ∈ w.toList, sameLetter l c = false := by simpa [spares] using h
    simp [read, readFolded_append hw, Function.comp_def]
  | anyOf ws => exact stopsAt_anyOf (by simpa [spares] using h) s a
  | gap =>
    have hc : isBlank c = false := by simpa only [spares, Bool.not_eq_true'] using h
    simp only [read, any_head?_append_cons hc, dropWhile_append_cons hc]
    split <;> rfl
  | loose =>
    have hc : isBlank c = false := by simpa only [spares, Bool.not_eq_true'] using h
    simp [read, dropWhile_append_cons hc]
  | name kept =>
    have hc : isNameChar c = false := by simpa only [spares, Bool.not_eq_true'] using h
    simp only [read, any_head?_append_cons hc, dropWhile_append_cons hc, takeWhile_append_cons hc]
    split <;> rfl
  | wordEnd =>
    have hc : isWord c = false := by simpa only [spares, Bool.not_eq_true'] using h
    simp only [read, any_head?_append_cons hc]
    split <;> rfl
  | later w => simp [spares] at h

/-- What is looked for on the same line is not found behind a line end, nor across a character
before it that is no part of it. -/
theorem stopsAt_later {w : String} {c : Char} (hc : ∀ l ∈ w.toList, sameLetter l c = false)
    (hn : ∀ l ∈ w.toList, sameLetter l '\n' = false) (hw : w.toList ≠ []) (s : List Char) :
    (later w).StopsAt (c :: '\n' :: s) := by
  obtain ⟨l, rest, hl⟩ := List.exists_cons_of_ne_nil hw
  intro a
  have hstop : readLater w.toList (a ++ c :: '\n' :: s) =
      (readLater w.toList a).map (· ++ c :: '\n' :: s) := by
    induction a with
    | nil =>
      have hcl : sameLetter l c = false := hc l (by simp [hl])
      have hnl : sameLetter l '\n' = false := hn l (by simp [hl])
      simp [hl, readLater, readFolded, hcl, hnl]
    | cons x a ih =>
      rw [List.cons_append, readLater, ← List.cons_append, readFolded_append hc, readLater, ih]
      cases readFolded w.toList (x :: a) with
      | some r => rfl
      | none =>
        simp only [Option.map_none]
        split <;> rfl
  simp [read, hstop, Function.comp_def]

/-- Whether the piece cannot be read where this character stands first. -/
def refuses (c : Char) : Piece → Bool
  | .letters w => w.toList.head?.any (!sameLetter · c)
  | .anyOf ws => ws.all (·.toList.head?.any (!sameLetter · c))
  | .gap => !isBlank c
  | .name _ => !isNameChar c
  | .loose | .wordEnd | .later _ => false

theorem readFolded_of_refuses {w : List Char} {c : Char} (h : w.head?.any (!sameLetter · c) = true)
    (s : List Char) : readFolded w (c :: s) = none := by
  cases w with
  | nil => simp at h
  | cons l w =>
    have hl : sameLetter l c = false := by simpa using h
    simp [readFolded, hl]

theorem read_of_refuses {p : Piece} {c : Char} (h : p.refuses c = true) (s : List Char) :
    p.read (c :: s) = none := by
  cases p with
  | letters w => simp [read, readFolded_of_refuses h]
  | anyOf ws =>
    have hnone : ws.findSome? (fun w => readFolded w.toList (c :: s)) = none :=
      List.findSome?_eq_none_iff.mpr fun w hw =>
        readFolded_of_refuses (List.all_eq_true.mp h w hw) s
    simp [read, hnone]
  | gap =>
    have hc : isBlank c = false := by simpa only [refuses, Bool.not_eq_true'] using h
    simp only [read, List.head?_cons, Option.any_some, hc, Bool.false_eq_true, if_false]
  | name kept =>
    have hc : isNameChar c = false := by simpa only [refuses, Bool.not_eq_true'] using h
    simp only [read, List.head?_cons, Option.any_some, hc, Bool.false_eq_true, if_false]
  | loose | wordEnd | later w => simp [refuses] at h

end Piece

theorem readPhrase_append {ps : Phrase} {s : List Char} (h : ∀ p ∈ ps, p.StopsAt s)
    (a : List Char) :
    readPhrase ps (a ++ s) = (readPhrase ps a).map fun r => (r.1, r.2 ++ s) := by
  induction ps generalizing a with
  | nil => rfl
  | cons p ps ih =>
    obtain ⟨hp, hps⟩ := List.forall_mem_cons.mp h
    rw [readPhrase, readPhrase, hp a]
    cases p.read a with
    | none => rfl
    | some r =>
      simp only [Option.map_some, ih hps]
      cases readPhrase ps r.2 <;> rfl

namespace Pattern

variable {p : Pattern} {c : Char}

/-- Whether no piece of the pattern takes this character. -/
def spares (c : Char) (p : Pattern) : Bool := p.phrases.all (·.all (·.spares c))

/-- Whether no match begins with this character. -/
def refuses (c : Char) (p : Pattern) : Bool := p.phrases.all (·.head?.any (·.refuses c))

/-- Whether the pattern is read at each place of `a` as if `s` did not follow. -/
def CutAt (p : Pattern) (a s : List Char) : Prop :=
  ∀ front rest, front ++ rest = a → rest ≠ [] →
    p.readAt front.getLast? (rest ++ s) =
      (p.readAt front.getLast? rest).map fun r => (r.1, r.2 ++ s)

theorem cutAt_nil {s : List Char} : p.CutAt [] s :=
  fun _ _ h hne => absurd (List.append_eq_nil_iff.mp h).2 hne

theorem readAt_append {s : List Char} (h : ∀ ps ∈ p.phrases, ∀ x ∈ ps, x.StopsAt s)
    (before : Option Char) (a : List Char) :
    p.readAt before (a ++ s) = (p.readAt before a).map fun r => (r.1, r.2 ++ s) := by
  unfold readAt
  split
  · rfl
  · exact findSome?_eq_map fun ps hps => readPhrase_append (h ps hps) a

theorem cutAt_of_stopsAt {s : List Char} (h : ∀ ps ∈ p.phrases, ∀ x ∈ ps, x.StopsAt s)
    (a : List Char) : p.CutAt a s :=
  fun front rest _ _ => readAt_append h front.getLast? rest

theorem cutAt_of_spares (h : p.spares c = true) (a s : List Char) : p.CutAt a (c :: s) := by
  refine cutAt_of_stopsAt (fun ps hps x hx => ?_) a
  exact Piece.stopsAt_of_spares (List.all_eq_true.mp (List.all_eq_true.mp h ps hps) x hx) s

theorem readAt_of_refuses (h : p.refuses c = true) (before : Option Char) (s : List Char) :
    p.readAt before (c :: s) = none := by
  unfold readAt
  split
  · rfl
  · refine List.findSome?_eq_none_iff.mpr fun ps hps => ?_
    have hhead := List.all_eq_true.mp h ps hps
    cases ps with
    | nil => simp at hhead
    | cons x ps => simp [readPhrase, Piece.read_of_refuses (p := x) (by simpa using hhead)]

/-- Only whether a word character came before makes a difference. -/
theorem readAt_congr {x y : Option Char} (h : x.any isWord = y.any isWord) (s : List Char) :
    p.readAt x s = p.readAt y s := by
  simp only [readAt, h]

theorem scan_congr {x y : Option Char} (h : x.any isWord = y.any isWord) (skip : Nat)
    (s : List Char) : p.scan skip x s = p.scan skip y s := by
  cases s with
  | nil => simp [scan]
  | cons c s => cases skip <;> simp [scan, readAt_congr h]

theorem foundFrom_congr {x y : Option Char} (h : x.any isWord = y.any isWord) (s : List Char) :
    p.foundFrom x s = p.foundFrom y s := by
  cases s with
  | nil => rfl
  | cons c s => rw [foundFrom, foundFrom, readAt_congr h]

/-- A scan that has come to a place before the cut finds what it would find up to the cut, and
then what a scan finds that starts behind it. -/
theorem CutAt.scan_append {front a s : List Char} (hcut : p.CutAt (front ++ a) (c :: s))
    (href : p.refuses c = true) {skip : Nat} (hskip : skip ≤ a.length) :
    p.scan skip front.getLast? (a ++ c :: s) =
      p.scan skip front.getLast? a ++ p.scan 0 (some c) s := by
  induction a generalizing front skip with
  | nil =>
    obtain rfl : skip = 0 := by simpa using hskip
    simp [scan, readAt_of_refuses href]
  | cons x a ih =>
    have hnext : p.CutAt ((front ++ [x]) ++ a) (c :: s) := by simpa using hcut
    have hx : (front ++ [x]).getLast? = some x := List.getLast?_concat
    cases skip with
    | succ skip =>
      have htail := ih hnext (Nat.le_of_succ_le_succ hskip)
      rw [hx] at htail
      simpa [scan] using htail
    | zero =>
      have hread := hcut front (x :: a) rfl (by simp)
      rw [List.cons_append, scan, ← List.cons_append, hread, scan]
      cases p.readAt front.getLast? (x :: a) with
      | none =>
        have htail := ih hnext (Nat.zero_le _)
        rwa [hx] at htail
      | some r =>
        have hlength : (a ++ c :: s).length - (r.2 ++ c :: s).length = a.length - r.2.length := by
          simp only [List.length_append, List.length_cons]
          omega
        have htail := ih hnext (Nat.sub_le a.length r.2.length)
        rw [hx] at htail
        simp only [Option.map_some, hlength, htail, List.cons_append]

/-- The matches before a character that cuts, and those behind it, are all the matches. -/
theorem CutAt.matches_append {a b whole : String} (hcut : p.CutAt a.toList (c :: b.toList))
    (hwhole : whole.toList = a.toList ++ c :: b.toList) (href : p.refuses c = true)
    (hc : isWord c = false) : p.matches whole = p.matches a ++ p.matches b := by
  have hbehind : p.scan 0 (some c) b.toList = p.scan 0 none b.toList :=
    scan_congr (by simp [hc]) 0 b.toList
  have hstart : p.CutAt ([] ++ a.toList) (c :: b.toList) := hcut
  rw [Pattern.matches, Pattern.matches, Pattern.matches, hwhole, ← hbehind]
  exact hstart.scan_append href (Nat.zero_le a.toList.length)

theorem CutAt.foundFrom_append {front a s : List Char} (hcut : p.CutAt (front ++ a) (c :: s))
    (href : p.refuses c = true) :
    p.foundFrom front.getLast? (a ++ c :: s) =
      (p.foundFrom front.getLast? a || p.foundFrom (some c) s) := by
  induction a generalizing front with
  | nil => simp [foundFrom, readAt_of_refuses href]
  | cons x a ih =>
    have hread := hcut front (x :: a) rfl (by simp)
    have hnext : p.CutAt ((front ++ [x]) ++ a) (c :: s) := by simpa using hcut
    have htail := ih hnext
    rw [List.getLast?_concat] at htail
    rw [List.cons_append, foundFrom, ← List.cons_append, hread, foundFrom, htail,
      Option.isSome_map, Bool.or_assoc]

/-- What is found before a character that cuts, or behind it, is all that is found. -/
theorem CutAt.found_append {a b whole : String} (hcut : p.CutAt a.toList (c :: b.toList))
    (hwhole : whole.toList = a.toList ++ c :: b.toList) (href : p.refuses c = true)
    (hc : isWord c = false) : p.found whole = (p.found a || p.found b) := by
  have hbehind : p.foundFrom (some c) b.toList = p.foundFrom none b.toList :=
    foundFrom_congr (by simp [hc]) b.toList
  have hstart : p.CutAt ([] ++ a.toList) (c :: b.toList) := hcut
  rw [Pattern.found, Pattern.found, Pattern.found, hwhole, ← hbehind]
  exact hstart.foundFrom_append href

end Pattern

end Cutover.Text
