import Cutover.Files.Path
import Mathlib.Data.List.TakeWhile

/-!
# The parts of a path

A slash cuts a path in two, and the parts of both sides are the parts of the whole. Slashes and
single dots at the end add none, so a path ends in the name that stands before them. A name in its
turn has an extension behind its last dot.
-/
namespace Cutover.Path

theorem split_ne_nil (cs : List Char) : split cs ≠ [] := by
  cases cs with
  | nil => simp [split]
  | cons c cs =>
    rw [split]
    split
    · simp
    · split <;> simp

theorem split_append_slash (a b : List Char) : split (a ++ '/' :: b) = split a ++ split b := by
  induction a with
  | nil => simp [split]
  | cons c a ih =>
    obtain ⟨part, parts, hs⟩ := List.exists_cons_of_ne_nil (split_ne_nil a)
    rw [hs] at ih
    simp only [List.cons_append, split, ih, hs]
    split <;> rfl

theorem split_of_noSlash {a : List Char} (h : '/' ∉ a) : split a = [a] := by
  induction a with
  | nil => rfl
  | cons c a ih =>
    rw [List.mem_cons, not_or] at h
    rw [split, if_neg (Ne.symm h.1), ih h.2]

/-- Slashes, each with or without a dot behind it. -/
inductive IdleEnding : List Char → Prop
  | nil : IdleEnding []
  | slash {s : List Char} (h : IdleEnding s) : IdleEnding ('/' :: s)
  | dot {s : List Char} (h : IdleEnding s) : IdleEnding ('/' :: '.' :: s)

/-- An idle ending adds no part to a path. -/
theorem filter_split_append {a s : List Char} (ha : '/' ∉ a) (h : IdleEnding s) :
    (split (a ++ s)).filter (!isIdle ·) = [a].filter (!isIdle ·) := by
  induction h generalizing a with
  | nil => rw [List.append_nil, split_of_noSlash ha]
  | slash h ih =>
    have hrest := ih (a := []) (by simp)
    rw [List.nil_append] at hrest
    rw [split_append_slash, split_of_noSlash ha, List.filter_append, hrest]
    simp [isIdle]
  | dot h ih =>
    have hrest := ih (a := ['.']) (by decide)
    rw [List.cons_append, List.nil_append] at hrest
    rw [split_append_slash, split_of_noSlash ha, List.filter_append, hrest]
    simp [isIdle]

/-- Whether a text is one part of a path that leads somewhere. -/
structure IsComponent (name : String) : Prop where
  ne_empty : name ≠ ""
  noSlash : '/' ∉ name.toList
  ne_dot : name ≠ "."

theorem IsComponent.isIdle {name : String} (h : IsComponent name) : isIdle name.toList = false := by
  have hdot : name.toList ≠ ['.'] := fun hd => h.ne_dot (String.toList_inj.mp hd)
  simp [Path.isIdle, h.ne_empty, hdot]

/-- The last part of a path is the one before its idle ending. -/
theorem parts_append {dir name ending : String} (hn : IsComponent name)
    (he : IdleEnding ending.toList) :
    parts (dir ++ "/" ++ name ++ ending) = parts dir ++ [name] := by
  have htext : (dir ++ "/" ++ name ++ ending).toList =
      dir.toList ++ '/' :: (name.toList ++ ending.toList) := by
    simp [String.toList_append]
  rw [parts, htext, split_append_slash, List.filter_append, filter_split_append hn.noSlash he]
  simp [parts, hn.isIdle]

theorem fileName?_append {dir name ending : String} (hn : IsComponent name) (hup : name ≠ "..")
    (he : IdleEnding ending.toList) : fileName? (dir ++ "/" ++ name ++ ending) = some name := by
  rw [fileName?, parts_append hn he, List.getLast?_append]
  simp [hup]

theorem toList_join (folder name : String) : (join folder name).toList =
    folder.toList ++ (if folder = "" ∨ folder.toList.getLast? = some '/' then [] else ['/']) ++
      name.toList := by
  rw [join]
  split <;> simp_all

theorem join_of_noSlash {folder : String} (hne : folder ≠ "")
    (hslash : folder.toList.getLast? ≠ some '/') (name : String) :
    join folder name = folder ++ "/" ++ name := by
  simp [join, hne, hslash]

/-- A file name has an extension if it is made of a stem, a dot and that extension. -/
theorem extension?_eq_some_iff {name ending : String} :
    extension? name = some ending ↔
      '.' ∉ ending.toList ∧ ∃ stem, stem ≠ "" ∧ name = stem ++ "." ++ ending := by
  constructor
  · intro h
    unfold extension? at h
    dsimp only at h
    split at h
    · next c c' rest hdrop =>
      cases h
      have hc : c = '.' := by
        have hhead := List.head?_dropWhile_not (· ≠ '.') name.toList.reverse
        rw [hdrop] at hhead
        simpa using hhead
      have htext := List.takeWhile_append_dropWhile (p := (· ≠ '.')) (l := name.toList.reverse)
      rw [hdrop, hc] at htext
      refine ⟨fun hdot => ?_, String.ofList (c' :: rest).reverse, by simp, ?_⟩
      · rw [String.toList_ofList, List.mem_reverse] at hdot
        simpa using List.mem_takeWhile_imp hdot
      · have hname := congrArg List.reverse htext
        rw [← String.toList_inj]
        simpa [String.toList_append] using hname.symm
    · cases h
  · rintro ⟨hending, stem, hstem, rfl⟩
    have hreversed : (stem ++ "." ++ ending).toList.reverse =
        ending.toList.reverse ++ '.' :: stem.toList.reverse := by
      simp [String.toList_append]
    have hstem' : stem.toList.reverse ≠ [] := by simpa using hstem
    obtain ⟨c, rest, hrest⟩ := List.exists_cons_of_ne_nil hstem'
    have hall : ∀ c ∈ ending.toList.reverse, decide (c ≠ '.') = true := by
      intro c hc
      rw [decide_eq_true_eq]
      rintro rfl
      exact hending (List.mem_reverse.mp hc)
    rw [extension?, hreversed, List.dropWhile_append_of_pos hall, List.takeWhile_append_of_pos hall]
    simp [hrest]

end Cutover.Path
