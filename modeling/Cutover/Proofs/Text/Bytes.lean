import Cutover.Proofs.Text.LetterCase
import Mathlib.Data.List.Infix
import Mathlib.Data.String.Basic

/-!
# Places in a text, by bytes

A search in the encoded text tells the places of a word in bytes. Each of them is the beginning of
a character, since no byte that begins one ever stands inside another; and a copy in lower case
has its characters at the same bytes.
-/
namespace Cutover.Text

section Encoding

variable {word s : List Char}

/-- The bytes of a text. -/
def bytes (s : String) : List UInt8 := s.toUTF8.data.toList

/-- The bytes of a text at which a word begins. -/
def byteOffsets (word s : String) : List Nat :=
  (List.range (bytes s).length).filter fun i => (bytes word).isPrefixOf ((bytes s).drop i)

/-- The text from a byte on, if a character begins there. -/
def fromByte? (s : String) (i : Nat) : Option (List Char) :=
  if h : (⟨i⟩ : String.Pos.Raw).IsValid s then some (s.sliceFrom (s.pos ⟨i⟩ h)).copy.toList
  else none

@[simp] theorem bytes_ofList (s : List Char) :
    bytes (String.ofList s) = s.flatMap String.utf8EncodeChar := by
  simp [bytes, String.toUTF8, List.utf8Encode]

@[simp] theorem utf8Size_toLower (c : Char) : c.toLower.utf8Size = c.utf8Size :=
  apply_toLower (by decide) c

theorem bytes_isPrefix_iff :
    bytes (String.ofList word) <+: bytes (String.ofList s) ↔ word <+: s := by
  simp only [bytes_ofList]
  constructor
  · rintro ⟨t, ht⟩
    refine List.isPrefix_of_utf8Encode_append_eq_utf8Encode t.toByteArray ?_
    rw [List.utf8Encode, List.utf8Encode, ← ht, List.toByteArray_append]
  · rintro ⟨t, rfl⟩
    rw [List.flatMap_append]
    exact List.prefix_append _ _

@[simp] theorem byteOffsets_empty (word : String) : byteOffsets word "" = [] := by
  simp [byteOffsets, bytes]

/-- No word begins inside a character. -/
theorem not_isPrefix_inside {c : Char} {i : Nat} (hword : word ≠ []) (hi : i ≠ 0)
    (hlt : i < c.utf8Size) :
    ¬bytes (String.ofList word) <+: (bytes (String.ofList (c :: s))).drop i := by
  intro hprefix
  obtain ⟨w, word, rfl⟩ := List.exists_cons_of_ne_nil hword
  have hw : 0 < (String.utf8EncodeChar w).length := by
    simpa using w.utf8Size_pos
  have hc : i < (String.utf8EncodeChar c).length := by simpa using hlt
  have hbegins : (String.utf8EncodeChar w)[0].IsUTF8FirstByte :=
    UInt8.isUTF8FirstByte_getElem_utf8EncodeChar.mpr rfl
  obtain ⟨rest, hrest⟩ := hprefix
  have hbyte := congrArg (·[0]?) hrest
  simp only [bytes_ofList, List.flatMap_cons, List.append_assoc, List.getElem?_drop,
    List.getElem?_append_left hw, List.getElem?_append_left hc, Nat.add_zero,
    List.getElem?_eq_getElem hw, List.getElem?_eq_getElem hc, Option.some.injEq] at hbyte
  rw [hbyte] at hbegins
  exact hi (UInt8.isUTF8FirstByte_getElem_utf8EncodeChar.mp hbegins)

theorem byteOffsets_cons (c : Char) (hword : word ≠ []) :
    byteOffsets (String.ofList word) (String.ofList (c :: s)) =
      (if word <+: c :: s then [0] else []) ++
        (byteOffsets (String.ofList word) (String.ofList s)).map (c.utf8Size + ·) := by
  have hbytes : bytes (String.ofList (c :: s)) =
      String.utf8EncodeChar c ++ bytes (String.ofList s) := by
    simp only [bytes_ofList, List.flatMap_cons]
  have hlength : (bytes (String.ofList (c :: s))).length =
      c.utf8Size + (bytes (String.ofList s)).length := by
    rw [hbytes, List.length_append, String.length_utf8EncodeChar]
  rw [byteOffsets, hlength, List.range_add, List.filter_append]
  congr 1
  · obtain ⟨k, hk⟩ := Nat.exists_eq_succ_of_ne_zero c.utf8Size_pos.ne'
    have hinside : ((List.range k).map Nat.succ).filter (fun i => (bytes
        (String.ofList word)).isPrefixOf ((bytes (String.ofList (c :: s))).drop i)) = [] := by
      simp only [List.filter_eq_nil_iff, List.mem_map, List.mem_range, List.isPrefixOf_iff_prefix]
      rintro i ⟨j, hj, rfl⟩
      exact not_isPrefix_inside hword j.succ_ne_zero (by omega)
    rw [hk, List.range_succ_eq_map, List.filter_cons, hinside, List.drop_zero]
    simp only [List.isPrefixOf_iff_prefix, bytes_isPrefix_iff]
  · rw [List.filter_map, byteOffsets]
    congr 1
    refine List.filter_congr fun i _ => ?_
    have hdrop : (bytes (String.ofList (c :: s))).drop (c.utf8Size + i) =
        (bytes (String.ofList s)).drop i := by
      rw [hbytes, ← String.length_utf8EncodeChar, List.drop_length_add_append]
    simp only [Function.comp_apply, hdrop]

/-- A word begins at a byte if it begins at a character, so many bytes after the first. -/
theorem mem_byteOffsets_iff (hword : word ≠ []) {i : Nat} :
    i ∈ byteOffsets (String.ofList word) (String.ofList s) ↔
      ∃ a b, s = a ++ b ∧ String.utf8Len a = i ∧ word <+: b := by
  induction s generalizing i with
  | nil =>
    simp only [String.ofList_nil, byteOffsets_empty, List.not_mem_nil, false_iff, not_exists,
      not_and]
    rintro a b hs - hb
    obtain ⟨rfl, rfl⟩ := List.nil_eq_append_iff.mp hs
    exact hword (List.prefix_nil.mp hb)
  | cons c s ih =>
    simp only [byteOffsets_cons c hword, List.mem_append, List.mem_map, ih]
    constructor
    · rintro (hi | ⟨i, ⟨a, b, rfl, rfl, hb⟩, rfl⟩)
      · split at hi
        · next hb => exact ⟨[], c :: s, rfl, (List.mem_singleton.mp hi).symm, hb⟩
        · cases hi
      · exact ⟨c :: a, b, rfl, by simp [Nat.add_comm], hb⟩
    · rintro ⟨a, b, hs, rfl, hb⟩
      cases a with
      | nil =>
        rw [List.nil_append] at hs
        exact .inl (by simp [hs, hb])
      | cons c' a =>
        obtain ⟨rfl, rfl⟩ := List.cons.inj hs
        exact .inr ⟨_, ⟨a, b, rfl, rfl, hb⟩, by simp [Nat.add_comm]⟩

/-- The places of a word that does not begin again within itself do not overlap. -/
theorem pairwise_byteOffsets {word : String} (s : String)
    (hword : ∀ k < (bytes word).length, k ≠ 0 → ¬(bytes word).drop k <+: bytes word) :
    (byteOffsets word s).Pairwise fun i j => i + (bytes word).length ≤ j := by
  have hsorted : (byteOffsets word s).Pairwise (· < ·) :=
    List.pairwise_lt_range.sublist List.filter_sublist
  refine hsorted.imp_of_mem fun {i j} hi hj hlt => ?_
  by_contra hover
  simp only [byteOffsets, List.mem_filter, List.isPrefixOf_iff_prefix] at hi hj
  obtain ⟨k, rfl⟩ := Nat.exists_eq_add_of_lt hlt
  have hlater := hi.2.drop (k + 1)
  rw [List.drop_drop] at hlater
  refine hword (k + 1) (by omega) k.succ_ne_zero ?_
  exact List.prefix_of_prefix_length_le hlater hj.2 (by simp)

end Encoding

section Slicing

variable {word : List Char} {sql : String}

theorem fromByte?_append {a b : List Char} (h : sql.toList = a ++ b) :
    fromByte? sql (String.utf8Len a) = some b := by
  have hsql : sql = String.ofList a ++ String.ofList b := by
    rw [← String.ofList_append, ← h, String.ofList_toList]
  have hend : (⟨String.utf8Len a⟩ : String.Pos.Raw) = (String.ofList a).rawEndPos := by
    simp
  have hvalid : (⟨String.utf8Len a⟩ : String.Pos.Raw).IsValid sql :=
    String.Pos.Raw.isValid_iff_exists_append.mpr ⟨_, _, hsql, hend⟩
  have hsplits : (sql.pos ⟨_⟩ hvalid).Splits (String.ofList a) (String.ofList b) := ⟨hsql, hend⟩
  rw [fromByte?, dif_pos hvalid, hsplits.copy_sliceFrom_eq, String.toList_ofList]

theorem utf8Len_map_toLower (s : List Char) :
    String.utf8Len (s.map Char.toLower) = String.utf8Len s := by
  induction s with
  | nil => rfl
  | cons c s ih => simp [ih]

/-- What is found in the copy in lower case begins a character of the text. -/
theorem isValid_of_mem_byteOffsets (hword : word ≠ []) {i : Nat}
    (hi : i ∈ byteOffsets (String.ofList word) (asciiLower sql)) :
    (⟨i⟩ : String.Pos.Raw).IsValid sql := by
  obtain ⟨a, b, hs, rfl, -⟩ := (mem_byteOffsets_iff hword).mp hi
  obtain ⟨a, b, hsql, rfl, rfl⟩ := List.map_eq_append_iff.mp hs
  rw [utf8Len_map_toLower]
  by_contra hnot
  have hfrom := fromByte?_append hsql
  rw [fromByte?, dif_neg hnot] at hfrom
  cases hfrom

/-- A reader of what begins with a word finds through the places of the word in the copy in lower
case what it finds through all places of the text. -/
theorem findSome?_byteOffsets {α : Type} {f : List Char → Option α} (hword : word ≠ [])
    (hf : ∀ s, ¬word <+: s.map Char.toLower → f s = none) {a s : List Char}
    (hsql : sql.toList = a ++ s) :
    (byteOffsets (String.ofList word) (String.ofList (s.map Char.toLower))).findSome?
      (fun i => (fromByte? sql (String.utf8Len a + i)).bind f) = s.tails.findSome? f := by
  induction s generalizing a with
  | nil =>
    have hnil : f [] = none := hf [] fun h => hword (List.prefix_nil.mp h)
    simp [hnil]
  | cons c s ih =>
    have hrest := ih (a := a ++ [c]) (by simp [hsql])
    have hplace : ∀ i, String.utf8Len a + (c.utf8Size + i) = String.utf8Len (a ++ [c]) + i :=
      fun i => by simp [Nat.add_assoc]
    rw [List.map_cons, byteOffsets_cons c.toLower hword, List.findSome?_append, List.findSome?_map]
    simp only [Function.comp_def, utf8Size_toLower, hplace, hrest, List.tails_cons]
    rw [List.findSome?_cons]
    by_cases hbegins : word <+: (c :: s).map Char.toLower
    · have hhere := fromByte?_append hsql
      simp only [List.map_cons] at hbegins
      simp only [if_pos hbegins, List.findSome?_cons, List.findSome?_nil, Nat.add_zero, hhere,
        Option.bind_some]
      cases f (c :: s) <;> rfl
    · have hnone := hf _ hbegins
      simp only [List.map_cons] at hbegins
      simp [if_neg hbegins, hnone]

end Slicing

end Cutover.Text
