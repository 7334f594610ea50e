/-!
# Letter case

Two ways to forget the case of a letter. Keywords are compared after simple case folding,
under which the long s and the Kelvin sign stand for s and k; names that were found are
lower-cased in ASCII only, so those two signs stay as they are.
-/
namespace Cutover.Text

/-- Simple case folding on the classes that hold an ASCII letter; all else is kept. -/
def fold (c : Char) : Char :=
  if c = '\u017f' then 's' else if c = '\u212a' then 'k' else c.toLower

/-- Whether two characters differ in case only. -/
def sameLetter (a b : Char) : Bool := fold a == fold b

@[simp] theorem sameLetter_iff (a b : Char) : sameLetter a b = true ↔ fold a = fold b := by
  simp [sameLetter]

def isNameChar (c : Char) : Bool := 'a' ≤ fold c && fold c ≤ 'z' || fold c == '_'

/-- Reads the letters of `word` up to case and gives what follows them. -/
def readFolded : List Char → List Char → Option (List Char)
  | [], s => some s
  | _ :: _, [] => none
  | w :: ws, c :: s => if sameLetter w c then readFolded ws s else none

/-- Reads the letters of `word` up to ASCII case and gives what follows them. -/
def readAscii : List Char → List Char → Option (List Char)
  | [], s => some s
  | _ :: _, [] => none
  | w :: ws, c :: s => if w.toLower == c.toLower then readAscii ws s else none

def asciiLower (s : String) : String := String.ofList (s.toList.map Char.toLower)

section Capitals

def capitals : List Char :=
  ['A', 'B', 'C', 'D', 'E', 'F', 'G', 'H', 'I', 'J', 'K', 'L', 'M', 'N', 'O', 'P', 'Q', 'R', 'S',
    'T', 'U', 'V', 'W', 'X', 'Y', 'Z']

variable {c : Char}

theorem mem_capitals_of_isUpper (h : c.isUpper = true) : c ∈ capitals := by
  have hall : ∀ n < 128, (Char.ofNat n).isUpper → Char.ofNat n ∈ capitals := by decide
  have hbounds : c.val ≥ 'A'.val ∧ c.val ≤ 'Z'.val := of_decide_eq_true h
  have hlt : c.toNat < 128 :=
    Nat.lt_of_le_of_lt (UInt32.le_iff_toNat_le.mp hbounds.2) (by decide)
  have hc := hall c.toNat hlt
  rw [Char.ofNat_toNat] at hc
  exact hc h

theorem toLower_of_not_isUpper (h : ¬c.isUpper = true) : c.toLower = c :=
  dif_neg fun hbounds => h (decide_eq_true hbounds)

/-- What is the same for each capital and its small letter does not depend on case. -/
theorem apply_toLower {α : Type} {f : Char → α}
    (h : capitals.map (fun c => f c.toLower) = capitals.map f) (c : Char) : f c.toLower = f c := by
  by_cases hc : c.isUpper = true
  · exact List.map_inj_left.mp h c (mem_capitals_of_isUpper hc)
  · rw [toLower_of_not_isUpper hc]

@[simp] theorem toLower_toLower (c : Char) : c.toLower.toLower = c.toLower :=
  apply_toLower (by decide) c

theorem asciiLower_asciiLower (s : String) : asciiLower (asciiLower s) = asciiLower s := by
  simp [asciiLower, Function.comp_def]

end Capitals

end Cutover.Text
