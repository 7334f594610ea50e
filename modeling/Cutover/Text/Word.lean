import Cutover.Text.WordRanges

/-!
# Word characters

A word is a run of letters, marks, decimal digits, connector punctuation and join controls.
Keywords are looked for only where a word begins, so the class decides what hides a keyword.
-/
namespace Cutover.Text

/-- Whether a code point lies in one of the ranges. -/
def inRanges (ranges : List (Nat × Nat)) (n : Nat) : Bool :=
  ranges.any fun r => r.1 ≤ n && n ≤ r.2

def isWord (c : Char) : Bool :=
  if c.toNat < 128 then c.isAlphanum || c == '_' else inRanges wordRanges c.toNat

/-- Every ASCII letter or digit is a word character. -/
theorem isWord_of_isAlphanum (c : Char) (h : c.toNat < 128) (ha : c.isAlphanum = true) :
    isWord c = true := by
  simp [isWord, h, ha]

end Cutover.Text
