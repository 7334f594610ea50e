import Cutover.Text.CaseRuns

/-!
# Lower case

The lower-case form of a text, character by character and without regard to language or
context: a capital sigma always becomes the ordinary small one.
-/
namespace Cutover.Text

/-- The lower-case form of one character, which is two characters for the dotted capital I. -/
def lowerChar (c : Char) : List Char :=
  if c.toNat < 128 then [c.toLower]
  else if c = '\u0130' then ['i', '\u0307']
  else
    match caseRuns.find? (·.has c.toNat) with
    | some r => [Char.ofNat (c.toNat + r.distance).toNat]
    | none => [c]

def lower (s : List Char) : List Char := s.flatMap lowerChar

@[simp] theorem lower_append (a b : List Char) : lower (a ++ b) = lower a ++ lower b := by
  simp [lower]

/-- Whether `needle` stands somewhere in the text. -/
def occursIn (needle : List Char) : List Char → Bool
  | [] => needle.isEmpty
  | c :: s => needle.isPrefixOf (c :: s) || occursIn needle s

end Cutover.Text
