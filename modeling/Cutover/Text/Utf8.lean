/-!
# Text from bytes

Bytes read as UTF-8 where not all of them need be text. What is cut off or out of place shows
as one replacement character for each longest beginning of a character.
-/
namespace Cutover.Text

/-- What stands for bytes that are not text. -/
def replacement : Char := '\ufffd'

/-- A character begun: the bits so far, how many bytes are owed, and the range of the next. -/
structure Unfinished where
  bits : Nat
  owed : Nat
  least : Nat := 0x80
  greatest : Nat := 0xbf

def firstByte (b : Nat) : List Char × Option Unfinished :=
  if b ≤ 0x7f then ([Char.ofNat b], none)
  else if b < 0xc2 then ([replacement], none)
  else if b ≤ 0xdf then ([], some ⟨b % 0x20, 1, 0x80, 0xbf⟩)
  else if b = 0xe0 then ([], some ⟨0, 2, 0xa0, 0xbf⟩)
  else if b = 0xed then ([], some ⟨0xd, 2, 0x80, 0x9f⟩)
  else if b ≤ 0xef then ([], some ⟨b % 0x10, 2, 0x80, 0xbf⟩)
  else if b = 0xf0 then ([], some ⟨0, 3, 0x90, 0xbf⟩)
  else if b ≤ 0xf3 then ([], some ⟨b % 8, 3, 0x80, 0xbf⟩)
  else if b = 0xf4 then ([], some ⟨4, 3, 0x80, 0x8f⟩)
  else ([replacement], none)

def Unfinished.continue? (u : Unfinished) (b : Nat) : Option (List Char × Option Unfinished) :=
  if u.least ≤ b && b ≤ u.greatest then
    let bits := u.bits * 0x40 + b % 0x40
    if u.owed = 1 then some ([Char.ofNat bits], none)
    else some ([], some ⟨bits, u.owed - 1, 0x80, 0xbf⟩)
  else none

def decodeAfter : Option Unfinished → List UInt8 → List Char
  | none, [] => []
  | some _, [] => [replacement]
  | none, b :: bs =>
    let (cs, u) := firstByte b.toNat
    cs ++ decodeAfter u bs
  | some u, b :: bs =>
    match u.continue? b.toNat with
    | some (cs, u) => cs ++ decodeAfter u bs
    | none =>
      let (cs, u) := firstByte b.toNat
      replacement :: cs ++ decodeAfter u bs

/-- The text of bytes that need not all be text. -/
def decode (bytes : ByteArray) : List Char :=
  match String.fromUTF8? bytes with
  | some text => text.toList
  | none => decodeAfter none bytes.toList

end Cutover.Text
