import Cutover.Text.Utf8

/-!
# Texts as bytes

The shell works on bytes and not on characters. A byte text holds one character below 256 for
each byte.
-/
namespace Cutover.Text

/-- The byte text of some bytes. -/
def ofBytes (bytes : ByteArray) : List Char := bytes.toList.map fun b => Char.ofNat b.toNat

def toBytes (s : List Char) : ByteArray := ⟨(s.map fun c => UInt8.ofNat c.toNat).toArray⟩

def bytewise (text : String) : String := String.ofList (ofBytes text.toUTF8)

/-- The text of a byte text, which need not be text all through. -/
def readable (text : String) : String := String.ofList (decode (toBytes text.toList))

end Cutover.Text
