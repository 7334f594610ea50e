import Cutover.Shell.Pattern

/-!
# Quoted texts in messages

Programs put names into their messages so that no byte of them can be mistaken. One manner has
backslashes for all that does not print; the other is the one in which the shell reads the name
again.
-/
namespace Cutover.Shell.Quoted

def letterOf? (c : Char) : Option Char :=
  match c with
  | '\x07' => some 'a'
  | '\x08' => some 'b'
  | '\x0c' => some 'f'
  | '\n' => some 'n'
  | '\r' => some 'r'
  | '\t' => some 't'
  | '\x0b' => some 'v'
  | _ => none

def isPrinted (c : Char) : Bool := ' ' ≤ c && c ≤ '~'

def escape (c : Char) : List Char :=
  match letterOf? c with
  | some l => ['\\', l]
  | none =>
    let digit (n : Nat) : Char := Char.ofNat ('0'.toNat + n % 8)
    ['\\', digit (c.toNat / 64), digit (c.toNat / 8), digit c.toNat]

def plain (text : String) : String :=
  let shown (c : Char) : List Char :=
    if c = '\x27' || c = '\\' then ['\\', c] else if isPrinted c then [c] else escape c
  String.ofList ('\x27' :: text.toList.flatMap shown ++ ['\x27'])

/-- Whether a character makes quotes necessary where it stands. -/
def isUnsafe (first : Bool) (c : Char) : Bool :=
  !isPrinted c || " !\x22$&()*;<=>[^\x60|?\\\x27".toList.contains c ||
    (first && (c = '#' || c = '~'))

/-- The rest of a text in single quotes, `escaping` if it does not print where it stands. -/
def quotedRest : Bool → List Char → List Char
  | _, [] => ['\x27']
  | escaping, c :: s =>
    if c = '\x27' then "\x27\\\x27\x27".toList ++ quotedRest false s
    else if isPrinted c then
      let front := if escaping then "\x27\x27".toList else []
      front ++ c :: quotedRest false s
    else
      let front := if escaping then [] else "\x27$\x27".toList
      front ++ escape c ++ quotedRest true s

/-- A text in quotes, as the shell reads it. Where it has quotes in it and ends in something that
does not print, it starts as if something stood in front that does not print. -/
def always (text : String) : String :=
  let s := text.toList
  let simple (c : Char) : Bool := isPrinted c && !"!\x22$\x60\\".toList.contains c
  if s.contains '\x27' && s.all simple then "\x22" ++ text ++ "\x22"
  else
    let escaping := s.contains '\x27' && (s.getLast?).any (!isPrinted ·)
    String.ofList ('\x27' :: quotedRest escaping s)

def ifNeeded (text : String) : String :=
  let s := text.toList
  if s = [] || text = "\x7b" || text = "\x7d" || isUnsafe true (s.headD ' ') ||
      s.any (isUnsafe false) then always text
  else text

/-- A name in quotes if need be; a colon is such a need, as one follows the name. -/
def named (text : String) : String :=
  if text.contains ':' then always text else ifNeeded text

end Cutover.Shell.Quoted
