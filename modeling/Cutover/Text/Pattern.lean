import Cutover.Text.Blank
import Cutover.Text.Word
import Cutover.Text.Folding

/-!
# Phrases in script text

A phrase is a list of pieces: fixed letters, white space, a name. Letters are compared up to
case. No piece has two ways to read a text, so reading a phrase never has to go back. A pattern
is a choice of phrases, the first that can be read counting, and is looked for from left to
right without overlap.
-/
namespace Cutover.Text

/-- One piece of a phrase. -/
inductive Piece where
  /-- These letters, up to case. -/
  | letters (word : String)
  /-- One of these words, the first that stands there. -/
  | anyOf (words : List String)
  /-- White space, as much as stands there, and some. -/
  | gap
  /-- White space, as much as stands there, or none. -/
  | loose
  /-- The longest run of name characters, not empty; reported only if `kept`. -/
  | name (kept : Bool)
  /-- The place where a word ends: nothing is read. -/
  | wordEnd
  /-- All up to the first place on the same line where these letters stand, and the letters. -/
  | later (word : String)
  deriving Repr

abbrev Phrase := List Piece

/-- Reads on up to and over the first place on this line where `word` stands. -/
def readLater (word : List Char) : List Char → Option (List Char)
  | [] => readFolded word []
  | c :: s =>
    match readFolded word (c :: s) with
    | some rest => some rest
    | none => if c = '\n' then none else readLater word s

/-- Reads one piece; gives the name found, if any, and the rest of the text. -/
def Piece.read : Piece → List Char → Option (List Char × List Char)
  | .letters w, s => (readFolded w.toList s).map ([], ·)
  | .anyOf ws, s => (ws.findSome? fun w => readFolded w.toList s).map ([], ·)
  | .gap, s => if s.head?.any isBlank then some ([], s.dropWhile isBlank) else none
  | .loose, s => some ([], s.dropWhile isBlank)
  | .name kept, s =>
    if s.head?.any isNameChar then
      some (if kept then s.takeWhile isNameChar else [], s.dropWhile isNameChar)
    else none
  | .wordEnd, s => if s.head?.any isWord then none else some ([], s)
  | .later w, s => (readLater w.toList s).map ([], ·)

def readPhrase : Phrase → List Char → Option (List Char × List Char)
  | [], s => some ([], s)
  | p :: ps, s =>
    match p.read s with
    | none => none
    | some (n, r) =>
      match readPhrase ps r with
      | none => none
      | some (m, t) => some (n ++ m, t)

/-- A choice of phrases. -/
structure Pattern where
  /-- Whether a match must begin where no word character comes before. -/
  atWord : Bool
  phrases : List Phrase

/-- Reads the pattern at the front of `s`, where `before` is the character before it. -/
def Pattern.readAt (p : Pattern) (before : Option Char) (s : List Char) :
    Option (List Char × List Char) :=
  if p.atWord && before.any isWord then none else p.phrases.findSome? (readPhrase · s)

/-- The names found from left to right. A match is passed over as a whole: `skip` characters
of the last one are still ahead. -/
def Pattern.scan (p : Pattern) : Nat → Option Char → List Char → List (List Char)
  | _, _, [] => []
  | skip + 1, _, c :: s => p.scan skip (some c) s
  | 0, before, c :: s =>
    match p.readAt before (c :: s) with
    | none => p.scan 0 (some c) s
    | some (name, rest) => name :: p.scan (s.length - rest.length) (some c) s

/-- The name of each match, empty where the match reports none. -/
def Pattern.matches (p : Pattern) (text : String) : List (List Char) :=
  p.scan 0 none text.toList

def Pattern.count (p : Pattern) (text : String) : Nat := (p.matches text).length

/-- Whether the pattern can be read somewhere in the text. -/
def Pattern.foundFrom (p : Pattern) : Option Char → List Char → Bool
  | _, [] => false
  | before, c :: s => (p.readAt before (c :: s)).isSome || p.foundFrom (some c) s

def Pattern.found (p : Pattern) (text : String) : Bool := p.foundFrom none text.toList

end Cutover.Text
