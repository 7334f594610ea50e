/-!
# Shell scripts

The commands of a script and how they are put together. A word is kept as its pieces, because
quotes decide later what is split into fields and what is a pattern.
-/
namespace Cutover.Shell

/-- How a parameter stands in a word. With `orEmpty` an empty value counts as none. -/
inductive Use where
  | plain
  | size
  | otherwise (orEmpty : Bool)
  | instead (orEmpty : Bool)
  | settled (orEmpty : Bool)
  | demanded (orEmpty : Bool)
  /-- The value less what a pattern takes off one of its ends. -/
  | trimmed (atEnd longest : Bool)
  | faulty
  deriving DecidableEq, Repr

/-- How a file is opened. -/
inductive Opening where
  | input
  | inputOutput
  | output
  | forced
  | appending
  deriving DecidableEq, Repr

mutual

/-- A piece of a word. -/
inductive Piece where
  | text (s : List Char) (quoted : Bool)
  | quotation (pieces : List Piece)
  | parameter (name : String) (use : Use) (word : List Piece)
  | output (script : Script)
  | sum (expression : List Piece)

/-- A change of one stream. -/
inductive Redirect where
  | file (stream : Nat) (opening : Opening) (path : List Piece)
  | copy (stream : Nat) (source : List Piece)
  | document (stream : Nat) (number : Nat)

/-- A script, or a part of one. -/
inductive Script where
  | skip
  | simple (line : Nat) (settings : List (String × List Piece)) (words : List (List Piece))
      (redirects : List Redirect)
  | seq (a b : Script)
  | both (a b : Script)
  | either (a b : Script)
  | inverse (a : Script)
  | pipe (parts : List Script)
  | choice (test yes no : Script)
  | loop (goal : Bool) (test body : Script)
  | each (line : Nat) (name : String) (words : List (List Piece)) (body : Script)
  | arms (line : Nat) (subject : List Piece) (cases : List (List (List Piece) × Script))
  | apart (line : Nat) (a : Script) (redirects : List Redirect)
  | background (a : Script)
  | redirected (line : Nat) (a : Script) (redirects : List Redirect)
  | define (name : String) (body : Script)

end

/-- Whether a script is one command whose failure may end the whole, not one made of others. -/
def Script.isOneCommand : Script → Bool
  | .simple .. | .pipe _ | .apart .. => true
  | _ => false

abbrev Word := List Piece

instance : Inhabited Script := ⟨.skip⟩

/-- The text of a word in which nothing is quoted or stands for something else. -/
def literal? : Word → Option String
  | [.text s false] => some (String.ofList s)
  | _ => none

def isBlank (c : Char) : Bool := c == ' ' || c == '\t'

def isNameStart (c : Char) : Bool := c.isAlpha || c == '_'

def isNameRest (c : Char) : Bool := c.isAlphanum || c == '_'

def isName (s : String) : Bool := s.toList.head?.any isNameStart && s.toList.all isNameRest

/-- The name that an unquoted text in front of an equals sign sets, and what follows. -/
def settingOf (s : List Char) : Option (String × List Char) :=
  let name := s.takeWhile isNameRest
  match s.dropWhile isNameRest with
  | '=' :: value => if name.head?.any isNameStart then some (String.ofList name, value) else none
  | _ => none

def setting? : Word → Option (String × Word)
  | .text s false :: w =>
    (settingOf s).map fun (name, value) =>
      (name, if value = [] then w else .text value false :: w)
  | _ => none

end Cutover.Shell
