import Cutover.Files.Accounts
import Cutover.Shell.Field
import Cutover.Shell.Options

/-!
# Parameters

What parameters stand for in a word, and the folders that a tilde stands for.
-/
namespace Cutover.Shell

/-- How a word is expanded. -/
structure Manner where
  quoted : Bool := false
  full : Bool := false
  /-- Whether the word stands in a parameter, so that its own text may be split as well. -/
  inner : Bool := false

def Manner.splitting (m : Manner) : Splitting := if m.quoted then .whole else .separators

def Manner.span (m : Manner) (text : List Char) : Span :=
  ⟨m.splitting, cellsOfText m.quoted text⟩

/-- What stands between arguments where they are put into one text. -/
def State.joint (s : State) : List Char :=
  match s.value? "IFS" with
  | some text => text.toList.take 1
  | none => [' ']

def State.argumentSpan (s : State) (m : Manner) (apart : Bool) : Span :=
  let args := s.process.args.map fun a => cellsOfText m.quoted a.toList
  let joined (joint : List Char) := (cellsOfText m.quoted joint).intercalate args
  if m.full && m.quoted && apart then
    if args.isEmpty then ⟨.whole, []⟩
    else ⟨.arguments, [Cell.char partition false].intercalate args⟩
  else if m.full && !m.quoted then
    let joint := if (s.value? "IFS").isSome then [partition] else [' ']
    ⟨.separators, joint.map (Cell.char · false) |>.intercalate args⟩
  else ⟨m.splitting, joined s.joint⟩

def State.parameter? (s : State) (m : Manner) (name : String) : Option Span :=
  let text (t : String) : Span := m.span t.toList
  match name with
  | "@" => some (s.argumentSpan m true)
  | "*" => some (s.argumentSpan m false)
  | "#" => some (text (toString s.process.args.length))
  | "?" => some (text (toString s.status))
  | "$" => some (text (toString s.process.shell))
  | "!" => s.process.latestJob.map fun n => text (toString n)
  | "-" => some (text s.optionLetters)
  | "0" => some (text s.process.name)
  | _ =>
    match name.toNat? with
    | some n => if n = 0 then some (text s.process.name) else s.process.args[n - 1]?.map text
    | none => (s.value? name).map text

def State.home? (s : State) (user : String) : Option String :=
  if user = "" then s.value? "HOME" else (Account.all.find? (·.name = user)).map (·.home)

/-- Replaces a tilde in front of a text by a home. The name of the user goes up to a slash, or
to one of the other characters that end it, or to the end if the word ends there. -/
def State.tilde (s : State) (ends : List Char) (final : Bool) (text : List Char) : List Piece :=
  match text with
  | '~' :: rest =>
    let user := rest.takeWhile fun c => c ≠ '/' && !ends.contains c
    let after := rest.drop user.length
    match s.home? (String.ofList user) with
    | some home =>
      if after = [] && !final then [.text text false]
      else [.text home.toList true, .text after false]
    | none => [.text text false]
  | _ => [.text text false]

def State.tildes (s : State) (w : Word) : Word :=
  match w with
  | .text text false :: rest => s.tilde [] rest.isEmpty text ++ rest
  | w => w

def divideAfter (ends : List Char) : List Char → List (List Char)
  | [] => [[]]
  | c :: s =>
    if ends.contains c then [c] :: divideAfter ends s
    else
      match divideAfter ends s with
      | part :: parts => (c :: part) :: parts
      | [] => [[c]]

/-- Replaces the tildes in front of a value and after each colon in it. With `named` the value
comes after a name and an equals sign. -/
def State.valueTildes (s : State) (named : Bool) (w : Word) : Word :=
  let rec go (first named : Bool) : Word → Word
    | [] => []
    | .text text false :: rest =>
      let ends := if named then ['=', ':'] else [':']
      let named := named && !text.contains '='
      let parts := divideAfter ends text
      let last := parts.length - 1
      let pieces := parts.zipIdx.flatMap fun (part, i) =>
        if (first || i ≠ 0) then s.tilde [':'] (rest.isEmpty || i ≠ last) part
        else [.text part false]
      let next := text.getLast?.any ends.contains
      pieces ++ go next named rest
    | p :: rest => p :: go false named rest
  go (!named) named w

end Cutover.Shell
