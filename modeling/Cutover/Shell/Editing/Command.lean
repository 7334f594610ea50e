import Cutover.Shell.Regular.Basic

/-!
# Commands of an editor of streams

A script is a list of commands, each with the lines that it is for. The lines of the inputs are
taken one after the other into a space, on which all commands work that are for the line.
-/
namespace Cutover.Shell.Editing

/-- An expression that is looked for in the space; if none is given it is the one used last. -/
structure Finder where
  expression : Option Regular
  fold : Bool := false
  byLine : Bool := false

/-- What tells whether a line is meant. -/
inductive Address where
  | line (number : Nat)
  | last
  | every (first step : Nat)
  | finding (f : Finder)

/-- Where a range of lines ends. -/
inductive Bound where
  | at (a : Address)
  | more (lines : Nat)
  | multiple (of : Nat)

/-- The lines that a command is for. -/
structure Selection where
  first : Option Address := none
  bound : Option Bound := none
  inverted : Bool := false

def Selection.startsAtZero (s : Selection) : Bool :=
  match s.first, s.bound with
  | some (.line 0), some _ => true
  | _, _ => false

/-- A part of what something is replaced by. -/
inductive Part where
  | text (s : List Char)
  | group (number : Nat)
  | letters (change : Char)

structure Substitution where
  finder : Finder
  parts : List Part
  every : Bool := false
  number : Option Nat := none
  shown : Bool := false
  file : Option String := none

inductive Command where
  | block (stop : Nat)
  | blockEnd
  | label (name : String)
  | branch (replaced : Option Bool) (label : String)
  | append (text : List Char)
  | insert (text : List Char)
  | change (text : List Char)
  | showNumber
  | showName
  | delete
  | deleteLine
  | take
  | takeMore
  | keep
  | keepMore
  | exchange
  | showPlainly (width : Option Nat)
  | next
  | nextMore
  | show
  | showLine
  | quit (shows : Bool) (status : Nat)
  | readFile (path : String)
  | readLine (path : String)
  | writeFile (path : String)
  | writeLine (path : String)
  | substitute (s : Substitution)
  | translate (table : List (Char × Char))
  | empty

structure Entry where
  selection : Selection
  command : Command

end Cutover.Shell.Editing
