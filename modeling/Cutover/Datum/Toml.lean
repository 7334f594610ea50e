import Cutover.Datum.TomlScalar
import Cutover.Datum.TomlTable

/-!
# Reading TOML

A document is read line by line. A header changes the table that the following keys belong to.
-/
namespace Cutover.Toml

def isKeyChar (c : Char) : Bool := c.isAlphanum || c == '_' || c == '-'

def readKeyPart : List Char → Option (String × List Char)
  | '"' :: s => (readBasic (s.length + 1) s).map fun (cs, r) => (String.ofList cs, r)
  | '\'' :: s => (readLiteral s).map fun (cs, r) => (String.ofList cs, r)
  | s =>
    if s.head?.any isKeyChar then
      some (String.ofList (s.takeWhile isKeyChar), s.dropWhile isKeyChar)
    else none

/-- Reads a key of one or more parts with dots between them; spaces may stand around each. -/
def readKey : Nat → List Char → Option (List String × List Char)
  | 0, _ => none
  | fuel + 1, s => do
    let (part, r) ← readKeyPart (skipGap s)
    match skipGap r with
    | '.' :: r => (readKey fuel r).map fun (parts, r) => (part :: parts, r)
    | r => some ([part], r)

/-- How many parts a key has at most, and how many brackets and braces may be open at once. -/
def deepest : Nat := 79

def readPath (s : List Char) : Option (List String × List Char) := do
  let (path, r) ← readKey (s.length + 1) s
  if deepest < path.length then none else some (path, r)

/-- Skips spaces, comments and line ends between the items of a list. -/
def skipFiller : Nat → List Char → List Char
  | 0, s => s
  | fuel + 1, s =>
    let s := skipComment (skipGap s)
    match readNewline s with
    | some r => skipFiller fuel r
    | none => s

mutual

/-- Reads a value inside of which `room` brackets may still be opened. -/
def readValue : Nat → Nat → List Char → Option (Datum × List Char)
  | 0, _, _ => none
  | fuel + 1, room, s =>
    match s with
    | '[' :: r =>
      if room = 0 then none
      else (readItems fuel (room - 1) r).map fun (items, r) => (.list items, r)
    | '\x7b' :: r =>
      if room = 0 then none
      else
        match skipGap r with
        | '\x7d' :: r => some (.record [], r)
        | r =>
          (readInline fuel (room - 1) .header [] r).map fun (items, r) =>
            (.record (datumOfItems items), r)
    | '"' :: _ => (readText s).map fun (cs, r) => (.str (String.ofList cs), r)
    | '\'' :: _ => (readText s).map fun (cs, r) => (.str (String.ofList cs), r)
    | _ => readBare s

/-- Reads the items of a list up to and over the closing bracket; a comma may follow the last. -/
def readItems : Nat → Nat → List Char → Option (List Datum × List Char)
  | 0, _, _ => none
  | fuel + 1, room, s =>
    match skipFiller (s.length + 1) s with
    | ']' :: r => some ([], r)
    | s =>
      match readValue fuel room s with
      | none => none
      | some (d, r) =>
        match skipFiller (r.length + 1) r with
        | ']' :: r => some ([d], r)
        | ',' :: r => (readItems fuel room r).map fun (ds, r) => (d :: ds, r)
        | _ => none

/-- Reads the fields of a table in braces up to and over the closing one. -/
def readInline : Nat → Nat → Origin → Items → List Char → Option (Items × List Char)
  | 0, _, _, _, _ => none
  | fuel + 1, room, origin, items, s =>
    match readPath s with
    | some (path, '=' :: r) =>
      match readValue fuel room (skipGap r), path.getLast? with
      | some (d, r), some key =>
        match addDotted path.dropLast key d origin items with
        | some (origin, items) =>
          match skipGap r with
          | '\x7d' :: r => some (items, r)
          | ',' :: r => readInline fuel room origin items r
          | _ => none
        | none => none
      | _, _ => none
    | _ => none

end

/-- A document while it is read: the root table, and the table that keys belong to. -/
structure Document where
  items : Items
  here : List String

namespace Document

def empty : Document := ⟨[], []⟩

def change (here : List String) : Option (Origin × Items) → Option Document
  | some (_, items) => some ⟨items, here⟩
  | none => none

def addKey (doc : Document) (path : List String) (d : Datum) : Option Document :=
  match path.getLast? with
  | some key =>
    change doc.here (within .implied (addDotted path.dropLast key d) doc.here .header doc.items)
  | none => none

def enter (doc : Document) (start : String → Origin → Items → Option (Origin × Items))
    (path : List String) : Option Document :=
  match path.getLast? with
  | some key => change path (within .implied (start key) path.dropLast .header doc.items)
  | none => none

end Document

def readLineEnd (s : List Char) : Option (List Char) :=
  match skipComment (skipGap s) with
  | [] => some []
  | s => readNewline s

def readLine (doc : Document) (s : List Char) : Option (Document × List Char) :=
  match s with
  | '[' :: '[' :: r => do
    let (path, r) ← readPath r
    match r with
    | ']' :: ']' :: r => (doc.enter startSeries path).map fun doc => (doc, r)
    | _ => none
  | '[' :: r => do
    let (path, r) ← readPath r
    match r with
    | ']' :: r => (doc.enter startTable path).map fun doc => (doc, r)
    | _ => none
  | s => do
    let (path, r) ← readPath s
    match r with
    | '=' :: r =>
      let r := skipGap r
      let (d, r) ← readValue (2 * r.length + 2) deepest r
      (doc.addKey path d).map fun doc => (doc, r)
    | _ => none

/-- Reads lines to the end of the text; each takes at least one character. -/
def readLines : Nat → Document → List Char → Option Document
  | 0, doc, s => if s = [] then some doc else none
  | fuel + 1, doc, s =>
    match skipGap s with
    | [] => some doc
    | c :: r =>
      match (if c = '#' then some (doc, c :: r) else
        match readNewline (c :: r) with
        | some _ => some (doc, c :: r)
        | none => readLine doc (c :: r)) with
      | none => none
      | some (doc, r) =>
        match readLineEnd r with
        | some r => readLines fuel doc r
        | none => none

/-- Reads a document; a byte order mark may stand before it. -/
def read? (text : String) : Option Datum :=
  let s := match text.toList with
    | '\ufeff' :: s => s
    | s => s
  (readLines (s.length + 1) .empty s).map fun doc => .record (datumOfItems doc.items)

end Cutover.Toml
