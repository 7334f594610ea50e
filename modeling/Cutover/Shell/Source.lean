import Cutover.Shell.Script

/-!
# The text that a script is read from

What is left of the text, the number of the line, and the texts inside the script that serve
commands as input. Such a text stands on the lines after the one that asks for it.
-/
namespace Cutover.Shell

/-- What is wrong with a script, and where. -/
structure Fault where
  line : Nat
  message : String

/-- What a redirection asks for before its target is read. -/
inductive Change where
  | file (opening : Opening)
  | copy
  | document (unindented : Bool)

/-- What a script is made of, as its reader sees it. -/
inductive Token where
  | word (w : Word)
  | keyword (s : String)
  | operator (s : String)
  | redirect (stream : Nat) (change : Change)
  | newline
  | finish

/-- A text in the script that has been asked for and not been read yet. -/
structure Awaited where
  number : Nat
  ending : List Char
  plain : Bool
  unindented : Bool

/-- An alias that has been replaced by its text. -/
structure Replacement where
  name : String
  after : Nat
  /-- Whether its text ends with a blank, so that the word after it may be an alias too. -/
  isSpaced : Bool

/-- A script that is being read. -/
structure Source where
  rest : List Char
  line : Nat := 1
  back : Option Token := none
  awaited : List Awaited := []
  documents : Array Word := #[]
  /-- The text in the script that is being read, which may end at the start of each line. -/
  document : Option Awaited := none
  afterDocument : Option (List Char) := none
  aliases : List (String × String) := []
  replaced : List Replacement := []

abbrev Reading (α : Type) := StateT Source (Except Fault) α

namespace Reading

def fault {α : Type} (message : String) : Reading α := do
  throw ⟨(← get).line, message⟩

def dropJoins : List Char → Nat → List Char × Nat
  | '\\' :: '\n' :: s, line => dropJoins s (line + 1)
  | s, line => (s, line)

def dropNameJoins : List Char → Nat → List Char × Nat
  | '\\' :: '\n' :: s, line => dropNameJoins s (line + 1)
  | c :: s, line =>
    if isNameRest c || "@*#?-$!:%+=".toList.contains c then
      let (s, line) := dropNameJoins s line
      (c :: s, line)
    else (c :: s, line)
  | [], line => ([], line)

def next? : Reading (Option Char) := do
  let s ← get
  let (rest, line) := dropJoins s.rest s.line
  set { s with rest, line }
  return rest.head?

def advance : Reading Unit := modify fun s =>
  match s.rest with
  | [] => s
  | c :: rest => { s with rest, line := if c = '\n' then s.line + 1 else s.line }

def accept (c : Char) : Reading Bool := do
  if (← next?) = some c then
    advance
    return true
  return false

def joinName : Reading Unit := modify fun s =>
  let (rest, line) := dropNameJoins s.rest s.line
  { s with rest, line }

def takeWhile (p : Char → Bool) : Reading (List Char) := do
  let s ← get
  set { s with rest := s.rest.dropWhile p }
  return s.rest.takeWhile p

def skipBlanks : Nat → Reading Unit
  | 0 => return
  | n + 1 => do
    match ← next? with
    | some c =>
      if isBlank c then
        advance
        skipBlanks n
      else if c = '#' then
        let _ ← takeWhile (· ≠ '\n')
    | none => return

def pushBack (t : Token) : Reading Unit := modify fun s => { s with back := some t }

def takeQuotation : Reading (List Char) := do
  let s ← get
  let text := s.rest.takeWhile (· ≠ '\x27')
  match s.rest.dropWhile (· ≠ '\x27') with
  | [] => throw ⟨s.line + text.count '\n', "Unterminated quoted string"⟩
  | _ :: rest =>
    set { s with rest, line := s.line + text.count '\n' }
    return text

def takeBackquoted (quoted : Bool) : Nat → List Char → Reading (List Char)
  | 0, _ => fault "EOF in backquote substitution"
  | n + 1, acc => do
    match ← next? with
    | none => fault "EOF in backquote substitution"
    | some '\x60' =>
      advance
      return acc.reverse
    | some '\\' =>
      advance
      match (← get).rest with
      | [] => takeBackquoted quoted n ('\\' :: acc)
      | c :: _ =>
        advance
        let alone := c == '\\' || c == '\x60' || c == '$' || (quoted && c == '\x22')
        takeBackquoted quoted n (if alone then c :: acc else c :: '\\' :: acc)
    | some c =>
      advance
      takeBackquoted quoted n (c :: acc)

/-- Takes a word as it stands, its quotes aside, and tells whether it had any. -/
def takeEnding : Nat → Option Char → Bool → List Char → Reading (List Char × Bool)
  | 0, _, quoted, acc => return (acc.reverse, quoted)
  | n + 1, inside, quoted, acc => do
    let c ← if inside = some '\x27' then (·.rest.head?) <$> get else next?
    match c, inside with
    | none, none => return (acc.reverse, quoted)
    | none, some _ => fault "Unterminated quoted string"
    | some c, some q =>
      advance
      if c = q then takeEnding n none true acc else takeEnding n inside quoted (c :: acc)
    | some c, none =>
      if c = '\x22' || c = '\x27' then
        advance
        takeEnding n (some c) true acc
      else if c = '\\' then
        advance
        match (← get).rest with
        | [] => return (('\\' :: acc).reverse, true)
        | d :: _ =>
          advance
          takeEnding n none true (d :: acc)
      else if isBlank c || "\n;&|<>()".toList.contains c then return (acc.reverse, quoted)
      else
        advance
        takeEnding n none quoted (c :: acc)

/-- What stands at the start of a line of a text in the script: where it begins like the ending,
but goes on with a byte that is no character by itself, that byte is lost. -/
def lineStart (ending rest : List Char) : List Char :=
  let alike := ((ending.zip rest).takeWhile fun e => e.1 = e.2).length
  match rest.drop alike with
  | c :: others => if alike ≠ 0 && 128 ≤ c.toNat then rest.take alike ++ others else rest
  | [] => rest

def linesBefore (a : Awaited) : Nat → List Char → List Char × Nat × List Char
  | 0, s => ([], 0, s)
  | n + 1, s =>
    let s := lineStart a.ending (if a.unindented then s.dropWhile (· == '\t') else s)
    let line := s.takeWhile (· ≠ '\n')
    let after := s.drop line.length
    let others := s.drop a.ending.length
    if a.ending.isPrefixOf s && (others = [] || others.head? = some '\n') then
      ([], 1, others.drop 1)
    else
      match after with
      | [] => (line, 0, [])
      | _ :: after =>
        let (text, lines, rest) := linesBefore a n after
        (line ++ '\n' :: text, lines + 1, rest)

/-- Starts a line of a text in the script: the text ends if the line is its ending. Whether it is
comes after lines have been joined, and after the tabs that do not count. -/
def startLine : Reading Unit := modify fun s =>
  match s.document with
  | none => s
  | some a =>
    let (rest, line) := dropJoins s.rest s.line
    let rest := lineStart a.ending
      (if a.unindented then rest.dropWhile (· == '\t') else rest)
    let after := rest.drop a.ending.length
    if a.ending.isPrefixOf rest && (after = [] || after.head? = some '\n') then
      { s with rest := [], afterDocument := some (after.drop 1), line := line + 1 }
    else { s with rest, line }

end Reading

end Cutover.Shell
