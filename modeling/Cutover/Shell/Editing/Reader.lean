import Cutover.Shell.Editing.Command
import Cutover.Shell.Regular.Reader

/-!
# Reading scripts of an editor

A script is read character by character; a fault is told with the number of characters that have
been read.
-/
namespace Cutover.Shell.Editing

/-- What is wrong with a script, and how many characters had been read. -/
structure Fault where
  place : Option Nat
  message : String

/-- A script of which so many characters have been read. -/
structure Source where
  rest : List Char
  taken : Nat := 0
  dialect : Regular.Dialect

namespace Source

def fault {α : Type} (s : Source) (message : String) : Except Fault α :=
  .error ⟨some s.taken, message⟩

def next (s : Source) : Option Char × Source :=
  match s.rest with
  | [] => (none, s)
  | c :: rest => (some c, { s with rest, taken := s.taken + 1 })

/-- Drops characters as long as they are of a kind. -/
def dropWhile (s : Source) (p : Char → Bool) : Source :=
  let n := (s.rest.takeWhile p).length
  { s with rest := s.rest.drop n, taken := s.taken + n }

/-- Takes characters as long as they are of a kind. -/
def takeWhile (s : Source) (p : Char → Bool) : List Char × Source :=
  (s.rest.takeWhile p, s.dropWhile p)

def skipBlanks (s : Source) : Source := s.dropWhile fun c => isSpace c && c ≠ '\n'

def number (s : Source) : Option Nat × Source :=
  let (digits, after) := s.takeWhile Char.isDigit
  (if digits = [] then none else some (digitsValue 10 digits), after)

/-- Takes brackets and what is in them, so that no sign in them ends an expression. -/
def brackets : Nat → Source → List Char → Option (List Char × Source)
  | 0, _, _ => none
  | n + 1, s, sofar =>
    match s.rest with
    | [] => none
    | '\n' :: _ => none
    | ']' :: rest => some (sofar ++ [']'], { s with rest, taken := s.taken + 1 })
    | '[' :: mark :: rest =>
      if [':', '.', '='].contains mark then
        let name := rest.takeWhile (· ≠ mark)
        match rest.drop name.length with
        | _ :: ']' :: rest =>
          let part := '[' :: mark :: name ++ [mark, ']']
          brackets n { s with rest, taken := s.taken + part.length } (sofar ++ part)
        | _ => none
      else brackets n { s with rest := mark :: rest, taken := s.taken + 1 } (sofar ++ ['['])
    | c :: rest => brackets n { s with rest, taken := s.taken + 1 } (sofar ++ [c])

/-- Takes what stands before a sign. Where an expression is read, a newline may be written with
a letter, and brackets are taken as a whole. -/
def upTo (mark : Char) (isExpression usesBrackets : Bool) :
    Nat → Source → List Char → Except Source (List Char × Source)
  | 0, s, _ => .error s
  | n + 1, s, sofar =>
    match s.next with
    | (none, s) => .error s
    | (some c, after) =>
      if c = '\n' && isExpression then .error s
      else if c = mark then .ok (sofar, after)
      else if c = '\n' then .error s
      else if c = '\\' then
        match after.next with
        | (none, after) => .error after
        | (some d, after) =>
          let part := if d = mark && !(!isExpression && d = '&') then [d]
            else if d = 'n' && isExpression then ['\n']
            else if d = '\n' then if isExpression then ['\n'] else ['\\', '\n']
            else ['\\', d]
          upTo mark isExpression usesBrackets n after (sofar ++ part)
      else if c = '[' && usesBrackets then
        let (front, inner) := match after.rest with
          | '^' :: ']' :: rest => (['[', '^', ']'], { after with rest, taken := after.taken + 2 })
          | '^' :: rest => (['[', '^'], { after with rest, taken := after.taken + 1 })
          | ']' :: rest => (['[', ']'], { after with rest, taken := after.taken + 1 })
          | _ => (['['], after)
        match brackets (inner.rest.length + 1) inner front with
        | some (part, after) => upTo mark isExpression usesBrackets n after (sofar ++ part)
        | none => .error (after.dropWhile (· ≠ '\n'))
      else upTo mark isExpression usesBrackets n after (sofar ++ [c])

/-- The character that a number after a backslash stands for, in one of three bases. -/
def numbered? (kind : Char) (s : List Char) : Option (Char × List Char) :=
  let read (base most : Nat) : Option (Char × List Char) :=
    match (s.take most).takeWhile (isDigitIn base) with
    | [] => none
    | ds => some (Char.ofNat (digitsValue base ds % 256), s.drop ds.length)
  match kind with
  | 'x' => read 16 2
  | 'o' => read 8 3
  | 'd' => read 10 3
  | _ => none

/-- An expression with the characters in it that are written as numbers. One that is a sign has a
backslash in front of it. -/
def withNumbered : Nat → List Char → List Char
  | 0, s => s
  | _ + 1, [] => []
  | n + 1, '\\' :: c :: s =>
    match numbered? c s with
    | some (d, s) =>
      if ".*[]^$\\/+?()\x7b\x7d|".toList.contains d then '\\' :: d :: withNumbered n s
      else d :: withNumbered n s
    | none => '\\' :: c :: withNumbered n s
  | n + 1, c :: s => c :: withNumbered n s

/-- Whether an expression is the name of a class of characters without brackets around it. -/
def isBareClass (text : List Char) : Bool :=
  match text with
  | '[' :: ':' :: rest =>
    match rest.reverse with
    | ']' :: ':' :: name => name ≠ [] && name.all Char.isLower
    | _ => false
  | _ => false

def finder (s : Source) (text : List Char) (fold byLine : Bool) : Except Fault Finder :=
  if text = [] then .ok { expression := none, fold, byLine }
  else if isBareClass text then
    .error ⟨none, "character class syntax is [[:space:]], not [:space:]"⟩
  else
    match s.dialect.read (withNumbered text.length text) with
    | .ok r => .ok { expression := some r, fold, byLine }
    | .error e => s.fault e

/-- Takes the letters behind an expression in an address. -/
def addressFlags : Nat → Source → Bool → Bool → Bool × Bool × Source
  | 0, s, fold, byLine => (fold, byLine, s)
  | n + 1, s, fold, byLine =>
    match s.skipBlanks.rest with
    | 'I' :: rest =>
      addressFlags n { s.skipBlanks with rest, taken := s.skipBlanks.taken + 1 } true byLine
    | 'M' :: rest =>
      addressFlags n { s.skipBlanks with rest, taken := s.skipBlanks.taken + 1 } fold true
    | _ => (fold, byLine, s)

/-- Takes an address, if one comes next. -/
def bound? (s : Source) : Except Fault (Option (Bound × Source)) := do
  match s.rest with
  | c :: rest =>
    let after : Source := { s with rest, taken := s.taken + 1 }
    let finding (mark : Char) (after : Source) : Except Fault (Option (Bound × Source)) := do
      match after.upTo mark true true (after.rest.length + 1) [] with
      | .error s => s.fault "unterminated address regex"
      | .ok (text, after) =>
        let (fold, byLine, after) := addressFlags (after.rest.length + 1) after false false
        return some (.at (.finding (← after.finder text fold byLine)), after)
    if c = '/' then finding '/' after
    else if c = '\\' then
      match after.next with
      | (some mark, after) => finding mark after
      | (none, after) => after.fault "unexpected `,'"
    else if c.isDigit then
      let (first, after) := s.number
      let first := first.getD 0
      match after.skipBlanks.rest with
      | '~' :: rest =>
        let behind : Source := { after.skipBlanks with rest, taken := after.skipBlanks.taken + 1 }
        let (step, behind) := behind.skipBlanks.number
        return some (.at (if step.getD 0 = 0 then .line first else .every first (step.getD 0)),
          behind)
      | _ => return some (.at (.line first), after)
    else if c = '+' || c = '~' then
      match after.skipBlanks.number with
      | (some n, after) => return some (if c = '+' then .more n else .multiple n, after)
      | (none, after) => after.fault "expected number"
    else if c = '$' then return some (.at .last, after)
    else return none
  | [] => return none

/-- Takes the lines that a command is for. -/
def selection (s : Source) : Except Fault (Selection × Source) := do
  match ← s.bound? with
  | none => return ({}, s)
  | some (.at first, s) =>
    let s := s.skipBlanks
    let isZero := match first with
      | .line 0 => true
      | _ => false
    match s.rest with
    | ',' :: rest =>
      let s := { s with rest, taken := s.taken + 1 }.skipBlanks
      match ← s.bound? with
      | none => (s.next).2.fault "unexpected `,'"
      | some (bound, s) =>
        match isZero, bound with
        | false, _ | true, .at (.finding _) =>
          return ({ first := some first, bound := some bound }, s.skipBlanks)
        | _, _ => (s.next).2.fault "invalid usage of line address 0"
    | _ =>
      if isZero then (s.next).2.fault "invalid usage of line address 0"
      else return ({ first := some first }, s)
  | some (_, s) => s.fault "invalid usage of +N or ~N as first address"

def ended (s : Source) : Except Fault Source :=
  let s := s.skipBlanks
  match s.next with
  | (none, s) => .ok s
  | (some c, after) =>
    if c = '\x7d' || c = '#' then .ok s
    else if c = '\n' || c = ';' then .ok after
    else after.fault "extra characters after command"

def fileName (s : Source) : Except Fault (String × Source) :=
  let (name, after) := s.skipBlanks.takeWhile (· ≠ '\n')
  if name = [] then after.fault "missing filename in r/R/w/W commands"
  else .ok (String.ofList name, (after.next).2)

def label (s : Source) : String × Source :=
  let (name, after) := s.skipBlanks.takeWhile fun c => !isSpace c && c ≠ ';'
  (String.ofList name, after)

/-- Takes lines of text; a newline after a backslash goes on. -/
def textLines : Nat → Source → List Char → List Char × Source
  | 0, s, text => (text, s)
  | n + 1, s, text =>
    match s.next with
    | (none, s) => (if text = [] then [] else text ++ ['\n'], s)
    | (some '\n', s) => (text ++ ['\n'], s)
    | (some '\\', s) =>
      match s.next with
      | (none, s) => (text ++ ['\n'], s)
      | (some c, s) => textLines n s (text ++ [c])
    | (some c, s) => textLines n s (text ++ [c])

/-- Takes the text that a command puts out. -/
def text (s : Source) : Except Fault (List Char × Source) :=
  let s := s.skipBlanks
  let lines (s : Source) : List Char × Source := textLines (s.rest.length + 1) s []
  match s.next with
  | (none, s) => s.fault "expected \\ after `a', `c' or `i'"
  | (some '\\', after) =>
    let blank := after.skipBlanks
    match blank.rest with
    | '\n' :: rest => .ok (lines { blank with rest, taken := blank.taken + 1 })
    | _ => .ok (lines after)
  | (some _, _) => .ok (lines s)

def parts : Nat → List Char → List Char → List Part
  | 0, text, _ => [.text text]
  | _ + 1, text, [] => if text = [] then [] else [.text text]
  | n + 1, text, c :: s =>
    let then_ (p : Part) (s : List Char) : List Part :=
      if text = [] then p :: parts n [] s else .text text :: p :: parts n [] s
    if c = '&' then then_ (.group 0) s
    else if c = '\\' then
      match s with
      | [] => parts n (text ++ ['\\']) []
      | d :: s =>
        if d.isDigit then then_ (.group (d.toNat - '0'.toNat)) s
        else if "ULEul".toList.contains d then then_ (.letters d) s
        else
          match numbered? d s, d, s with
          | some (c, s), _, _ => parts n (text ++ [c]) s
          | none, 'c', k :: s =>
            parts n (text ++ [Char.ofNat (k.toUpper.toNat ^^^ 64)]) s
          | none, _, s => parts n (text ++ [(Regular.letterChar? d).getD d]) s
    else parts n (text ++ [c]) s

def groupsOf : Regular → Nat
  | .follow a b | .either a b => groupsOf a + groupsOf b
  | .repeated a _ _ => groupsOf a
  | .group _ a => groupsOf a + 1
  | _ => 0

def flags : Nat → Source → Substitution → Bool → Bool →
    Except Fault (Substitution × Bool × Bool × Source)
  | 0, s, sub, fold, byLine => .ok (sub, fold, byLine, s)
  | n + 1, s, sub, fold, byLine =>
    match s.next with
    | (none, s) => .ok (sub, fold, byLine, s)
    | (some c, after) =>
      let twice (what : String) : Except Fault (Substitution × Bool × Bool × Source) :=
        after.fault s!"multiple {what} options to `s' command"
      match c with
      | 'i' | 'I' => flags n after sub true byLine
      | 'm' | 'M' => flags n after sub fold true
      | 'p' =>
        if sub.shown then twice "`p'" else flags n after { sub with shown := true } fold byLine
      | 'g' =>
        if sub.every then twice "`g'" else flags n after { sub with every := true } fold byLine
      | 'w' => do
        let (name, s) ← after.fileName
        return ({ sub with file := some name }, fold, byLine, s)
      | '\x7d' | '#' => .ok (sub, fold, byLine, s)
      | '\n' | ';' => .ok (sub, fold, byLine, after)
      | ' ' | '\t' => flags n after sub fold byLine
      | _ =>
        if c.isDigit then
          if sub.number.isSome then twice "number"
          else
            let (k, after) := s.number
            if k = some 0 then after.fault "number option to `s' command may not be zero"
            else flags n after { sub with number := k } fold byLine
        else after.fault "unknown option to `s'"

def substitution (s : Source) : Except Fault (Substitution × Source) := do
  let unterminated {α : Type} (s : Source) : Except Fault α := s.fault "unterminated `s' command"
  match s.next with
  | (none, s) => unterminated s
  | (some mark, s) =>
    match s.upTo mark true true (s.rest.length + 1) [] with
    | .error s => unterminated s
    | .ok (pattern, s) =>
      match s.upTo mark false false (s.rest.length + 1) [] with
      | .error s => unterminated s
      | .ok (text, s) =>
        let sub : Substitution :=
          { finder := { expression := none }, parts := parts (text.length + 1) [] text }
        let (sub, fold, byLine, s) ← flags (s.rest.length + 1) s sub false false
        let finder ← s.finder pattern fold byLine
        let most := sub.parts.foldl (fun m p => match p with
          | .group k => max m k
          | _ => m) 0
        match finder.expression with
        | some r =>
          if groupsOf r < most then
            s.fault (s!"invalid reference \\{most} on `s' command's RHS")
          else return ({ sub with finder }, s)
        | none => return ({ sub with finder }, s)

def tableChars : Nat → List Char → List Char
  | 0, _ => []
  | _ + 1, [] => []
  | n + 1, '\\' :: c :: s =>
    if c = '\\' then '\\' :: tableChars n s
    else
      match numbered? c s, Regular.letterChar? c with
      | some (d, s), _ => d :: tableChars n s
      | none, some d => d :: tableChars n s
      | none, none => '\\' :: c :: tableChars n s
  | n + 1, c :: s => c :: tableChars n s

def translation (s : Source) : Except Fault (List (Char × Char) × Source) := do
  let unterminated {α : Type} (s : Source) : Except Fault α := s.fault "unterminated `y' command"
  match s.next with
  | (none, s) => unterminated s
  | (some mark, s) =>
    match s.upTo mark false false (s.rest.length + 1) [] with
    | .error s => unterminated s
    | .ok (source, s) =>
      match s.upTo mark false false (s.rest.length + 1) [] with
      | .error s => unterminated s
      | .ok (target, s) =>
        let source := tableChars (source.length + 1) source
        let target := tableChars (target.length + 1) target
        if source.length ≠ target.length then
          s.fault "strings for `y' command are different lengths"
        else return (source.zip target, ← s.ended)

/-- Takes a number behind a command, and its end. -/
def countEnded (s : Source) : Except Fault (Option Nat × Source) := do
  let (k, s) := s.skipBlanks.number
  return (k, ← s.ended)

end Source

/-- A script under way: its commands so far, and where blocks have been opened. -/
structure Reading where
  entries : Array Entry := #[]
  opened : List Nat := []

def single? (c : Char) : Option Command :=
  match c with
  | '=' => some .showNumber
  | 'd' => some .delete
  | 'D' => some .deleteLine
  | 'F' => some .showName
  | 'g' => some .take
  | 'G' => some .takeMore
  | 'h' => some .keep
  | 'H' => some .keepMore
  | 'x' => some .exchange
  | 'n' => some .next
  | 'N' => some .nextMore
  | 'p' => some .show
  | 'P' => some .showLine
  | 'z' => some .empty
  | _ => none

def readCommand (c : Char) (selection : Selection) (s : Source) (r : Reading) :
    Except Fault (Reading × Source) := do
  let add (c : Command) (s : Source) : Except Fault (Reading × Source) :=
    .ok ({ r with entries := r.entries.push ⟨selection, c⟩ }, s)
  match c, single? c with
  | _, some command => add command (← s.ended)
  | '\x7b', _ =>
    return ({ entries := r.entries.push ⟨selection, .block 0⟩
              opened := r.entries.size :: r.opened }, s)
  | '\x7d', _ =>
    match r.opened with
    | [] => s.fault "unexpected `\x7d'"
    | start :: opened =>
      if selection.first.isSome then s.fault "`\x7d' doesn't want any addresses"
      else
        let s ← s.ended
        let closed := r.entries.modify start fun e => { e with command := .block r.entries.size }
        return ({ entries := closed.push ⟨{}, .blockEnd⟩, opened }, s)
  | 'a', _ => do
    let (text, s) ← s.text
    add (.append text) s
  | 'i', _ => do
    let (text, s) ← s.text
    add (.insert text) s
  | 'c', _ => do
    let (text, s) ← s.text
    add (.change text) s
  | ':', _ =>
    if selection.first.isSome then s.fault ": doesn't want any addresses"
    else
      let (name, s) := s.label
      if name = "" then s.fault "\":\" lacks a label" else add (.label name) s
  | 'b', _ =>
    let (name, s) := s.label
    add (.branch none name) (← s.ended)
  | 't', _ =>
    let (name, s) := s.label
    add (.branch (some true) name) (← s.ended)
  | 'T', _ =>
    let (name, s) := s.label
    add (.branch (some false) name) (← s.ended)
  | 'q', _ | 'Q', _ =>
    if selection.bound.isSome then s.fault "command only uses one address"
    else
      let (status, s) ← s.countEnded
      add (.quit (c = 'q') (status.getD 0)) s
  | 'l', _ =>
    let (width, s) ← s.countEnded
    add (.showPlainly width) s
  | 'r', _ =>
    let (name, s) ← s.fileName
    add (.readFile name) s
  | 'R', _ =>
    let (name, s) ← s.fileName
    add (.readLine name) s
  | 'w', _ =>
    let (name, s) ← s.fileName
    add (.writeFile name) s
  | 'W', _ =>
    let (name, s) ← s.fileName
    add (.writeLine name) s
  | 's', _ =>
    let (sub, s) ← s.substitution
    add (.substitute sub) s
  | 'y', _ =>
    let (table, s) ← s.translation
    add (.translate table) s
  | 'v', _ => return (r, s.dropWhile (· ≠ '\n'))
  | _, _ => s.fault s!"unknown command: `{c}'"

def readCommands : Nat → Source → Reading → Except Fault (Array Entry)
  | 0, _, r => .ok r.entries
  | n + 1, s, r => do
    let s := s.dropWhile fun c => isSpace c || c = ';'
    match s.rest with
    | [] =>
      if r.opened ≠ [] then .error ⟨some 0, "unmatched \x60\x7b'"⟩ else return r.entries
    | '#' :: _ => readCommands n (s.dropWhile (· ≠ '\n')) r
    | _ =>
      let (selection, s) ← s.selection
      match s.skipBlanks.next with
      | (none, s) => s.fault "missing command"
      | (some '!', s) =>
        match s.skipBlanks.next with
        | (none, s) => s.fault "missing command"
        | (some '!', s) => s.fault "multiple `!'s"
        | (some c, s) =>
          let (r, s) ← readCommand c { selection with inverted := true } s r
          readCommands n s r
      | (some '#', s) => s.fault "comments don't accept any addresses"
      | (some '\n', s) => s.fault "missing command"
      | (some ';', s) => s.fault "missing command"
      | (some c, s) =>
        let (r, s) ← readCommand c selection s r
        readCommands n s r

def labelAt? (entries : Array Entry) (name : String) : Option Nat :=
  entries.toList.findIdx? fun e =>
    match e.command with
    | .label l => l = name
    | _ => false

def missingLabel? (entries : Array Entry) : Option String :=
  entries.toList.findSome? fun e =>
    match e.command with
    | .branch _ l => if l ≠ "" && (labelAt? entries l).isNone then some l else none
    | _ => none

def filesOf (entries : Array Entry) : List String :=
  (entries.toList.filterMap fun e =>
    match e.command with
    | .writeFile p | .writeLine p => some p
    | .substitute s => s.file
    | _ => none).eraseDups

def read (extended : Bool) (text : List Char) : Except Fault (Array Entry) := do
  let dialect : Regular.Dialect := { extended, escapes := true, strict := true }
  let entries ← readCommands (text.length + 1) { rest := text, dialect } {}
  match missingLabel? entries with
  | some l => .error ⟨none, s!"can't find label for jump to `{l}'"⟩
  | none => return entries

end Cutover.Shell.Editing
