import Cutover.Shell.Builtin

/-!
# Looking commands up

What a name stands for where a command starts: a function, a built-in command or a program. A
program is a file that may be run; one that is a text names the program that runs it, or is a
script of the shell.
-/
namespace Cutover.Shell

/-- What is run when a file is run. -/
inductive Image where
  | program (name : String)
  | script (interpreter : String) (argument : Option String)
  | other (isText : Bool)

/-- How many bytes at the start of a file tell what it is. -/
def longestHead : Nat := 256

def isForeign (c : Char) : Bool :=
  (c < ' ' && !('\t' ≤ c && c ≤ '\x0f') && c ≠ '\x1b') || c = '\x7f'

def looksLikeText (head : List Char) : Bool :=
  !((head.take 128).takeWhile (· ≠ '\n')).any isForeign

/-- The line that names the program for a text, from its start without the mark. It may have no
end, if what follows the name is there. -/
def namingLine? (head : List Char) : Option (List Char) :=
  let line := head.takeWhile fun c => c ≠ '\n' && c ≠ '\x00'
  let isWhole := line.length < head.length || head.length < longestHead - 2
  let name := line.dropWhile isBlank
  if (head.drop line.length).head? = some '\n' then if name = [] then none else some line
  else if isWhole || name.any isBlank then some (line.take (longestHead - 3))
  else none

def Image.ofContent (content : ByteArray) : Image :=
  let head := Text.ofBytes (content.extract 0 longestHead)
  match if head.take 2 = ['#', '!'] then namingLine? (head.drop 2) else none with
  | none => .other (looksLikeText head)
  | some line =>
    let line := ((line.dropWhile isBlank).reverse.dropWhile isBlank).reverse
    let path := line.takeWhile (!isBlank ·)
    let argument := (line.drop path.length).dropWhile isBlank
    .script (String.ofList path)
      (if argument = [] then none else some (String.ofList argument))

/-- What a name stands for where a command starts. -/
inductive Target where
  | function (body : Script)
  | builtin
  | program (path : String)
  | missing (why : FileError)

/-- The commands whose arguments set variables, so that such arguments are not split. -/
def setters : List String := ["export", "readonly", "local", "alias"]

def standardPath : String := "/usr/local/sbin:/usr/local/bin:/usr/sbin:/usr/bin:/sbin:/bin"

namespace State

def image (s : State) (path : String) : Except FileError Image :=
  match s.locate path with
  | .error e => .error e
  | .ok (_, none) => .error .notFound
  | .ok (p, some e) =>
    if !(s.files.node? p).any (·.isRunnable) then .error .denied
    else
      match e with
      | .program name => .ok (.program name)
      | .file content => .ok (.ofContent content)
      | _ => .error .denied

/-- The paths under which a program may be found by its name in some folders. -/
def candidates (folders name : String) : List String :=
  if folders = "" then []
  else (folders.splitOn ":").map fun f => if f = "" then name else f ++ "/" ++ name

/-- Looks for a program at some paths, and tells why there is none. A file that is there but
cannot be run is told of rather than one that is missing. -/
def searchAmong (s : State) (paths : List String) : Except FileError String :=
  let step (found : Except FileError String) (path : String) : Except FileError String :=
    match found with
    | .ok path => .ok path
    | .error before =>
      match s.image path with
      | .ok _ => .ok path
      | .error .notFound | .error .notAFolder => .error before
      | .error e => .error e
  paths.foldl step (.error .notFound)

def searchIn (s : State) (folders name : String) : Except FileError String :=
  s.searchAmong (candidates folders name)

/-- Looks for the program of a name in the usual folders. One that has been found before is not
looked for in front of the place where it was. -/
def search (s : State) (name : String) : Except FileError String :=
  let folders := (s.value? "PATH").getD ""
  match s.process.found.lookup name with
  | some ⟨path, false⟩ => s.searchAmong ((candidates folders name).dropWhile (· ≠ path))
  | _ => s.searchIn folders name

def resolveName (s : State) (name : String) : Except FileError String :=
  if name.contains '/' then .ok name else s.search name

/-- The path of a program that another program runs. Where no folders are named there are two to
look in. -/
def resolveFor (s : State) (name : String) : Except FileError String :=
  if name = "" then .error .notFound
  else if name.contains '/' then .ok name
  else s.searchIn ((s.value? "PATH").getD "/bin:/usr/bin") name

/-- The program of the system that is run when the file at a path is, what it is called, and its
arguments. -/
def commandLine (s : State) : Nat → String → String → List String →
    Except FileError (String × String × List String)
  | 0, _, _, _ => .error .tooManyLinks
  | n + 1, path, name, args =>
    match s.image path with
    | .error e => .error e
    | .ok (.program program) => .ok (program, name, args)
    | .ok (.script "" _) => .error .denied
    | .ok (.script interpreter argument) =>
      commandLine s n interpreter interpreter (argument.toList ++ path :: args)
    | .ok (.other _) => .error .noProgram

/-- How often the program that a text names may be a text itself. -/
def mostInterpreters : Nat := 5

/-- What is run when a program runs the file at a path. What is no program itself is given to a
shell, which itself does so only if it looks like a text. -/
def startLine (s : State) (byShell : Bool) (path name : String) (args : List String) :
    Except FileError (String × String × List String) :=
  match s.commandLine mostInterpreters path name args with
  | .error .noProgram =>
    match byShell, s.image path with
    | true, .ok (.other false) => .error .noProgram
    | _, _ => .ok ("sh", "/bin/sh", path :: args)
  | r => r

def target (s : State) (functions : Bool) (name : String) : Target :=
  if name.contains '/' then .program name
  else
    match if functions then s.process.functions.lookup name else none with
    | some body => .function body
    | none =>
      if isBuiltin name then .builtin
      else
        match s.search name with
        | .ok path => .program path
        | .error e => .missing e

def whyNot (name : String) : FileError → String
  | .notFound | .notAFolder => s!"{name}: not found"
  | e => s!"{name}: " ++ e.cause

def statusOf : FileError → Nat
  | .notFound | .notAFolder | .tooManyLinks | .nameTooLong => 127
  | _ => 126

def description? (s : State) (full : Bool) (name : String) : Option String :=
  let told (short long : String) : Option String :=
    some (if full then name ++ " is " ++ long else short)
  if reserved.contains name then told name "a shell keyword"
  else
    match s.process.aliases.lookup name with
    | some text => told ("alias " ++ name ++ "=" ++ singleQuoted text) ("an alias for " ++ text)
    | none =>
      let tracked (path : String) : Option String := told path ("a tracked alias for " ++ path)
      match s.target true name with
      | .function _ => told name "a shell function"
      | .builtin =>
        let kind := if specialCommands.contains name then "a special shell builtin"
          else "a shell builtin"
        told name kind
      | .program path =>
        if !name.contains '/' then
          match s.process.found.lookup name with
          | some f => tracked f.path
          | none => told path path
        else if (s.entryAt? name).isSome then told name name
        else none
      | .missing _ => (s.process.found.lookup name).bind fun f => tracked f.path

def find (s : State) (name path : String) : State :=
  if name.contains '/' || s.process.found.contains (name, { path }) then s
  else
    s.update fun p =>
      { p with found := if (p.found.lookup name).isSome
          then p.found.map fun e => if e.1 = name then (name, { path }) else e
          else (name, { path }) :: p.found }

def describe (s : State) (full noting : Bool) (names : List String) : State :=
  names.foldl (fun s name =>
    match s.description? full name with
    | some text =>
      let told := (s.printLines [text]).finish s.status
      match s.target true name with
      | .program path =>
        if noting && (s.process.found.lookup name).isNone then told.find name path else told
      | _ => told
    | none =>
      let s := if full then s.printLines [name ++ ": not found"] else s
      s.finish 127) (s.finish 0)

/-- Finds the program of a part of a pipe before the part runs. -/
def foresee (s : State) : Script → State
  | .simple _ _ (w :: _) _ =>
    match literal? w with
    | some name =>
      match if isName name then s.target true name else .missing .notFound with
      | .program path => s.find name path
      | _ => s
    | none => s
  | _ => s

end State

def foundKey (name : String) : Nat :=
  let codes := name.toList.map Char.toNat
  (codes.foldl (· + ·) (codes.headD 0 * 16)) % 32768 % 31

def remember (args : List String) (s : State) : State :=
  withOptions "r" "" args s fun found names =>
    if found ≠ [] then (s.update fun p => { p with found := [] }).finish 0
    else if names = [] then
      let all := s.process.found.reverse.mergeSort fun a b => foundKey a.1 ≤ foundKey b.1
      s.printLines (all.map fun e => e.2.path ++ if e.2.isStale then "*" else "")
    else
      names.foldl (fun s name =>
        match s.target true name with
        | .missing e => (s.warn (State.whyNot name e)).finish 1
        | .program path => s.find name path
        | _ => s) (s.finish 0)

def tellCommand (args : List String) (s : State) : State :=
  withOptions "pvV" "" args s fun found names =>
    let has (c : Char) : Bool := found.any (·.1 = c)
    match has 'v' || has 'V', names with
    | true, name :: _ =>
      if has 'p' then
        let given := s.setVariable "PATH" (some { value := some standardPath })
        (given.describe (has 'V') false [name]).setVariable "PATH" (s.entry? "PATH")
      else s.describe (has 'V') true [name]
    | _, _ => s.finish 0

end Cutover.Shell
