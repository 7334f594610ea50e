import Cutover.Shell.Options
import Cutover.Shell.Printing

/-!
# The working folder

The commands that show and change the working folder, and what new files may not be used for.
The path of the folder is kept as it has been gone to, with links in it.
-/
namespace Cutover.Shell

def pathOf (p : Place) : String := Text.bytewise ("/" ++ "/".intercalate p)

/-- The path that another one leads to from a folder, if each part upwards takes away the part
before it. Two slashes in front are kept. -/
def pathFrom (current path : String) : String :=
  let from? := if Path.isAbsolute path then [] else [current]
  let start := from?.headD path
  let doubled := start.startsWith "//" && !start.startsWith "///"
  let parts := (from? ++ [path]).flatMap fun p => Path.split p.toList
  let gone := parts.foldl (fun (gone : List (List Char)) part =>
    if part = [] || part = ['.'] then gone
    else if part = ['.', '.'] then gone.dropLast
    else gone ++ [part]) []
  (if doubled then "//" else "/") ++ String.ofList (['/'].intercalate gone)

namespace State

/-- Goes to a folder if there is one. Where `physical` its path has no links in it. -/
def goTo? (s : State) (physical : Bool) (path : String) : Option State :=
  let logical := pathFrom s.process.path path
  match s.locate (if physical then path else logical) with
  | .ok (p, some .folder) =>
    let old := s.process.path
    let path := if physical then pathOf p else logical
    let s := s.update fun q =>
      { q with
        folder := (s.files.number? p).getD 0, path
        found := q.found.map fun e => (e.1, { e.2 with isStale := true }) }
    some ((s.assignExported "OLDPWD" old).assignExported "PWD" path)
  | _ => none

end State

def isFixed (path : String) : Bool :=
  Path.isAbsolute path || path = "." || path = ".." || path.startsWith "./" ||
    path.startsWith "../"

/-- Goes to another folder, which may be looked for in several folders. -/
def changeFolder (args : List String) (s : State) : State :=
  withOptions "LP" "" args s fun found rest =>
    let physical := (found.getLast?.map (·.1)) = some 'P'
    let back := rest.head? = some "-"
    let target := match rest with
      | [] => (s.value? "HOME").getD ""
      | "-" :: _ => (s.value? "OLDPWD").getD ""
      | a :: _ => a
    let target := if target = "" then "." else target
    let folders := if isFixed target then [] else
      ((s.value? "CDPATH").map (·.splitOn ":")).getD []
    let within (folder : String) : String := if folder = "" then target else folder ++ "/" ++ target
    let folder := folders.find? fun f => s.isFolder (within f)
    match s.goTo? physical (within (folder.getD "")) with
    | some s =>
      if s.flow = .going && (back || folder.any (· ≠ "")) then s.printLines [s.process.path]
      else if s.flow = .going then s.finish 0
      else s
    | none => s.error s!"can't cd to {target}"

def lostFolder : String := "getcwd() failed: " ++ FileError.notFound.cause

def showFolder (args : List String) (s : State) : State :=
  withOptions "LP" "" args s fun found _ =>
    if (found.getLast?.map (·.1)) ≠ some 'P' then s.printLines [s.process.path]
    else
      match s.folder? with
      | some place => s.printLines [pathOf place]
      | none => (s.warn lostFolder).printLines [""]

namespace Mask

def letters (bits : Nat) : String :=
  String.join ([(4, "r"), (2, "w"), (1, "x")].map fun (bit, letter) =>
    if bits / bit % 2 = 1 then letter else "")

def symbolic (mask : Nat) : String :=
  let allowed := 0o777 - mask % 512
  let user := letters (allowed / 64 % 8)
  let group := letters (allowed / 8 % 8)
  let other := letters (allowed % 8)
  s!"u={user},g={group},o={other}"

def places : Char → Nat
  | 'u' => 0o100
  | 'g' => 0o010
  | 'o' => 0o001
  | _ => 0o111

/-- What a letter stands for, given what has been allowed before. -/
def permission (before : Nat) : Char → Nat
  | 'r' => 4
  | 'w' => 2
  | 'x' => 1
  | 'X' => if before &&& 0o111 ≠ 0 then 1 else 0
  | 'u' => before / 64 % 8
  | 'g' => before / 8 % 8
  | 'o' => before % 8
  | _ => 0

/-- What is allowed after changes of what has been allowed before. Those that a change is for are
kept for the next one unless a comma stands between them. -/
def allowedAfter (before : Nat) : Nat → Nat → Nat → List Char → Option Nat
  | 0, _, allowed, _ => some allowed
  | _ + 1, _, allowed, [] => some allowed
  | n + 1, kept, allowed, s =>
    let letters := s.takeWhile "augo".toList.contains
    let named := letters.foldl (fun all c => all ||| places c) kept
    let named := if named = 0 then 0o111 else named
    match s.drop letters.length with
    | [] => some allowed
    | op :: s =>
      let letters := s.takeWhile "rwxugoXs".toList.contains
      let value := letters.foldl (fun all c => all ||| permission before c) 0 * named
      let cleared (bits : Nat) : Nat := allowed &&& (0o777 ^^^ bits)
      let changed? : Option Nat := match op with
        | '-' => some (cleared value)
        | '+' => some (allowed ||| value)
        | '=' => some (cleared (named * 7) ||| value)
        | _ => none
      match changed?, s.drop letters.length with
      | none, _ => none
      | some allowed, [] => some allowed
      | some allowed, ',' :: s => allowedAfter before n 0 allowed s
      | some allowed, c :: s =>
        if "=+-".toList.contains c then allowedAfter before n named allowed (c :: s) else none

def changed? (mask : Nat) (text : String) : Option Nat :=
  let before := 0o777 - mask % 512
  (allowedAfter before (text.length + 1) 0 before text.toList).map (0o777 - ·)

end Mask

/-- Shows or sets what new files may not be used for. -/
def changeMask (args : List String) (s : State) : State :=
  withOptions "S" "" args s fun found rest =>
    let mask := s.process.mask
    let set (mask : Nat) : State := (s.update fun p => { p with mask }).finish 0
    match rest with
    | [] =>
      let digits := String.ofList (Nat.toDigits 8 mask)
      s.printLines [if found = [] then
          String.ofList (List.replicate (4 - digits.length) '0') ++ digits
        else Mask.symbolic mask]
    | text :: _ =>
      if (text.toList.head?).any Char.isDigit then
        if text.toList.all isOctal then set (digitsValue 8 text.toList % 512)
        else s.error (noNumber text)
      else
        match Mask.changed? mask text with
        | some mask => set mask
        | none => s.error s!"Illegal mode: {text}"

end Cutover.Shell
