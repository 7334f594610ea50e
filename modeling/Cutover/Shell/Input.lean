import Cutover.Shell.Field
import Cutover.Shell.Number
import Cutover.Shell.Settings
import Cutover.Shell.Task

/-!
# Input

The commands that read lines, and the arguments of a script, into variables.
-/
namespace Cutover.Shell

/-- The bytes of the next line of a stream, and whether a newline ended it. Unless `raw`, a
backslash takes away what the next character means and joins lines. -/
def lineOf (raw : Bool) : List UInt8 → List (Char × Bool) × Nat × Bool
  | [] => ([], 0, false)
  | b :: bs =>
    let c := Char.ofNat b.toNat
    if c = '\n' then ([], 1, true)
    else if c = '\x00' then
      let (cs, n, ended) := lineOf raw bs
      (cs, n + 1, ended)
    else if c = '\\' && !raw then
      match bs with
      | [] => ([], 1, false)
      | d :: bs =>
        let (cs, n, ended) := lineOf raw bs
        if d = 10 then (cs, n + 2, ended) else ((Char.ofNat d.toNat, true) :: cs, n + 2, ended)
    else
      let (cs, n, ended) := lineOf raw bs
      ((c, false) :: cs, n + 1, ended)

def spansOf (cs : List (Char × Bool)) : List Span :=
  cs.foldr (fun (c, quoted) spans =>
    let splitting := if quoted then Splitting.whole else .separators
    match spans with
    | s :: rest =>
      if s.splitting = splitting then { s with cells := .char c quoted :: s.cells } :: rest
      else ⟨splitting, [.char c quoted]⟩ :: s :: rest
    | [] => [⟨splitting, [.char c quoted]⟩]) []

/-- Where a line ends that starts at the front of bytes, and whether a newline ends it. Unless
`raw`, one that has a backslash in front does not. -/
def lineEnd (raw : Bool) (bytes : ByteArray) : Nat → Nat → Bool → Nat × Bool
  | 0, i, _ => (i, false)
  | n + 1, i, escaped =>
    match bytes[i]? with
    | none => (i, false)
    | some b =>
      if b = 10 && !escaped then (i + 1, true)
      else lineEnd raw bytes n (i + 1) (b = 92 && !escaped && !raw)

def takeLine (raw : Bool) : Nat → ByteArray → Act (Except String ByteArray)
  | 0, _ => Act.lost
  | n + 1, before => do
    let findEnd (bytes : ByteArray) := lineEnd raw bytes bytes.size 0 false
    let choose (bytes : ByteArray) : ByteArray :=
      bytes.extract 0 ((findEnd (before ++ bytes)).1 - before.size)
    match ← Act.take 0 choose with
    | .error e => return .error e
    | .ok bytes =>
      let all := before ++ bytes
      if bytes.isEmpty || (findEnd all).2 then return .ok all else takeLine raw n all

def read (n : Nat) (args : List String) : Act Unit := do
  let o := options "r" "p" args.length args
  match o.fault, o.rest with
  | some e, _ => Act.error e
  | none, [] => Act.error "arg count"
  | none, names =>
    let raw := o.found.any (·.1 = 'r')
    match ← takeLine raw n ByteArray.empty with
    | .error _ =>
      Act.change fun s =>
        let s := names.foldl (fun s name => if s.flow = .going then s.assign name "" else s) s
        if s.flow = .going then s.finish 1 else s
    | .ok bytes =>
      let (cs, _, ended) := lineOf raw bytes.toList
      Act.change fun s =>
        let fields := fieldsOf s.separators (some names.length) (spansOf cs)
        let s := (names.zipIdx).foldl (fun s (name, i) =>
          if s.flow ≠ .going then s
          else s.assign name (textOf ((fields[i]?).getD []))) (s.finish 0)
        if s.flow ≠ .going then s else s.finish (if ended then 0 else 1)

def specOf (letter : Char) : List Char → Option (List Char)
  | [] => none
  | c :: rest =>
    if c = letter then some rest
    else
      match rest with
      | ':' :: rest => specOf letter rest
      | rest => specOf letter rest

/-- An option that has been found among words. -/
structure FoundOption where
  letter : Char
  argument : Option String := none
  fault : Option String := none
  next : Nat
  letters : Option Nat := none
  status : Nat := 0

def findOption (spec : List Char) (words : List String) (index : Nat) (offset : Option Nat) :
    FoundOption :=
  let quiet := spec.head? = some ':'
  let fault (c : Char) (code : Char) (text : String) (next : Nat) (letters : Option Nat) :
      FoundOption :=
    if quiet then { letter := code, argument := some (String.singleton c), next, letters }
    else { letter := '?', fault := some text, next, letters }
  let wordAt (i : Nat) : List Char := ((words[i]?).getD "").toList
  let under := match offset with
    | some k => if 1 < index then (wordAt (index - 2)).drop k else []
    | none => []
  let start : Option (Char × List Char × Nat) := match under, wordAt (index - 1) with
    | c :: cs, _ => some (c, cs, index)
    | [], '-' :: c :: cs => some (c, cs, index + 1)
    | [], _ => none
  match start with
  | none => { letter := '?', next := index, status := 1 }
  | some (c, cs, next) =>
    if under = [] && c = '-' && cs = [] then { letter := '?', next, status := 1 }
    else
      let letters := some ((wordAt (next - 2)).length - cs.length)
      match specOf c spec with
      | none => fault c '?' s!"Illegal option -{c}\n" next letters
      | some (':' :: _) =>
        if cs ≠ [] then { letter := c, argument := some (String.ofList cs), next }
        else
          match words[next - 1]? with
          | some value => { letter := c, argument := some value, next := next + 1 }
          | none => fault c ':' s!"No arg for -{c} option\n" next none
      | some _ => { letter := c, argument := some "", next, letters }

/-- Takes the next option of the script. If something cannot be set, the next search starts
anew. -/
def getOptions (args : List String) (s : State) : State :=
  match args with
  | [] | [_] => s.error "Usage: getopts optstring var [arg...]"
  | spec :: name :: given =>
    let words := if given = [] then s.process.args else given
    let isLost := s.process.next = 0 || words.length + 1 < s.process.next
    let found := if isLost then findOption spec.toList words 1 none
      else findOption spec.toList words s.process.next s.process.letters
    let told := s.put 2 (found.fault.getD "")
    let step (f : State → State) (s : State) : State := if s.flow = .going then f s else s
    let set := if found.status ≠ 0 then told
      else match found.argument with
        | some value => told.assign "OPTARG" value
        | none => told.forget "OPTARG"
    let set := step (·.assign "OPTIND" (toString found.next)) set
    let set := step (·.assign name (String.singleton found.letter)) set
    if set.flow ≠ .going then set.update fun p => { p with next := 0, letters := none }
    else
      (set.update fun p => { p with next := found.next, letters := found.letters }).finish
        found.status

end Cutover.Shell
