import Cutover.Shell.Pattern
import Cutover.Shell.Printing
import Cutover.Shell.Program.Input

/-!
# Changing characters

The program that changes, drops and squeezes characters. Its sets are lists of characters, of
ranges and classes of them, and of characters that are repeated.
-/
namespace Cutover.Shell

/-- An item of a set. -/
inductive SetItem where
  | char (c : Char)
  | range (low high : Char)
  | kind (name : String)
  | like (c : Char)
  /-- A character so many times; without a number as often as is needed. -/
  | repeated (c : Char) (times : Option Nat)

namespace SetItem

def charsBetween (a b : Char) : List Char :=
  (List.range (b.toNat + 1 - a.toNat)).map fun i => Char.ofNat (a.toNat + i)

def allChars : List Char := charsBetween '\x00' 'ÿ'

def chars (fill : Nat) : SetItem → List Char
  | char c => [c]
  | range low high => charsBetween low high
  | kind name => allChars.filter (isOfKind name)
  | like c => [c]
  | repeated c times => List.replicate (times.getD fill) c

/-- Whether an item is a class of small or capital letters. -/
def isCase : SetItem → Bool
  | kind name => name = "upper" || name = "lower"
  | _ => false

def isOpen : SetItem → Bool
  | repeated _ none => true
  | _ => false

/-! ### Reading sets -/

/-- A text with what its backslashes stand for. Each character comes with whether it had a
backslash; warnings are kept. -/
def unquoted : List Char → List (Char × Bool) × List String
  | [] => ([], [])
  | ['\\'] => ([('\\', false)], ["an unescaped backslash at end of string is not portable"])
  | '\\' :: c :: s =>
    let digits := (c :: s.take 2).takeWhile isOctal
    let letter := [('a', '\x07'), ('b', '\x08'), ('f', '\x0c'), ('n', '\n'), ('r', '\r'),
      ('t', '\t'), ('v', '\x0b')].lookup c
    match digits, s with
    | [_, e], _ :: s =>
      let (rest, warnings) := unquoted s
      ((byteChar (digitsValue 8 [c, e]), true) :: rest, warnings)
    | [_, e, f], _ :: g :: s =>
      if digitsValue 8 digits < 256 then
        let (rest, warnings) := unquoted s
        ((byteChar (digitsValue 8 digits), true) :: rest, warnings)
      else
        let (rest, warnings) := unquoted (g :: s)
        ((byteChar (digitsValue 8 [c, e]), true) :: rest,
          (s!"the ambiguous octal escape \\{c}{e}{f} is being\n\t" ++
            s!"interpreted as the 2-byte sequence \\0{c}{e}, {f}") :: warnings)
    | [_], s =>
      let (rest, warnings) := unquoted s
      ((byteChar (digitsValue 8 [c]), true) :: rest, warnings)
    | _, s =>
      let (rest, warnings) := unquoted s
      ((letter.getD c, true) :: rest, warnings)
  | c :: s =>
    let (rest, warnings) := unquoted s
    ((c, false) :: rest, warnings)

/-- What stands before a mark and a closing bracket, and what follows them. -/
def upToClosing (mark : Char) : List (Char × Bool) → Option (List Char × List (Char × Bool))
  | (a, false) :: (']', false) :: rest =>
    if a = mark then some ([], rest)
    else (upToClosing mark ((']', false) :: rest)).map fun (cs, rest) => (a :: cs, rest)
  | (a, _) :: rest => (upToClosing mark rest).map fun (cs, rest) => (a :: cs, rest)
  | [] => none

def repetition? : List (Char × Bool) → Option (Except String (SetItem × List (Char × Bool)))
  | (c, _) :: ('*', false) :: rest =>
    let count := rest.takeWhile fun e => !(e.1 = ']' && !e.2)
    match rest.drop count.length with
    | [] => none
    | _ :: after =>
      let text := count.map (·.1)
      let base := if text.head? = some '0' then 8 else 10
      if text.all (isDigitIn base) then
        let n := digitsValue base text
        some (.ok (.repeated c (if n = 0 then none else some n), after))
      else
        some (.error (s!"invalid repeat count {Quoted.plain (String.ofList text)}" ++
          " in [c*n] construct"))
  | _ => none

def shown (c : Char) : String :=
  if Quoted.isPrinted c then String.singleton c else String.ofList (Quoted.escape c)

/-- Whether a repetition follows that a class cannot be told from. -/
def looksRepeated : List (Char × Bool) → Bool
  | ('*', false) :: rest => (rest.dropWhile (·.1.isDigit)).head? = some (']', false)
  | _ => false

def read : Nat → List (Char × Bool) → Except String (List SetItem)
  | 0, _ => .ok []
  | _ + 1, [] => .ok []
  | n + 1, (c, q) :: rest => do
    let plain : Except String (List SetItem) :=
      match rest with
      | ('-', false) :: (d, _) :: after =>
        if d < c then
          .error (s!"range-endpoints of '{shown c}-{shown d}' are in " ++
            "reverse collating sequence order")
        else (read n after).map (.range c d :: ·)
      | _ => (read n rest).map (.char c :: ·)
    let others : Except String (List SetItem) :=
      match repetition? rest with
      | some (.ok (item, after)) => (read n after).map (item :: ·)
      | some (.error e) => .error e
      | none => plain
    if c ≠ '[' || q || rest.length < 2 then plain
    else
      match rest with
      | (':', false) :: inner =>
        match upToClosing ':' inner with
        | some (name, after) =>
          let name := String.ofList name
          if name = "" then .error "missing character class name '[::]'"
          else if kinds.contains name then (read n after).map (.kind name :: ·)
          else if looksRepeated inner then others
          else .error ("invalid character class " ++ Quoted.plain name)
        | none => others
      | ('=', false) :: inner =>
        match upToClosing '=' inner with
        | some ([], _) => .error "missing equivalence class character '[==]'"
        | some ([c], after) => (read n after).map (.like c :: ·)
        | some (name, _) =>
          if looksRepeated inner then others
          else .error s!"{String.ofList name}: equivalence class operand must be a single character"
        | none => others
      | _ => others

end SetItem

namespace Changing

/-- What is asked for. -/
structure Plan where
  complement : Bool
  delete : Bool
  squeeze : Bool
  truncate : Bool

/-- What happens to each character: whether it is dropped, what it becomes, and whether one of
several in a row is kept. -/
structure Tables where
  drops : Array Bool
  changed : Array Char
  squeezes : Array Bool

def members (set : List Char) : Array Bool :=
  set.foldl (fun t c => t.setIfInBounds c.toNat true) (Array.replicate 256 false)

def Plan.chars (plan : Plan) (items : List SetItem) : List Char :=
  let set := items.flatMap (·.chars 0)
  if plan.complement then
    let table := members set
    SetItem.allChars.filter fun c => !(table[c.toNat]?).getD false
  else set

def caseStarts (fill : Nat) (items : List SetItem) : List Nat :=
  let step (state : List Nat × Nat) (i : SetItem) : List Nat × Nat :=
    let (starts, at_) := state
    (if i.isCase then at_ :: starts else starts, at_ + (i.chars fill).length)
  (items.foldl step ([], 0)).1

def Plan.changes (plan : Plan) (first second : List SetItem) : Except String (Array Char) :=
  let source := plan.chars first
  let fixed := (second.flatMap (·.chars 0)).length
  let fill := source.length - fixed
  let target := second.flatMap (·.chars fill)
  let isKind : SetItem → Bool
    | .kind _ => true
    | _ => false
  let isLike : SetItem → Bool
    | .like _ => true
    | _ => false
  let starts := caseStarts 0 first
  let endsInKind := (second.getLast?).any isKind
  let longer := target.length < source.length
  if 1 < second.countP (·.isOpen) then .error "only one [c*] repeat construct may appear in string2"
  else if second.any isLike then
    .error "[=c=] expressions may not appear in string2 when translating"
  else if second.any fun i => isKind i && !i.isCase then
    .error ("when translating, the only character classes that may appear in\n" ++
      "string2 are 'upper' and 'lower'")
  else if !plan.complement && !(caseStarts fill second).all starts.contains then
    .error "misaligned [:upper:] and/or [:lower:] construct"
  else if longer && !plan.truncate && target = [] then
    .error "when not truncating set1, string2 must be non-empty"
  else if longer && !plan.truncate && endsInKind then
    .error ("when translating with string1 longer than string2,\n" ++
      "the latter string must not end with a character class")
  else if plan.complement && first.any isKind && 1 < target.eraseDups.length then
    .error ("when translating with complemented character classes,\n" ++
      "string2 must map all characters in the domain to one")
  else
    let padded := if plan.truncate then target
      else target ++ List.replicate (source.length - target.length) ((target.getLast?).getD ' ')
    .ok ((source.zip padded).foldl (fun t (a, b) => t.setIfInBounds a.toNat b)
      SetItem.allChars.toArray)

def Plan.tables (plan : Plan) (first : List SetItem) (second : Option (List SetItem)) :
    Except String Tables :=
  let none_ := Array.replicate 256 false
  let same := SetItem.allChars.toArray
  if first.any (·.isOpen) then .error "the [c*] repeat construct may not appear in string1"
  else
    match second with
    | none =>
      let set := members (plan.chars first)
      .ok ⟨if plan.delete then set else none_, same, if plan.squeeze then set else none_⟩
    | some second =>
      if plan.delete then
        if second.any (·.isOpen) then
          .error "the [c*] construct may appear in string2 only when translating"
        else .ok ⟨members (plan.chars first), same, members (second.flatMap (·.chars 0))⟩
      else
        (plan.changes first second).map fun changed =>
          let fill := (plan.chars first).length - (second.flatMap (·.chars 0)).length
          ⟨none_, changed, if plan.squeeze then members (second.flatMap (·.chars fill)) else none_⟩

/-- Takes one character after the last one that has been kept. -/
def Tables.step (t : Tables) (state : List Char × Option Char) (c : Char) :
    List Char × Option Char :=
  if (t.drops[c.toNat]?).getD false then state
  else
    let c := (t.changed[c.toNat]?).getD c
    if state.2 = some c && (t.squeezes[c.toNat]?).getD false then state else (c :: state.1, some c)

end Changing

def changeChars : Program := fun n program args => do
  let u : Usage :=
    { letters := "cCdst"
      names := [("complement", 'c'), ("delete", 'd'), ("squeeze-repeats", 's'),
        ("truncate-set1", 't')]
      ordered := true }
  withUsage u program args fun r => do
    let plan : Changing.Plan :=
      { complement := r.has 'c' || r.has 'C', delete := r.has 'd', squeeze := r.has 's'
        truncate := r.has 't' }
    let least := if plan.delete = plan.squeeze then 2 else 1
    let most := if plan.delete && !plan.squeeze then 1 else 2
    match r.operands with
    | [] => Act.misused program "missing operand" 1
    | operands =>
      if operands.length < least then
        let why := if plan.delete then "both deleting and squeezing repeats." else "translating."
        Act.misused program ("missing operand after " ++
          Quoted.plain (operands.headD "") ++ "\nTwo strings must be given when " ++ why) 1
      else if most < operands.length then
        let extra := Quoted.plain ((operands[most]?).getD "")
        let hint := if most = 1 && operands.length = 2
          then "\nOnly one string may be given when deleting without squeezing repeats." else ""
        Act.misused program ("extra operand " ++ extra ++ hint) 1
      else
        let texts := operands.map fun a => SetItem.unquoted a.toList
        Act.change fun s => (texts.flatMap (·.2)).foldl (fun s warning =>
          s.complain program ("warning: " ++ warning)) s
        let items := texts.mapM fun t => SetItem.read (t.1.length + 1) t.1
        let tables : Except String Changing.Tables := match items with
          | .error e => .error e
          | .ok [first] => plan.tables first none
          | .ok (first :: second :: _) => plan.tables first (some second)
          | .ok [] => .error ""
        match tables with
        | .error e => Act.failed program e 1
        | .ok tables =>
          let step (last : Option Char) (part : List Char) : Act (Option Char) := do
            let (text, last) := part.foldl tables.step ([], last)
            Act.outputText program text.reverse
            return last
          Act.finish 0
          match ← Act.overParts 0 step n none with
          | .ok _ => pure ()
          | .error e => Act.failed program s!"read error: {e}" 1

end Cutover.Shell
