import Cutover.Shell.Number
import Cutover.Shell.Program.Input

/-!
# Changing lines

The programs that number lines, turn them or their order around, and bring them to a width.
-/
namespace Cutover.Shell

namespace Numbering

/-- Which lines have numbers. -/
inductive Style where
  | all
  | filled
  | none
  deriving DecidableEq

/-- What is asked for. -/
structure Plan where
  body : Style
  head : Style
  foot : Style
  /-- Whether numbers stand at the left, and whether zeros fill them up. -/
  left : Bool
  zeros : Bool
  width : Nat
  separator : String
  start : Int
  step : Int
  goesOn : Bool

/-- How far the lines have been numbered, and the style in force. -/
structure Place where
  next : Int
  style : Style

def Plan.number (plan : Plan) (n : Int) : String :=
  let text := toString n
  if plan.left then text ++ String.ofList (List.replicate (plan.width - text.length) ' ')
  else if plan.zeros then
    let digits := toString n.natAbs
    let sign := if n < 0 then "-" else ""
    sign ++ String.ofList (List.replicate (plan.width - sign.length - digits.length) '0') ++ digits
  else rightIn plan.width text

def Plan.line (plan : Plan) (p : Place) (line : List Char) : String × Place :=
  let section? : Option Style :=
    match String.ofList line with
    | "\\:\\:\\:" => some plan.head
    | "\\:\\:" => some plan.body
    | "\\:" => some plan.foot
    | _ => none
  match section? with
  | some style =>
    ("\n", ⟨if plan.goesOn || line.length ≠ 6 then p.next else plan.start, style⟩)
  | none =>
    if p.style = .all || (p.style = .filled && line ≠ []) then
      (plan.number p.next ++ plan.separator ++ String.ofList line ++ "\n",
        { p with next := p.next + plan.step })
    else
      let blanks := List.replicate (plan.width + plan.separator.length) ' '
      (String.ofList (blanks ++ line) ++ "\n", p)

def style? : String → Option Style
  | "a" => some .all
  | "t" => some .filled
  | "n" => some .none
  | _ => none

end Numbering

def numberLines : Program := fun n program args => do
  let u : Usage :=
    { letters := "p"
      valued := "bdfhilnsvw"
      names := [("body-numbering", 'b'), ("number-format", 'n'), ("number-width", 'w'),
        ("number-separator", 's'), ("starting-line-number", 'v'), ("line-increment", 'i'),
        ("no-renumber", 'p'), ("header-numbering", 'h'), ("footer-numbering", 'f')] }
  withUsage u program args fun r => do
    let style (letter : Char) (what usual : String) : Except String Numbering.Style :=
      let text := (r.value? letter).getD usual
      match Numbering.style? text with
      | some s => .ok s
      | none => .error (s!"invalid {what} numbering style: " ++ Quoted.plain text)
    let number (letter : Char) (what : String) (usual : Int) : Except String Int :=
      match r.value? letter with
      | none => .ok usual
      | some text =>
        match number? 10 text with
        | some n =>
          if letter = 'w' && n ≤ 0 then
            .error (s!"invalid {what}: " ++ Quoted.plain text ++ ": Numerical result out of range")
          else .ok n
        | none => .error (s!"invalid {what}: " ++ Quoted.plain text)
    let form := (r.value? 'n').getD "rn"
    let planned : Except String Numbering.Plan := do
      let body ← style 'b' "body" "t"
      let head ← style 'h' "header" "n"
      let foot ← style 'f' "footer" "n"
      let width ← number 'w' "line number field width" 6
      let start ← number 'v' "starting line number" 1
      let step ← number 'i' "line number increment" 1
      unless ["ln", "rn", "rz"].contains form do
        throw ("invalid line numbering format: " ++ Quoted.plain form)
      return {
        body, head, foot, left := form = "ln", zeros := form = "rz", width := width.toNat
        separator := (r.value? 's').getD "\t", start, step, goesOn := r.has 'p' }
    match planned with
    | .error e => Act.failed program e 1
    | .ok plan =>
      let step (p : Numbering.Place) (lines : List (List Char)) : Act Numbering.Place := do
        let (texts, p) := (lines.map (bare '\n')).foldl (fun (texts, p) line =>
          let (text, p) := plan.line p line
          (text :: texts, p)) ([], p)
        Act.outputText program (String.join texts.reverse).toList
        return p
      Act.finish 0
      let _ ← Act.eachLine '\n' n program {} step r.inputs ⟨plan.start, plan.body⟩

def recordsOf (separator : List Char) (before : Bool) (text : List Char) : List (List Char) :=
  let rec go : Nat → List Char → List Char → List (List Char)
    | 0, _, _ => []
    | _ + 1, part, [] => if part = [] then [] else [part.reverse]
    | n + 1, part, c :: s =>
      if separator.isPrefixOf (c :: s) then
        let rest := (c :: s).drop separator.length
        if before then
          (if part = [] then [] else [part.reverse]) ++ go n separator.reverse rest
        else (part.reverse ++ separator) :: go n [] rest
      else go n (c :: part) s
  go (text.length + 1) [] text

/-- Shows the lines of each input from the last one to the first. -/
def reverseOrder : Program := fun _ program args => do
  let u : Usage :=
    { letters := "b"
      valued := "s"
      names := [("before", 'b'), ("separator", 's')] }
  withUsage u program args fun r => do
    let separator := ((r.value? 's').getD "\n").toList
    let separator := if separator = [] then ['\x00'] else separator
    let told (arg : String) (fault : InputFault) : String :=
      if fault.atOpening then
        s!"failed to open {Quoted.always arg} for reading: {fault.why}"
      else
        let why := if fault.why = FileError.isAFolder.cause then FileError.intoItself.cause
          else fault.why
        let name := if arg = "-" then "standard input" else arg
        toldAfter name s!"read error: {why}"
    let use (_ : Unit) (_ : String) (stream : Nat) : Act (Except String Unit) := do
      match ← Act.takeAll stream with
      | .error e => return .error e
      | .ok bytes =>
        let records := recordsOf separator (r.has 'b') (Text.ofBytes bytes)
        Act.outputText program records.reverse.flatten
        return .ok ()
    Act.finish 0
    let _ ← Act.eachInput program { told } use r.inputs ()

def reverseLines : Program := fun n program args => do
  withUsage { letters := "0" } program args fun r => do
    let turned (line : List Char) : List Char :=
      let text := bare '\n' line
      text.reverse ++ line.drop text.length
    let told (arg : String) (fault : InputFault) : String :=
      if fault.atOpening then s!"cannot open {arg}: {fault.why}" else s!"{arg}: {fault.why}"
    let step (_ : Unit) (lines : List (List Char)) : Act Unit :=
      Act.outputText program (lines.flatMap turned)
    Act.finish 0
    Act.eachLine '\n' n program { told } step r.inputs ()

def columnAfter (bytes : Bool) (column : Nat) (c : Char) : Nat :=
  if bytes then column + 1
  else
    match c with
    | '\x08' => column - 1
    | '\r' => 0
    | '\t' => column + 8 - column % 8
    | _ => column + 1

def folded (width : Nat) (bytes blanks : Bool) (line : List Char) : List Char :=
  let rec go : Nat → List Char → Nat → List Char → List Char
    | 0, held, _, _ => held.reverse
    | _ + 1, held, _, [] => held.reverse
    | n + 1, held, column, c :: s =>
      if c = '\n' then held.reverse ++ '\n' :: go n [] 0 s
      else
        let after := columnAfter bytes column c
        if width < after then
          let (late, early) := held.span (!isBlank ·)
          if blanks && early ≠ [] then
            let start := late.reverse.foldl (columnAfter bytes) 0
            early.reverse ++ '\n' :: go n late start (c :: s)
          else if held = [] then go n [c] after s
          else held.reverse ++ '\n' :: go n [] 0 (c :: s)
        else go n (c :: held) after s
  go (3 * line.length + 3) [] 0 line

def fold : Program := fun n program args => do
  let u : Usage :=
    { letters := "bs"
      valued := "w"
      names := [("bytes", 'b'), ("spaces", 's'), ("width", 'w')] }
  let plain (a : String) : String :=
    match a.toList with
    | '-' :: c :: cs => if (c :: cs).all Char.isDigit then "-w" ++ String.ofList (c :: cs) else a
    | _ => a
  withUsage u program (args.map plain) fun r => do
    let text := (r.value? 'w').getD "80"
    let wrong := "invalid number of columns: " ++ Quoted.plain text
    match text.toNat? with
    | none => Act.failed program wrong 1
    | some 0 => Act.failed program (wrong ++ ": Numerical result out of range") 1
    | some width =>
      let step (_ : Unit) (lines : List (List Char)) : Act Unit :=
        Act.outputText program (lines.flatMap (folded width (r.has 'b') (r.has 's')))
      Act.finish 0
      Act.eachLine '\n' n program {} step r.inputs ()

/-- The next column at which a tab ends; after the last one a tab is one blank. -/
def nextStop (stops : List Nat) (column : Nat) : Nat :=
  match stops with
  | [] => column + 8 - column % 8
  | [k] => column + k - column % k
  | stops => (stops.find? (column < ·)).getD (column + 1)

/-- A line with blanks instead of tabs, those at its front only if asked for. -/
def expanded (stops : List Nat) (front : Bool) (line : List Char) : List Char :=
  let rec go (column : Nat) (inFront : Bool) : List Char → List Char
    | [] => []
    | c :: s =>
      if c = '\t' && (inFront || !front) then
        let stop := nextStop stops column
        List.replicate (stop - column) ' ' ++ go stop inFront s
      else
        let after := if c = '\t' then nextStop stops column else columnAfter false column c
        c :: go after (inFront && isBlank c) s
  go 0 true line

def expandTabs : Program := fun n program args => do
  let u : Usage :=
    { letters := "i"
      valued := "t"
      names := [("initial", 'i'), ("tabs", 't')] }
  let plain (a : String) : String :=
    match a.toList with
    | '-' :: c :: cs => if c.isDigit then "-t" ++ String.ofList (c :: cs) else a
    | _ => a
  withUsage u program (args.map plain) fun r => do
    let text := (r.value? 't').getD "8"
    match (text.splitOn ",").mapM (·.toNat?) with
    | none =>
      Act.failed program ("tab size contains invalid character(s): " ++ Quoted.plain text) 1
    | some stops =>
      if stops.contains 0 then Act.failed program "tab size cannot be 0" 1
      else
        let step (_ : Unit) (lines : List (List Char)) : Act Unit :=
          Act.outputText program (lines.flatMap (expanded stops (r.has 'i')))
        Act.finish 0
        Act.eachLine '\n' n program {} step r.inputs ()

end Cutover.Shell
