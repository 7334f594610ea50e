import Cutover.Shell.Folder
import Cutover.Shell.Program.Input

/-!
# Programs that print their arguments

The shell has commands of the same names, which differ in what they say of faults.
-/
namespace Cutover.Shell

/-- Whether an argument is made of the letters of options. -/
def isEchoOption (a : String) : Bool :=
  match a.toList with
  | '-' :: c :: cs => (c :: cs).all "neE".toList.contains
  | _ => false

/-- Reads up to so many digits in base 16. -/
def readHex (most : Nat) (s : List Char) : Nat × List Char :=
  let digits := (s.take most).takeWhile (isDigitIn 16)
  (digitsValue 16 digits, s.drop digits.length)

def numberedChar (width n : Nat) : List Char :=
  if n < 128 then [Char.ofNat n]
  else
    let digits := (Nat.toDigits 16 n).map Char.toUpper
    if n < 65536 then '\\' :: 'u' :: atLeast 4 digits else '\\' :: 'U' :: atLeast width digits

def readProgramEscape (s : List Char) : Option (List Char × List Char) :=
  let number (most : Nat) (s : List Char) : Option (List Char × List Char) :=
    let (n, rest) := readHex most s
    some (numberedChar most n, rest)
  match s with
  | 'c' :: _ => none
  | '\x22' :: s => some (['\x22'], s)
  | 'x' :: c :: s =>
    if isDigitIn 16 c then
      let (n, rest) := readHex 2 (c :: s)
      some ([byteChar n], rest)
    else some (['\\', 'x'], c :: s)
  | 'u' :: s => number 4 s
  | 'U' :: s => number 8 s
  | s =>
    let (c, rest) := readEscape s
    some ([c], rest)

/-- A text with its escapes replaced, as programs know them, and whether one ends all printing.
An octal number may have one more zero in front. -/
def unescapeFully : Nat → List Char → List Char × Bool
  | 0, _ => ([], false)
  | _ + 1, [] => ([], false)
  | n + 1, '\\' :: s =>
    let s := match s with
      | '0' :: d :: r => if isOctal d then d :: r else s
      | s => s
    match readProgramEscape s with
    | some (text, s) =>
      let (rest, ended) := unescapeFully n s
      (text ++ rest, ended)
    | none => ([], true)
  | n + 1, c :: s =>
    let (rest, ended) := unescapeFully n s
    (c :: rest, ended)

/-- Whether what stands in front of the letter of a directive does not fit it. -/
def isUnfitFor (front : List Char) (letter : Char) : Bool :=
  let flags := front.takeWhile "#-+ 0\x27I".toList.contains
  let bars (flag : Char) (letters : String) : Bool :=
    flags.contains flag && letters.toList.contains letter
  bars '#' "cdisu" || bars '0' "cs" || bars '\x27' "aAceEosxX" || bars 'I' "aAceEosxX" ||
    front.contains '.' && letter = 'c' || "bq".toList.contains letter && front ≠ []

def programManner : FormatManner where
  escape := readProgramEscape
  unescape s := unescapeFully (s.length + 1) s.toList
  shown letter := if letter = 'q' then some Quoted.ifNeeded else none
  flags := "#-+ 0\x27I".toList
  sizes := "hlLjtz".toList
  isUnfit := isUnfitFor
  strict := true
  precision := .extended
  invalid := "invalid conversion specification"
  unfinished s := "%" ++ String.ofList s ++ ": invalid conversion specification"
  tooWide := "write error"

/-- Prints arguments with blanks between them. -/
def echoArguments : Program := fun _ program args => do
  let letters := ((args.takeWhile isEchoOption).map fun a => a.toList.drop 1).flatten
  let args := args.dropWhile isEchoOption
  let escapes := (letters.filter (· ≠ 'n')).getLast? = some 'e'
  let text := (" ".intercalate args).toList
  let (text, ended) := if escapes then unescapeFully (text.length + 1) text else (text, false)
  let text := if letters.contains 'n' || ended then text else text ++ ['\n']
  Act.finish 0
  Act.outputText program text

def NumberFault.told : NumberFault → String
  | absent => "expected a numeric value"
  | incomplete => "value not completely converted"
  | tooLarge => "Numerical result out of range"
  | surplus rest =>
    s!"{rest}: character(s) following character constant have been ignored"

def formatArguments : Program := fun _ program args => do
  match if args.head? = some "--" then args.tail else args with
  | [] => Act.misused program "missing operand" 1
  | format :: args =>
    let f := Formatting.all format.toList (args.length + 1) { manner := programManner, args }
    let isSurplus : NumberFault → Bool
      | .surplus _ => true
      | _ => false
    Act.finish (if f.faults.all fun e => isSurplus e.2 then 0 else 1)
    for part in f.parts.reverse do
      match part with
      | .text text => Act.outputText program text
      | .fault arg why =>
        let front := if isSurplus why then "warning: " else Quoted.plain arg ++ ": "
        Act.change (·.complain program (front ++ why.told))
    match f.fault, f.args with
    | some e, _ => Act.failed program e 1
    | none, [] => pure ()
    | none, a :: _ =>
      unless f.used || f.ended do
        Act.change (·.complain program
          ("warning: ignoring excess arguments, starting with " ++ Quoted.plain a))

def printFolder : Program := fun _ program args => do
  let u : Usage := { letters := "LP", names := [("logical", 'L'), ("physical", 'P')] }
  withUsage u program args fun r => do
    unless r.operands.isEmpty do
      Act.change (·.complain program "ignoring non-option arguments")
    let logical := (r.options.getLast?.map (·.1)) = some 'L'
    let s ← Act.state
    let told := (s.value? "PWD").filter fun path =>
      Path.isAbsolute path && !(path.splitOn "/").any (fun p => p = "." || p = "..") &&
        match s.locate path with
        | .ok (p, some _) => s.files.number? p = some s.process.folder
        | _ => false
    match if logical then told else none, s.folder? with
    | some path, _ =>
      Act.finish 0
      Act.outputText program (path ++ "\n").toList
    | none, some place =>
      Act.finish 0
      Act.outputText program (pathOf place ++ "\n").toList
    | none, none =>
      Act.failed program ("couldn't find directory entry in '..' with matching i-node") 1

end Cutover.Shell
