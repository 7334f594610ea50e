/-!
# Modes

Who may do what with a file: three bits each for its owner, its group and all others, and three
more for special uses. A change is written as clauses with commas between them, each of which
tells for whom something is added, taken away or set.
-/
namespace Cutover.Mode

/-- One step of a change: for whom, in what way, and the letters of what is allowed. -/
structure Step where
  /-- The bits that the step is about; none stand for all. -/
  who : Nat
  sign : Char
  letters : List Char

def bitsOf (c : Char) : Nat :=
  match c with
  | 'u' => 0o4700
  | 'g' => 0o2070
  | 'o' => 0o1007
  | _ => 0o7777

def isSign (c : Char) : Bool := c == '=' || c == '+' || c == '-'

def stepsFor (who : Nat) : Nat → List Char → Option (List Step)
  | 0, _ => none
  | _ + 1, [] => some []
  | n + 1, c :: s =>
    if isSign c then
      let letters := s.takeWhile (!isSign ·)
      (stepsFor who n (s.drop letters.length)).map (⟨who, c, letters⟩ :: ·)
    else none

def stepsOf? (clause : List Char) : Option (List Step) :=
  let front := clause.takeWhile "ugoa".toList.contains
  match clause.drop front.length with
  | [] => none
  | rest => stepsFor (front.foldl (fun bits c => bits ||| bitsOf c) 0) (rest.length + 1) rest

/-- The bits in three that letters allow, as they stand for one of the three. The letters of
others stand for what `mode` allows these, and one for the use of what may be used already. -/
def allowed (mode : Nat) (usable : Bool) (letters : List Char) : Nat :=
  letters.foldl (fun bits c =>
    bits ||| match c with
      | 'r' => 4
      | 'w' => 2
      | 'x' => 1
      | 'X' => if usable then 1 else 0
      | 'u' => mode / 64 % 8
      | 'g' => mode / 8 % 8
      | 'o' => mode % 8
      | _ => 0) 0

def special (letters : List Char) : Nat :=
  letters.foldl (fun bits c =>
    bits ||| match c with
      | 's' => 0o6000
      | 't' => 0o1000
      | _ => 0) 0

/-- The mode after a step. Letters are taken to stand for what is in `before`. Where nobody is
named the step is about all, but allows nothing that the mask does not. -/
def Step.apply (s : Step) (before mask : Nat) (usable : Bool) (mode : Nat) : Nat :=
  let who := if s.who = 0 then 0o7777 else s.who
  let free := if s.who = 0 then 0o7777 - mask % 512 else 0o7777
  let three := allowed before usable s.letters
  let bits := (three * 0o111 ||| special s.letters) &&& who &&& free
  let others := if s.who = 0 then 0 else 0o7777 - who
  match s.sign with
  | '+' => mode ||| bits
  | '-' => mode &&& (0o7777 - bits)
  | _ => (mode &&& others) ||| bits

/-- Whether the letters of a step are known: several that allow something, or one of those whom
a mode is about. -/
def Step.isKnown (s : Step) : Bool :=
  s.letters.all "rwxXst".toList.contains ||
    (s.letters.length = 1 && s.letters.all "ugo".toList.contains)

/-- A change of a mode. -/
inductive Change where
  | exact (mode : Nat)
  | steps (all : List Step)

def change? (text : String) : Option Change :=
  let digits := text.toList
  if digits ≠ [] && digits.all fun c => '0' ≤ c && c ≤ '7' then
    let mode := digits.foldl (fun n c => 8 * n + (c.toNat - '0'.toNat)) 0
    if mode < 4096 then some (.exact mode) else none
  else
    match (text.splitOn ",").mapM fun clause => stepsOf? clause.toList with
    | some steps => if steps.flatten.all (·.isKnown) then some (.steps steps.flatten) else none
    | none => none

def Change.apply (c : Change) (isFolder : Bool) (mask mode : Nat) : Nat :=
  match c with
  | .exact mode => mode
  | .steps all =>
    all.foldl (fun mode s => s.apply mode mask (isFolder || mode &&& 0o111 ≠ 0) mode) mode

def text (mode : Nat) : String :=
  let three (bits special : Nat) (letter : Char) : List Char :=
    let x := bits % 2 = 1
    let last := if special % 2 = 0 then if x then 'x' else '-'
      else if x then letter else letter.toUpper
    [if bits / 4 % 2 = 1 then 'r' else '-', if bits / 2 % 2 = 1 then 'w' else '-', last]
  String.ofList (three (mode / 64) (mode / 2048) 's' ++ three (mode / 8) (mode / 1024) 's' ++
    three mode (mode / 512) 't')

def digits (mode : Nat) : String :=
  let ds := Nat.toDigits 8 mode
  String.ofList (List.replicate (4 - ds.length) '0' ++ ds)

end Cutover.Mode
