import Cutover.Shell.Program.Usage
import Cutover.Shell.Regular.Reader

/-!
# Terms

A program whose arguments are the parts of one term: numbers and texts with signs between them.
What is left out because the other side of a choice decides is read but not worked out.
-/
namespace Cutover.Shell

namespace Term

/-- What a term comes to. -/
inductive Value where
  | number (n : Int)
  | text (s : String)

def Value.shown : Value → String
  | number n => toString n
  | text s => s

def Value.number? : Value → Option Int
  | number n => some n
  | text s =>
    let digits (cs : List Char) : Option Int :=
      if cs ≠ [] && cs.all Char.isDigit then some (digitsValue 10 cs) else none
    match s.toList with
    | '-' :: cs => (digits cs).map (- ·)
    | cs => digits cs

def Value.isNone : Value → Bool
  | number n => n = 0
  | text s =>
    match s.toList with
    | [] => true
    | '-' :: cs => cs ≠ [] && cs.all (· = '0')
    | cs => cs.all (· = '0')

/-- What is wrong with a term. -/
structure Fault where
  message : String

/-- What is left of the arguments, and the last one that has been taken. -/
structure Reading where
  rest : List String
  last : String := ""

def Reading.next (r : Reading) : Except Fault (String × Reading) :=
  match r.rest with
  | [] => .error ⟨"syntax error: missing argument after " ++ Quoted.plain r.last⟩
  | a :: rest => .ok (a, ⟨rest, a⟩)

/-- Takes one of some arguments if it comes next. -/
def Reading.oneOf? (r : Reading) (signs : List String) : Option (String × Reading) :=
  match r.rest with
  | a :: rest => if signs.contains a then some (a, ⟨rest, a⟩) else none
  | [] => none

def truth (b : Bool) : Value := .number (if b then 1 else 0)

def compared (sign : String) (a b : Value) : Value :=
  let order := match a.number?, b.number? with
    | some m, some n => compare m n
    | _, _ => compare a.shown b.shown
  truth (match sign with
    | "<" => order = .lt
    | "<=" => order ≠ .gt
    | "=" | "==" => order = .eq
    | "!=" => order ≠ .eq
    | ">=" => order ≠ .lt
    | _ => order = .gt)

/-- Works out two numbers with a sign between them. -/
def computed (sign : String) (a b : Value) : Except Fault Value :=
  match a.number?, b.number? with
  | some m, some n =>
    match sign with
    | "+" => .ok (.number (m + n))
    | "-" => .ok (.number (m - n))
    | "*" => .ok (.number (m * n))
    | _ =>
      if n = 0 then .error ⟨"division by zero"⟩
      else .ok (.number (if sign = "/" then m.tdiv n else m.tmod n))
  | _, _ => .error ⟨"non-integer argument"⟩

/-- What a text has at its front that an expression stands for: its first group, or its length. -/
def matched (a b : Value) : Except Fault Value :=
  let dialect : Regular.Dialect := { extended := false, strict := true, emptyRanges := true }
  match dialect.read b.shown.toList with
  | .error e => .error ⟨e⟩
  | .ok r =>
    let t : Regular.Subject := { text := a.shown.toList.toArray, exact := r.refers }
    let hasGroup := (b.shown.splitOn "\\(").length ≠ 1
    match r.find? t (fun _ _ => true) 1 0 with
    | some found =>
      .ok (if hasGroup then .text (String.ofList (found.part t.text 1)) else .number found.stop)
    | none => .ok (if hasGroup then .text "" else .number 0)

def part (text start length : Value) : Value :=
  match start.number?, length.number? with
  | some i, some n =>
    if i ≤ 0 || n ≤ 0 then .text ""
    else .text (String.ofList ((text.shown.toList.drop (i.toNat - 1)).take n.toNat))
  | _, _ => .text ""

def place (text chars : Value) : Value :=
  match text.shown.toList.findIdx? chars.shown.toList.contains with
  | some i => .number (i + 1)
  | none => .number 0

/-- The signs between terms, those that bind less first. -/
def levels : List (List String) :=
  [["|"], ["&"], ["<", "<=", "=", "==", "!=", ">=", ">"], ["+", "-"], ["*", "/", "%"], [":"]]

def joined (sign : String) (a b : Value) : Except Fault Value :=
  match sign with
  | "|" => .ok (if !a.isNone then a else if b.isNone then .number 0 else b)
  | "&" => .ok (if a.isNone || b.isNone then .number 0 else a)
  | ":" => matched a b
  | "+" | "-" | "*" | "/" | "%" => computed sign a b
  | _ => .ok (compared sign a b)

def goesOn (sign : String) (a : Value) : Bool :=
  match sign with
  | "|" => a.isNone
  | "&" => !a.isNone
  | _ => true

mutual

def read : Nat → List (List String) → Bool → Reading → Except Fault (Value × Reading)
  | 0, _, _, _ => .error ⟨"syntax error"⟩
  | n + 1, [], counts, r => single n counts r
  | n + 1, level :: inner, counts, r => do
    let (a, r) ← read n inner counts r
    readMore n level inner counts a r

def readMore : Nat → List String → List (List String) → Bool → Value → Reading →
    Except Fault (Value × Reading)
  | 0, _, _, _, _, _ => .error ⟨"syntax error"⟩
  | n + 1, level, inner, counts, a, r => do
    match r.oneOf? level with
    | none => return (a, r)
    | some (sign, r) =>
      let (b, r) ← read n inner (counts && goesOn sign a) r
      let v ← if counts then
          if goesOn sign a then joined sign a b else joined sign a (.number 0)
        else pure a
      readMore n level inner counts v r

/-- Reads one argument, or a word with those that it is about, or a term between brackets. -/
def single : Nat → Bool → Reading → Except Fault (Value × Reading)
  | 0, _, _ => .error ⟨"syntax error"⟩
  | n + 1, counts, r => do
    let (a, after) ← r.next
    match a with
    | "+" =>
      let (word, r) ← after.next
      return (.text word, r)
    | "length" =>
      let (v, r) ← single n counts after
      return (.number v.shown.length, r)
    | "match" =>
      let (v, r) ← single n counts after
      let (w, r) ← single n counts r
      let found ← if counts then matched v w else pure v
      return (found, r)
    | "index" =>
      let (v, r) ← single n counts after
      let (w, r) ← single n counts r
      return (place v w, r)
    | "substr" =>
      let (v, r) ← single n counts after
      let (i, r) ← single n counts r
      let (k, r) ← single n counts r
      return (part v i k, r)
    | "(" =>
      let (v, r) ← read n levels counts after
      match r.rest with
      | [] => .error ⟨"syntax error: expecting ')' after " ++ Quoted.plain r.last⟩
      | ")" :: rest => return (v, ⟨rest, ")"⟩)
      | a :: _ => .error ⟨"syntax error: expecting ')' instead of " ++ Quoted.plain a⟩
    | ")" => .error ⟨"syntax error: unexpected ')'"⟩
    | _ => return (.text a, after)

end

end Term

/-- Works out the term that the arguments make. -/
def evaluate : Program := fun _ program args => do
  let args := if args.head? = some "--" then args.tail else args
  match args with
  | [] => Act.misused program "missing operand" 2
  | args =>
    match Term.read ((args.length + 1) * 16) Term.levels true ⟨args, program⟩ with
    | .error e => Act.failed program e.message 2
    | .ok (v, r) =>
      match r.rest with
      | extra :: _ =>
        Act.failed program ("syntax error: unexpected argument " ++ Quoted.plain extra) 2
      | [] =>
        Act.finish (if v.isNone then 1 else 0)
        Act.outputText program (v.shown ++ "\n").toList

end Cutover.Shell
