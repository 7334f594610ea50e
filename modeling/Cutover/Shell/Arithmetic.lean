import Cutover.Shell.Number
import Cutover.Shell.State

/-!
# Arithmetic of shell scripts

Expressions are worked out while they are read. A part whose value does not matter is read
all the same, and changes nothing.
-/
namespace Cutover.Shell.Arithmetic

/-- What an expression is made of. -/
inductive Sign where
  | number (n : Int)
  | name (s : String)
  | operator (s : String)
  | alien
  deriving DecidableEq, Repr

/-- The operators, of two that begin alike the longer one first. -/
def operators : List String :=
  ["<<=", ">>=", "<<", ">>", "<=", ">=", "==", "!=", "&&", "||", "*=", "/=", "%=", "+=", "-=",
    "&=", "^=", "|=", "<", ">", "=", "!", "~", "&", "|", "^", "*", "/", "%", "+", "-", "?", ":",
    "(", ")"]

/-- The operators with two operands, the loosest first. -/
def levels : List (List String) :=
  [["|"], ["^"], ["&"], ["==", "!="], ["<", "<=", ">", ">="], ["<<", ">>"], ["+", "-"],
    ["*", "/", "%"]]

/-- The signs of a text. Every step takes a character. -/
def signs : Nat → List Char → List Sign
  | 0, _ => []
  | _ + 1, [] => []
  | n + 1, c :: s =>
    if c = ' ' || c = '\t' || c = '\n' then signs n s
    else if c.isDigit then
      match readDigits 0 (c :: s) with
      | some (v, rest) => .number (clip least greatest v []).value :: signs n rest
      | none => [.alien]
    else if isNameStart c then
      .name (String.ofList ((c :: s).takeWhile isNameRest)) ::
        signs n ((c :: s).dropWhile isNameRest)
    else
      match operators.find? fun op => op.toList.isPrefixOf (c :: s) with
      | some op => .operator op :: signs n ((c :: s).drop op.length)
      | none => [.alien]

/-- An expression under way. -/
structure Work where
  signs : List Sign
  state : State
  text : String

abbrev Working (α : Type) := StateT Work (Except String) α

def fault {α : Type} (message : String) : Working α := do
  let text := (← get).text
  throw s!"arithmetic expression: {message}: \x22{text}\x22"

def sign? : Working (Option Sign) := return (← get).signs.head?

def advance : Working Unit := modify fun w => { w with signs := w.signs.tail }

/-- Takes the next sign if it is one of these operators. -/
def accept (ops : List String) : Working (Option String) := do
  match ← sign? with
  | some (.operator op) =>
    if ops.contains op then
      advance
      return some op
    return none
  | _ => return none

def ofBool (b : Bool) : Int := if b then 1 else 0

def places (b : Int) : Nat := (b % 64).toNat

def bitwise (f : BitVec 64 → BitVec 64 → BitVec 64) (a b : Int) : Int :=
  (f (BitVec.ofInt 64 a) (BitVec.ofInt 64 b)).toInt

def apply (op : String) (a b : Int) : Working Int :=
  match op with
  | "*" => return wrap (a * b)
  | "/" => if b = 0 then fault "division by zero" else return wrap (a.tdiv b)
  | "%" => if b = 0 then fault "division by zero" else return wrap (a.tmod b)
  | "+" => return wrap (a + b)
  | "-" => return wrap (a - b)
  | "<<" => return wrap (a * (Nat.pow 2 (places b) : Nat))
  | ">>" => return a / (Nat.pow 2 (places b) : Nat)
  | "<" => return ofBool (a < b)
  | "<=" => return ofBool (a ≤ b)
  | ">" => return ofBool (b < a)
  | ">=" => return ofBool (b ≤ a)
  | "==" => return ofBool (a = b)
  | "!=" => return ofBool (a ≠ b)
  | "&" => return bitwise (· &&& ·) a b
  | "^" => return bitwise (· ^^^ ·) a b
  | _ => return bitwise (· ||| ·) a b

def valueOf (name : String) : Working Int := do
  let text := ((← get).state.value? name).getD ""
  match number? 0 text with
  | some n => return n
  | none => throw (noNumber text)

def inside (op : String) : String := String.ofList op.toList.dropLast

mutual

/-- Works out an expression; `idle` tells that its value does not matter. -/
def expression : Nat → Bool → Working Int
  | 0, _ => fault "expecting primary"
  | n + 1, idle => do
    match (← get).signs with
    | .name x :: .operator op :: rest =>
      if ["=", "<<=", ">>=", "*=", "/=", "%=", "+=", "-=", "&=", "^=", "|="].contains op then
        modify ({ · with signs := rest })
        let b ← expression n idle
        if idle then return b
        let v ← if op = "=" then pure b else apply (inside op) (← valueOf x) b
        match (← get).state.assigned x (toString v) false with
        | .ok state =>
          modify ({ · with state })
          return v
        | .error e => throw e
      else condition n idle
    | _ => condition n idle

/-- Works out a choice between two values, or what stands in its place. -/
def condition : Nat → Bool → Working Int
  | 0, _ => fault "expecting primary"
  | n + 1, idle => do
    let a ← either n idle
    match ← accept ["?"] with
    | none => return a
    | some _ =>
      let b ← expression n (idle || a = 0)
      match ← accept [":"] with
      | none => fault "expecting ':'"
      | some _ =>
        let c ← condition n (idle || a ≠ 0)
        return if a ≠ 0 then b else c

def either : Nat → Bool → Working Int
  | 0, _ => fault "expecting primary"
  | n + 1, idle => do
    let a ← both n idle
    match ← accept ["||"] with
    | none => return a
    | some _ =>
      let b ← either n (idle || a ≠ 0)
      return ofBool (a ≠ 0 || b ≠ 0)

def both : Nat → Bool → Working Int
  | 0, _ => fault "expecting primary"
  | n + 1, idle => do
    let a ← operand n levels idle
    match ← accept ["&&"] with
    | none => return a
    | some _ =>
      let b ← both n (idle || a = 0)
      return ofBool (a ≠ 0 && b ≠ 0)

/-- Works out operands joined by operators of some levels. -/
def operand : Nat → List (List String) → Bool → Working Int
  | 0, _, _ => fault "expecting primary"
  | n + 1, [], idle => primary n idle
  | n + 1, ops :: tighter, idle => do
    let a ← operand n tighter idle
    operandRest n ops tighter idle a

def operandRest : Nat → List String → List (List String) → Bool → Int → Working Int
  | 0, _, _, _, _ => fault "expecting primary"
  | n + 1, ops, tighter, idle, a => do
    match ← accept ops with
    | none => return a
    | some op =>
      let b ← operand n tighter idle
      let v ← if idle then pure b else apply op a b
      operandRest n ops tighter idle v

def primary : Nat → Bool → Working Int
  | 0, _ => fault "expecting primary"
  | n + 1, idle => do
    match ← sign? with
    | some (.number v) =>
      advance
      return v
    | some (.name x) =>
      advance
      if idle then return 0
      valueOf x
    | some (.operator "(") =>
      advance
      let v ← expression n idle
      match ← accept [")"] with
      | some _ => return v
      | none => fault "expecting ')'"
    | some (.operator "+") =>
      advance
      primary n idle
    | some (.operator "-") =>
      advance
      return wrap (-(← primary n idle))
    | some (.operator "!") =>
      advance
      return ofBool ((← primary n idle) = 0)
    | some (.operator "~") =>
      advance
      return -(← primary n idle) - 1
    | _ => fault "expecting primary"

end

/-- The value of an expression, and the state in which it has set what it sets. -/
def eval (text : String) (s : State) : Except String (Int × State) := do
  let cs := text.toList
  let (v, w) ← (expression (16 * cs.length + 16) false).run
    { signs := signs (cs.length + 1) cs, state := s, text }
  if w.signs.isEmpty then return (v, w.state)
  throw s!"arithmetic expression: expecting EOF: \x22{text}\x22"

end Cutover.Shell.Arithmetic
