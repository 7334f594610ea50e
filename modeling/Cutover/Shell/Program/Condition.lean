import Cutover.Shell.Program.Usage
import Cutover.Shell.Question

/-!
# Conditions as programs

The program that answers questions about texts, numbers and files. It tells operators from
operands by their number first.
-/
namespace Cutover.Shell.Condition

/-- The operators between two operands. -/
def binary : List String :=
  ["=", "!=", "==", "-nt", "-ot", "-ef", "-eq", "-ne", "-lt", "-le", "-gt", "-ge"]

/-- Whether a text has the form of an operator in front of one operand. -/
def isUnaryForm (a : String) : Bool := a.length = 2 && a.startsWith "-"

/-- The answer to a question and the arguments after it, or what is wrong. -/
abbrev Answer := Except String (Bool × List String)

/-- The last of all arguments has nothing after it. -/
def beyond (all : List String) : Answer :=
  .error ("missing argument after " ++ Quoted.plain (all.getLast?.getD ""))

def askOne (s : State) (all : List String) : List String → Answer
  | op :: rest =>
    if Question.unary.contains op then
      match rest with
      | [] => beyond all
      | a :: rest =>
        match Question.askOne s op a with
        | .ok b => .ok (b, rest)
        | .error _ => .error ("invalid integer " ++ Quoted.plain a)
    else .error (Quoted.plain op ++ ": unary operator expected")
  | [] => beyond all

/-- Whether a file was changed after another one, which may be missing. -/
def isNewer (s : State) (a b : String) : Bool :=
  match s.nodeAt? a, s.nodeAt? b with
  | some a, some b => a.isNewer b
  | some _, none => true
  | none, _ => false

def askTwo (s : State) : List String → Answer
  | a :: op :: b :: rest =>
    let answer : Except String Bool := match op with
      | "==" => .ok (a = b)
      | "-nt" => .ok (isNewer s a b)
      | "-ot" => .ok (isNewer s b a)
      | op => Question.askTwo s a op b
    match answer with
    | .ok answer => .ok (answer, rest)
    | .error _ =>
      let wrong := if (number? 10 a).isNone then a else b
      .error ("invalid integer " ++ Quoted.plain wrong)
  | rest => .ok (false, rest)

/-- Whether an operator between two operands stands second. -/
def isBinary : List String → Bool
  | _ :: op :: _ :: _ => binary.contains op
  | _ => false

def askPlain (all : List String) : List String → Answer
  | a :: rest => .ok (a ≠ "", rest)
  | [] => beyond all

def two (s : State) (all args : List String) : Answer :=
  match args with
  | "!" :: rest => (askPlain all rest).map fun (b, rest) => (!b, rest)
  | a :: _ => if isUnaryForm a then askOne s all args else beyond all
  | [] => beyond all

mutual

def counted : Nat → State → List String → Nat → List String → Answer
  | 0, _, _, _, args => .ok (false, args)
  | n + 1, s, all, count, args =>
    match count, args with
    | 1, _ => askPlain all args
    | 2, _ => two s all args
    | 3, _ => three n s all args
    | 4, "!" :: rest => (three n s all rest).map fun (b, rest) => (!b, rest)
    | 4, "(" :: a :: b :: ")" :: rest =>
      (two s all [a, b]).map fun (b, _) => (b, rest)
    | _, _ => any n s all args

def three : Nat → State → List String → List String → Answer
  | 0, _, _, args => .ok (false, args)
  | n + 1, s, all, args =>
    if isBinary args then askTwo s args
    else
      match args with
      | "!" :: rest => (two s all rest).map fun (b, rest) => (!b, rest)
      | "(" :: a :: ")" :: rest => .ok (a ≠ "", rest)
      | _ :: op :: _ =>
        if op = "-a" || op = "-o" then any n s all args
        else .error (Quoted.plain op ++ ": binary operator expected")
      | _ => beyond all

def any : Nat → State → List String → List String → Answer
  | 0, _, _, args => .ok (false, args)
  | n + 1, s, all, args => do
    let (a, rest) ← both n s all args
    match rest with
    | "-o" :: rest =>
      let (b, rest) ← any n s all rest
      return (a || b, rest)
    | rest => return (a, rest)

def both : Nat → State → List String → List String → Answer
  | 0, _, _, args => .ok (false, args)
  | n + 1, s, all, args => do
    let (a, rest) ← one n s all args
    match rest with
    | "-a" :: rest =>
      let (b, rest) ← both n s all rest
      return (a && b, rest)
    | rest => return (a, rest)

def one : Nat → State → List String → List String → Answer
  | 0, _, _, args => .ok (false, args)
  | n + 1, s, all, args =>
    match args with
    | [] => beyond all
    | "!" :: rest => (one n s all rest).map fun (b, rest) => (!b, rest)
    | "(" :: rest => do
      let inner := (rest.drop 1).takeWhile (· ≠ ")")
      let count := if 3 < inner.length then rest.length else inner.length + 1
      let (b, rest) ← counted n s all count rest
      match rest with
      | [] => throw ((Quoted.plain ")") ++ " expected")
      | ")" :: rest => return (b, rest)
      | a :: _ => throw (Quoted.plain ")" ++ " expected, found " ++ Quoted.plain a)
    | a :: rest =>
      if isBinary args then askTwo s args
      else if isUnaryForm a then askOne s all args
      else .ok (a ≠ "", rest)

end

/-- Answers a condition: success for yes. -/
def run : Program := fun _ program args => do
  if args = [] then Act.finish 1
  else
    let s ← Act.state
    match counted (8 * args.length + 16) s args args.length args with
    | .ok (b, []) => Act.finish (if b then 0 else 1)
    | .ok (_, a :: _) => Act.failed program ("extra argument " ++ Quoted.plain a) 2
    | .error e => Act.failed program e 2

def runBracketed : Program := fun n program args => do
  if args.getLast? = some "]" then run n program args.dropLast
  else Act.failed program ("missing " ++ Quoted.plain "]") 2

end Cutover.Shell.Condition
