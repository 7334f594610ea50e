import Cutover.Shell.Number
import Cutover.Shell.State

/-!
# Questions

The command that compares texts and numbers and asks about files. It tells operators from
operands by where they stand.
-/
namespace Cutover.Shell

namespace Question

def unary : List String :=
  ["-r", "-w", "-x", "-e", "-f", "-d", "-c", "-b", "-p", "-u", "-g", "-k", "-s", "-t", "-z",
    "-n", "-h", "-O", "-G", "-L", "-S"]

def binary : List String :=
  ["-eq", "-ne", "-ge", "-gt", "-le", "-lt", "=", "!=", "<", ">", "-nt", "-ot", "-ef"]

def isOperator (s : String) : Bool :=
  unary.contains s || binary.contains s || ["!", "-a", "-o", "(", ")"].contains s

/-- The operator that stands first, if it is one there: before an operator with two operands,
and at the end, a question about one operand is an operand itself. -/
def operator? (args : List String) : Option String :=
  match args with
  | [] => none
  | s :: rest =>
    let isOperand := match rest with
      | [] => true
      | [_] => false
      | s :: _ => binary.contains s
    if !isOperator s || (unary.contains s && isOperand) || (s = "(" && rest.isEmpty) then none
    else some s

def missing (op : String) : String := s!"{op}: argument expected"

def askOne (s : State) (op arg : String) : Except String Bool :=
  let node := s.nodeAt? arg
  let direct : Option FileEntry := node.map (·.entry)
  let entry : Option FileEntry := match direct with
    | some (.stream k) => s.entryOfStream? k
    | e => e
  let isFolder : Bool := match entry with
    | some .folder => true
    | _ => false
  let has (bits : Nat) : Bool := node.any fun n => n.mode &&& bits ≠ 0
  match op with
  | "-n" => .ok (arg ≠ "")
  | "-z" => .ok (arg = "")
  | "-e" | "-r" | "-w" | "-O" | "-G" => .ok entry.isSome
  | "-d" => .ok isFolder
  | "-x" => .ok (isFolder || node.any (·.isRunnable))
  | "-f" =>
    .ok (match entry with
      | some (.file _) | some (.program _) => true
      | _ => false)
  | "-c" =>
    .ok (match entry with
      | some (.device _) => true
      | _ => false)
  | "-p" =>
    .ok (match entry with
      | some .queue => true
      | _ => false)
  | "-h" | "-L" =>
    .ok (match s.locateLink arg with
      | .ok (_, some (.link _)) | .ok (_, some (.stream _)) => true
      | _ => false)
  | "-u" => .ok (has 0o4000)
  | "-g" => .ok (has 0o2000)
  | "-k" => .ok (has 0o1000)
  | "-s" =>
    .ok (match entry with
      | some (.file bytes) => bytes.size ≠ 0
      | some (.program _) => true
      | _ => isFolder)
  | "-t" => if (number? 10 arg).isSome then .ok false else .error (noNumber arg)
  | _ => .ok false

/-- Whether a file was changed after another one; both have to be there. -/
def isNewer (s : State) (a b : String) : Bool :=
  match s.nodeAt? a, s.nodeAt? b with
  | some a, some b => a.isNewer b
  | _, _ => false

def askTwo (s : State) (a op b : String) : Except String Bool :=
  match op with
  | "=" => .ok (a = b)
  | "!=" => .ok (a ≠ b)
  | "<" => .ok (a < b)
  | ">" => .ok (b < a)
  | "-nt" => .ok (isNewer s a b)
  | "-ot" => .ok (isNewer s b a)
  | "-ef" =>
    let number (x : String) := match s.locate x with
      | .ok (p, some _) => s.files.number? p
      | _ => none
    .ok ((number a).isSome && number a = number b)
  | _ =>
    match number? 10 a, number? 10 b with
    | none, _ => .error (noNumber a)
    | _, none => .error (noNumber b)
    | some m, some n =>
      .ok (match op with
        | "-eq" => m = n
        | "-ne" => m ≠ n
        | "-ge" => n ≤ m
        | "-gt" => n < m
        | "-le" => m ≤ n
        | _ => m < n)

mutual

/-- Answers questions joined by "or", from the first operator or operand on, and gives what
follows the last one of them. -/
def any : Nat → State → List String → Except String (Bool × List String)
  | 0, _, args => .ok (false, args)
  | n + 1, s, args => do
    let (a, rest) ← all n s args
    if operator? rest = some "-o" then
      let (b, rest) ← any n s rest.tail
      return (a || b, rest)
    return (a, rest)

def all : Nat → State → List String → Except String (Bool × List String)
  | 0, _, args => .ok (false, args)
  | n + 1, s, args => do
    let (a, rest) ← one n s (operator? args) args
    if operator? rest = some "-a" then
      let (b, rest) ← all n s rest.tail
      return (a && b, rest)
    return (a, rest)

/-- Answers one question; what stands first is known to be an operator or not to be one. -/
def one : Nat → State → Option String → List String → Except String (Bool × List String)
  | 0, _, _, args => .ok (false, args)
  | n + 1, s, op, args => do
    match op, args with
    | _, [] => return (false, [])
    | some "!", _ :: rest =>
      let (a, rest) ← one n s (operator? rest) rest
      return (!a, rest)
    | some "(", _ :: rest =>
      if operator? rest = some ")" then return (false, rest.tail)
      let (a, rest) ← any n s rest
      if operator? rest = some ")" then return (a, rest.tail)
      throw "closing paren expected"
    | op, a :: rest =>
      if op.any unary.contains then
        match rest with
        | [] => throw (missing a)
        | b :: rest => return (← askOne s a b, rest)
      match operator? rest, rest with
      | some o, _ :: rest =>
        if binary.contains o then
          match rest with
          | [] => throw (missing o)
          | b :: rest => return (← askTwo s a o b, rest)
        else return (a ≠ "", o :: rest)
      | _, _ => return (a ≠ "", rest)

end

/-- Answers questions, after which nothing may be left. -/
def complete (s : State) (inverted : Bool) (args : List String) : Except String Bool := do
  let (a, rest) ← any (4 * args.length + 8) s args
  if rest.isEmpty then return a != inverted
  match (args[args.length - rest.length - 1]?).getD "" with
  | "" => throw "unexpected operator"
  | last => throw s!"{last}: unexpected operator"

/-- Answers a whole condition. With three or four arguments an operator in the second place, and
then a sign of negation or a bracket in the first, comes before all else. -/
def answer (s : State) : Nat → Bool → List String → Except String Bool
  | 0, _, _ => .ok false
  | n + 1, inverted, args => do
    if let [a, op, b] := args then
      if binary.contains op then return (← askTwo s a op b) != inverted
    if args.isEmpty then return false
    if args.length = 3 || args.length = 4 then
      if args.head? = some "(" && args.getLast? = some ")" then
        return ← complete s inverted args.tail.dropLast
      if args.head? = some "!" then return ← answer s n true args.tail
    complete s inverted args

end Question

def test (args : List String) (s : State) : State :=
  match Question.answer s (args.length + 1) false args with
  | .ok true => s.finish 0
  | .ok false => s.finish 1
  | .error e => s.error e

def bracket (args : List String) (s : State) : State :=
  if (args.getLastD "").startsWith "]" then test args.dropLast s else s.error "missing ]"

end Cutover.Shell
