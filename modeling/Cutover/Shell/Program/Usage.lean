import Cutover.Shell.Program.Quoted
import Cutover.Shell.Task

/-!
# Options of programs

Programs take letters after a hyphen and names after two, before and after other arguments. A
name may be cut short as long as only one begins so.
-/
namespace Cutover.Shell

/-- The options that a program knows. -/
structure Usage where
  letters : String := ""
  valued : String := ""
  names : List (String × Char) := []
  /-- Whether the first argument that is none ends the options. -/
  ordered : Bool := false
  status : Nat := 1
  /-- What is shown after a fault in front of the hint where help is to be had. -/
  synopsis : String := ""

/-- What has been asked for. -/
structure Request where
  options : List (Char × String) := []
  operands : List String := []
  /-- What is wrong with the options, or nothing if help has been asked for. -/
  stopped : Option (Option String) := none

namespace Request

def add (r : Request) (letter : Char) (value : String) : Request :=
  { r with options := r.options ++ [(letter, value)] }

def stop (r : Request) (fault : Option String) : Request := { r with stopped := some fault }

def has (r : Request) (letter : Char) : Bool := r.options.any (·.1 = letter)

def value? (r : Request) (letter : Char) : Option String :=
  (r.options.reverse.find? (·.1 = letter)).map (·.2)

end Request

namespace Usage

/-- The names that print something about the program and end it. -/
def telling : List String := ["help", "version"]

def candidates (u : Usage) (name : String) : List String :=
  let all := u.names.map (·.1) ++ telling
  if all.contains name then [name] else all.filter fun n => name.toList.isPrefixOf n.toList

/-- Takes the letters of one argument; the other arguments follow. -/
def letterOptions (u : Usage) : List Char → List String → Request → List String × Request
  | [], args, r => (args, r)
  | c :: cs, args, r =>
    if u.valued.contains c then
      match cs, args with
      | [], [] => (args, r.stop (some s!"option requires an argument -- '{c}'"))
      | [], a :: args => (args, r.add c a)
      | cs, args => (args, r.add c (String.ofList cs))
    else if u.letters.contains c then letterOptions u cs args (r.add c "")
    else (args, r.stop (some s!"invalid option -- '{c}'"))

/-- Takes one name with its value; the other arguments follow. -/
def namedOption (u : Usage) (text : String) (args : List String) (r : Request) :
    List String × Request :=
  let name := String.ofList (text.toList.takeWhile (· ≠ '='))
  let value := (text.toList.drop name.length).tail?.map String.ofList
  match u.candidates name with
  | [] => (args, r.stop (some s!"unrecognized option '--{text}'"))
  | [full] =>
    match u.names.lookup full, value, args with
    | none, none, _ => (args, r.stop none)
    | some c, none, args =>
      if u.valued.contains c then
        match args with
        | [] => (args, r.stop (some s!"option '--{full}' requires an argument"))
        | a :: args => (args, r.add c a)
      else (args, r.add c "")
    | some c, some v, _ =>
      if u.valued.contains c then (args, r.add c v)
      else (args, r.stop (some s!"option '--{full}' doesn't allow an argument"))
    | none, some _, _ => (args, r.stop (some s!"option '--{full}' doesn't allow an argument"))
  | several =>
    let shown := " ".intercalate (several.map fun n => "'--" ++ n ++ "'")
    (args, r.stop (some s!"option '--{text}' is ambiguous; possibilities: {shown}"))

def read (u : Usage) : Nat → List String → Request → Request
  | 0, _, r => r
  | n + 1, args, r =>
    match args with
    | [] => r
    | a :: args =>
      match a.toList with
      | ['-', '-'] => { r with operands := r.operands ++ args }
      | '-' :: '-' :: text =>
        let (args, r) := u.namedOption (String.ofList text) args r
        if r.stopped.isSome then r else read u n args r
      | '-' :: c :: cs =>
        let (args, r) := u.letterOptions (c :: cs) args r
        if r.stopped.isSome then r else read u n args r
      | _ =>
        if u.ordered then { r with operands := r.operands ++ a :: args }
        else read u n args { r with operands := r.operands ++ [a] }

end Usage

def State.complain (s : State) (program message : String) : State :=
  s.put 2 s!"{program}: {message}\n"

def State.tryHelp (s : State) (program : String) : State :=
  s.put 2 s!"Try '{program} --help' for more information.\n"

/-- Ends a program that has been called in a wrong way. -/
def State.misused (s : State) (program message : String) (status : Nat) : State :=
  ((s.complain program message).tryHelp program).finish status

/-- A program under the name that it has been called by, with a number of steps that bounds it. -/
abbrev Program := Nat → String → List String → Act Unit

def withUsage (u : Usage) (program : String) (args : List String) (f : Request → Act Unit) :
    Act Unit :=
  let r := u.read args.length args {}
  match r.stopped with
  | some none => Act.finish 0
  | some (some fault) =>
    Act.change fun s =>
      (((s.complain program fault).put 2 u.synopsis).tryHelp program).finish u.status
  | none => f r

def State.outputTelling (s : State) (program : String) (status : Nat) (told : String → String)
    (bytes : ByteArray) : State :=
  if bytes.size = 0 then s
  else
    match s.write 1 bytes with
    | (s, none) => s
    | (s, some e) =>
      if s.flow ≠ .going then s else ((s.complain program (told e)).finish status).turn .ended

def State.output (s : State) (program : String) (bytes : ByteArray) : State :=
  s.outputTelling program 1 ("write error: " ++ ·) bytes

def State.outputText (s : State) (program : String) (text : List Char) : State :=
  s.output program (Text.toBytes text)

namespace Act

def output (program : String) (bytes : ByteArray) : Act Unit := do
  change (·.output program bytes)
  awaitRoom 1

def outputText (program : String) (text : List Char) : Act Unit :=
  output program (Text.toBytes text)

def failed (program text : String) (status : Nat) : Act Unit :=
  change fun s => (s.complain program text).finish status

/-- Ends a program that has been called in a wrong way. -/
def misused (program message : String) (status : Nat) : Act Unit :=
  change (·.misused program message status)

end Act

end Cutover.Shell
