import Cutover.Files.Accounts
import Cutover.Shell.Lookup
import Cutover.Shell.Program.Input

/-!
# Who and where

The programs that tell by whom and on what system they are run.
-/
namespace Cutover.Shell

namespace Identity

/-- The user of a name or a number. -/
def user? (text : String) : Option Account :=
  Account.all.find? fun u => u.name = text || toString u.number = text

/-- All that is known of a user. -/
def shown (u : Account) : String :=
  let group := u.groupName
  s!"uid={u.number}({u.name}) gid={u.group}({group}) groups={u.group}({group})"

def printing (line : String) (status : Nat) : Program := fun _ program args =>
  withUsage { status } program args fun r =>
    match r.operands with
    | [] => do
      Act.finish 0
      Act.outputText program (line ++ "\n").toList
    | extra :: _ => Act.misused program ("extra operand " ++ Quoted.plain extra) status

end Identity

def tellUser : Program := fun _ program args => do
  let u : Usage :=
    { letters := "agGnruzZ"
      names := [("context", 'Z'), ("group", 'g'), ("groups", 'G'), ("name", 'n'), ("real", 'r'),
        ("user", 'u'), ("zero", 'z')] }
  withUsage u program args fun r => do
    let kinds := (r.options.map (·.1)).filter "ugG".toList.contains
    let isPlain := kinds = []
    if 1 < kinds.eraseDups.length then
      Act.failed program "cannot print \"only\" of more than one choice" 1
    else if isPlain && (r.has 'n' || r.has 'r') then
      Act.failed program "cannot print only names or real IDs in default format" 1
    else if isPlain && r.has 'z' then
      Act.failed program "option --zero not permitted in default format" 1
    else
      let line (u : Account) : String :=
        match kinds.head?, r.has 'n' with
        | none, _ => Identity.shown u
        | some 'u', true => u.name
        | some 'u', false => toString u.number
        | _, true => u.groupName
        | _, false => toString u.group
      let ended := if r.has 'z' then "\x00" else "\n"
      Act.finish 0
      if r.operands = [] then Act.outputText program (line Account.root ++ ended).toList
      else
        for name in r.operands do
          match Identity.user? name with
          | some u => Act.outputText program (line u ++ ended).toList
          | none =>
            let why := if name = "" then ": " ++ FileError.notFound.cause else ""
            Act.failed program (Quoted.plain name ++ ": no such user" ++ why) 1

def tellGroups : Program := fun _ program args =>
  withUsage {} program args fun r => do
    Act.finish 0
    if r.operands = [] then Act.outputText program (Account.root.groupName ++ "\n").toList
    else
      for name in r.operands do
        match Identity.user? name with
        | some u =>
          let group := u.groupName
          Act.outputText program (s!"{u.name} : {group}\n").toList
        | none => Act.failed program (Quoted.plain name ++ ": no such user") 1

/-- Tells that nobody has logged in. -/
def tellLogin : Program := fun _ program args =>
  withUsage {} program args fun r =>
    match r.operands with
    | [] => Act.failed program "no login name" 1
    | extra :: _ => Act.misused program ("extra operand " ++ Quoted.plain extra) 1

def tellTerminal : Program := fun _ program args => do
  let u : Usage :=
    { letters := "s", names := [("silent", 's'), ("quiet", 's')], status := 2 }
  withUsage u program args fun r =>
    match r.operands with
    | extra :: _ => Act.misused program ("extra operand " ++ Quoted.plain extra) 2
    | [] => do
      Act.finish 1
      unless r.has 's' do
        Act.change (·.outputTelling program 3 ("write error: " ++ ·)
          (Text.toBytes "not a tty\n".toList))
        Act.awaitRoom 1

def tellSystem : Program := fun _ program args => do
  let u : Usage :=
    { letters := "asnrvmpio"
      names := [("all", 'a'), ("kernel-name", 's'), ("nodename", 'n'), ("kernel-release", 'r'),
        ("kernel-version", 'v'), ("machine", 'm'), ("processor", 'p'),
        ("hardware-platform", 'i'), ("operating-system", 'o')] }
  withUsage u program args fun r =>
    match r.operands with
    | extra :: _ => Act.misused program ("extra operand " ++ Quoted.plain extra) 1
    | [] => do
      let known : List (Char × String) :=
        [('s', "Linux"), ('n', "localhost"), ('r', "6.8.0"), ('v', "#1 SMP"), ('m', "x86_64"),
          ('p', "x86_64"), ('i', "x86_64"), ('o', "GNU/Linux")]
      let isAsked (c : Char) : Bool := r.has c || r.has 'a' || (r.options = [] && c = 's')
      Act.finish 0
      let words := (known.filter fun e => isAsked e.1).map (·.2)
      Act.outputText program (" ".intercalate words ++ "\n").toList

/-- Waits until all has been written, which it has. -/
def synchronize : Program := fun _ program args => do
  let u : Usage := { letters := "df", names := [("data", 'd'), ("file-system", 'f')] }
  withUsage u program args fun r => do
    Act.finish 0
    for path in r.operands do
      match (← Act.state).locate path with
      | .ok (_, some _) => pure ()
      | .ok (_, none) =>
        let why := FileError.notFound.cause
        Act.failed program (s!"error opening {Quoted.always path}: " ++ why) 1
      | .error e => Act.failed program (s!"error opening {Quoted.always path}: " ++ e.cause) 1

def tellPlaces : Program := fun _ program args => do
  let u : Usage := { letters := "as", ordered := true }
  let r := u.read args.length args {}
  if let some (some fault) := r.stopped then
    let letter := String.ofList ((fault.toList.reverse.drop 1).take 1)
    Act.change (·.put 2 s!"Illegal option -{letter}\n")
    Act.finish 2
    Act.outputText program "Usage: /usr/bin/which [-as] args\n".toList
  else
    let s ← Act.state
    let places (name : String) : List String :=
      if name.contains '/' then if (s.image name).isOk then [name] else []
      else
        let all := State.candidates ((s.value? "PATH").getD "") name
        let found := all.filter fun path => (s.image path).isOk
        if r.has 'a' then found else found.take 1
    let found := r.operands.map places
    Act.finish (if r.operands ≠ [] && found.all (· ≠ []) then 0 else 1)
    unless r.has 's' do
      Act.outputText program (String.join (found.flatten.map (· ++ "\n"))).toList

/-- The programs that tell about users and systems. -/
def identityPrograms : List (String × Program) :=
  [("whoami", Identity.printing Account.root.name 1), ("id", tellUser), ("groups", tellGroups),
    ("logname", tellLogin), ("tty", tellTerminal), ("uname", tellSystem),
    ("arch", Identity.printing "x86_64" 1), ("sync", synchronize), ("which", tellPlaces)]

end Cutover.Shell
