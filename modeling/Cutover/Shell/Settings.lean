import Cutover.Shell.Options

/-!
# Settings

The commands that set, mark, hide and forget variables and aliases.
-/
namespace Cutover.Shell

/-- A name and a value around the first equals sign. -/
def splitSetting (arg : String) : String × Option String :=
  let cs := arg.toList
  let name := String.ofList (cs.takeWhile (· ≠ '='))
  match cs.dropWhile (· ≠ '=') with
  | [] => (name, none)
  | _ :: value => (name, some (String.ofList value))

def badName (name : String) : String := s!"{name}: bad variable name"

/-- The place of a name in the lists of variables and aliases, in which names of one place stand
in the order in which they have come. -/
def tablePlace (name : String) : Nat :=
  let codes := name.toList.map Char.toNat
  (codes.foldl (· + ·) (codes.headD 0 * 16)) % 39

/-- Marks variables, and sets those with an equals sign. -/
def markVariables (command : String) (mark : Variable → Variable) (marked : Variable → Bool)
    (args : List String) (s : State) : State :=
  let isListed := (args.headD "").startsWith "-p"
  withOptions "p" "" (if isListed then [] else args) s fun _ names =>
    if names = [] then s.listVariables (command ++ " ") marked
    else
      names.foldl (fun s arg =>
        if s.flow ≠ .going then s
        else
          let (name, value) := splitSetting arg
          let s := match value with
            | some value => s.assign name value
            | none => if isName name then s else s.error (badName name)
          if s.flow ≠ .going then s
          else
            let old := (s.entry? name).getD { value := none }
            s.setVariable name (some (mark old))) (s.finish 0)

def exportVariables (args : List String) (s : State) : State :=
  markVariables "export" ({ · with exported := true }) (·.exported) args s

def readOnly (args : List String) (s : State) : State :=
  markVariables "readonly" ({ · with readOnly := true }) (·.readOnly) args s

/-- Forgets the value of a variable, and the variable if nothing keeps it. What follows an equals
sign does not count. -/
def State.forget (s : State) (arg : String) : State :=
  let name := (splitSetting arg).1
  if !isName name then s.error (badName name)
  else
    match s.entry? name with
    | some v =>
      if v.readOnly then s.error s!"{name}: is read only"
      else
        match s.followed name "" with
        | .ok s => s.setVariable name (if v.isFixed then some { v with value := none } else none)
        | .error e => s.error e
    | none => s

def unset (args : List String) (s : State) : State :=
  withOptions "vf" "" args s fun found names =>
    let functions := (found.getLast?.map (·.1)) = some 'f'
    names.foldl (fun s name =>
      if s.flow ≠ .going then s
      else if functions then
        s.update fun p => { p with functions := p.functions.filter (·.1 ≠ name) }
      else s.forget name) (s.finish 0)

/-- Notes what a command changes until it ends, unless it has done so before. -/
def State.keep (s : State) (isKept : Hidden → Bool) (h : Hidden) : State :=
  match s.process.hidden with
  | [] => s
  | frame :: frames =>
    if frame.any isKept then s else s.update fun p => { p with hidden := (h :: frame) :: frames }

/-- Hides a variable until the command that is running ends; it keeps its value until it gets
another one. -/
def State.hide (s : State) (name : String) : State :=
  let old := s.entry? name
  (s.keep (Hidden.isVariable name) (.variable name old)).setVariable name
    (some { old.getD { value := none } with isFixed := true })

def State.setLocal (s : State) (name : String) : Option String → State
  | some value =>
    if isName name then (s.hide name).assign name value
    else (s.hide name).setVariable name (some { value, isFixed := true })
  | none => if isName name then s.hide name else s.error (badName name)

def localVariables (args : List String) (s : State) : State :=
  if s.process.hidden.isEmpty then s.error "not in a function"
  else
    args.foldl (fun s arg =>
      if s.flow ≠ .going then s
      else if arg = "-" then s.keep Hidden.isOptions (.options s.process.options)
      else
        let (name, value) := splitSetting arg
        s.setLocal name value) (s.finish 0)

def setAliases (args : List String) (s : State) : State :=
  let shown (e : String × String) : String := e.1 ++ "=" ++ singleQuoted e.2
  let all := s.process.aliases
  if args = [] then
    s.printLines ((all.mergeSort fun a b => tablePlace a.1 ≤ tablePlace b.1).map shown)
  else
    let (s, lines) := args.foldl (fun (s, lines) arg =>
      let split := splitSetting (String.ofList (arg.toList.drop 1))
      match (String.ofList (arg.toList.take 1) ++ split.1, split.2) with
      | (name, some text) =>
        (s.update fun p =>
          { p with aliases := if p.aliases.any (·.1 = name)
              then p.aliases.map fun e => if e.1 = name then (name, text) else e
              else p.aliases ++ [(name, text)] }, lines)
      | (name, none) =>
        match s.process.aliases.find? (·.1 = name) with
        | some e => (s, lines ++ [shown e])
        | none => ((s.put 2 s!"alias: {name} not found\n").finish 1, lines))
      (s.finish 0, ([] : List String))
    let status := s.status
    if lines = [] then s else (s.printLines lines).finish status

def unalias (args : List String) (s : State) : State :=
  withOptions "a" "" args s fun found names =>
    if found ≠ [] then (s.update fun p => { p with aliases := [] }).finish 0
    else
      names.foldl (fun s name =>
        if s.process.aliases.any (·.1 = name) then
          s.update fun p => { p with aliases := p.aliases.filter (·.1 ≠ name) }
        else (s.put 2 s!"unalias: {name} not found\n").finish 1) (s.finish 0)

end Cutover.Shell
