import Cutover.Shell.State

/-!
# Options

Options stand in front of the other arguments of a command, several letters in one argument if
need be. The shell has options of its own.
-/
namespace Cutover.Shell

/-- The options at the front of arguments. -/
structure Options where
  found : List (Char × String) := []
  rest : List String
  fault : Option String := none

def Options.after (o : Options) (letter : Char) (value : String) : Options :=
  { o with found := (letter, value) :: o.found }

/-- Takes the letters of one argument as options; a letter in `valued` takes what follows it. -/
def optionsOf (plain valued : List Char) : List Char → List String → Options
  | [], args => { rest := args }
  | c :: cs, args =>
    if plain.contains c then (optionsOf plain valued cs args).after c ""
    else if valued.contains c then
      match cs, args with
      | [], [] => { rest := [], fault := some s!"No arg for -{c} option" }
      | [], a :: args => { found := [(c, a)], rest := args }
      | cs, args => { found := [(c, String.ofList cs)], rest := args }
    else { rest := args, fault := some s!"Illegal option -{c}" }

def options (plain valued : String) : Nat → List String → Options
  | 0, args => { rest := args }
  | n + 1, args =>
    match args with
    | [] => { rest := [] }
    | "--" :: args => { rest := args }
    | a :: rest =>
      match a.toList with
      | '-' :: c :: cs =>
        let first := optionsOf plain.toList valued.toList (c :: cs) rest
        if first.fault.isSome then first
        else
          let more := options plain valued n first.rest
          { more with found := first.found ++ more.found }
      | _ => { rest := a :: rest }

def withOptions (plain valued : String) (args : List String) (s : State)
    (f : List (Char × String) → List String → State) : State :=
  let o := options plain valued args.length args
  match o.fault with
  | none => f o.found o.rest
  | some e => s.error e

/-- A text in single quotes, after which quotes in it follow in double ones, and so on. -/
def quotedParts : Nat → List Char → List Char
  | 0, _ => []
  | n + 1, s =>
    let plain := s.takeWhile (· ≠ '\x27')
    let quotes := (s.drop plain.length).takeWhile (· = '\x27')
    let rest := s.drop (plain.length + quotes.length)
    let told := '\x27' :: plain ++ ['\x27']
    if quotes = [] then told
    else told ++ '\x22' :: quotes ++ '\x22' :: (if rest = [] then [] else quotedParts n rest)

/-- A text in quotes, so that it stands for itself in a script. -/
def singleQuoted (s : String) : String := String.ofList (quotedParts (s.length + 1) s.toList)

def State.printLines (s : State) (lines : List String) : State :=
  s.print (String.join (lines.map (· ++ "\n"))).toList 0

def shellOptions : List (Char × String) :=
  [('e', "errexit"), ('f', "noglob"), ('I', "ignoreeof"), ('i', "interactive"), ('m', "monitor"),
    ('n', "noexec"), ('s', "stdin"), ('x', "xtrace"), ('v', "verbose"), ('V', "vi"),
    ('E', "emacs"), ('C', "noclobber"), ('a', "allexport"), ('b', "notify"), ('u', "nounset"),
    ('p', "privileged"), ('\x01', "nolog"), ('\x02', "debug")]

def State.optionLetters (s : State) : String :=
  String.ofList (((shellOptions.map (·.1)).reverse.filter s.option).filter (' ' ≤ ·))

def State.setOption (s : State) (letter : Char) (on : Bool) : State :=
  s.update fun p =>
    let others := p.options.filter (· ≠ letter)
    { p with options := if on then letter :: others else others }

/-- Turns an option on or off by its letter; of two that exclude each other the later one
stays. -/
def State.setLetter (s : State) (letter : Char) (on : Bool) : State :=
  let s := s.setOption letter on
  match on, letter with
  | true, 'V' => s.setOption 'E' false
  | true, 'E' => s.setOption 'V' false
  | _, _ => s

def State.settleOptions (s : State) : State :=
  if s.option 'm' && s.process.number = s.process.shell then
    (s.warn "can't access tty; job control turned off").setOption 'm' false
  else s

def optionLines (on : List Char) (asCommands : Bool) : List String :=
  if asCommands then
    shellOptions.map fun (letter, name) =>
      let sign := if on.contains letter then "-" else "+"
      s!"set {sign}o {name}"
  else
    "Current option settings" :: shellOptions.map fun (letter, name) =>
      let blanks := String.ofList (List.replicate (16 - name.length) ' ')
      name ++ blanks ++ (if on.contains letter then "on" else "off")

/-- What arguments say about options of the shell. -/
structure ShellArguments where
  state : State
  rest : List String
  script : Bool := false
  /-- Whether the arguments of the script are to be set even if there are none. -/
  reset : Bool := false
  decided : List Char := []
  lines : List String := []
  fault : Option String := none

namespace ShellArguments

def decide (a : ShellArguments) (letter : Char) (on : Bool) : ShellArguments :=
  { a with state := a.state.setLetter letter on, decided := letter :: a.decided }

/-- Lists the options. When the shell starts, those that nobody has turned off yet are on. -/
def list (a : ShellArguments) (starting asCommands : Bool) : ShellArguments :=
  let others := (shellOptions.map (·.1)).filter fun c => starting && !a.decided.contains c
  { a with lines := a.lines ++ optionLines (others ++ a.state.process.options) asCommands }

/-- The state of a shell that has been started with arguments: one that talks to somebody
controls jobs. -/
def started (a : ShellArguments) : State :=
  let s := a.state
  if s.option 'i' && !a.decided.contains 'm' then s.setOption 'm' true else s

/-- Takes the letters of one argument as options of the shell; a name may follow. When the
shell starts, one letter tells that a script follows. -/
def takeLetters (starting on : Bool) : List Char → ShellArguments → ShellArguments
  | [], a => a
  | c :: cs, a =>
    if c = 'c' && starting && on then takeLetters starting on cs { a with script := true }
    else if c = 'l' && starting then takeLetters starting on cs a
    else if c = 'o' then
      match a.rest with
      | [] => takeLetters starting on cs (a.list starting !on)
      | name :: rest =>
        match shellOptions.find? (·.2 = name) with
        | some (letter, _) =>
          let state := a.state.setOption letter on
          takeLetters starting on cs { a with rest, state, decided := letter :: a.decided }
        | none => { a with fault := some s!"Illegal option -o {name}" }
    else if shellOptions.any (·.1 = c) then takeLetters starting on cs (a.decide c on)
    else { a with fault := some s!"Illegal option -{c}" }

def takeOptions (starting : Bool) : Nat → ShellArguments → ShellArguments
  | 0, a => a
  | n + 1, a =>
    match a.fault, a.rest with
    | some _, _ | none, [] => a
    | none, word :: rest =>
      match word.toList with
      | ['-'] =>
        let state := (a.state.setOption 'x' false).setOption 'v' false
        { a with rest, state := if starting then a.state else state }
      | ['-', '-'] => { a with rest, reset := !starting }
      | '-' :: cs => takeOptions starting n (takeLetters starting true cs { a with rest })
      | '+' :: cs => takeOptions starting n (takeLetters starting false cs { a with rest })
      | _ => a

def ofList (starting : Bool) (args : List String) (s : State) : ShellArguments :=
  takeOptions starting (args.length + 1) { state := s, rest := args }

/-- The state when the options are what they are to be, or something has turned out to be
wrong. -/
def settled (a : ShellArguments) (s : State) : State :=
  let s := match a.fault with
    | some e => s.error e
    | none => s.settleOptions
  if a.lines = [] then s
  else
    let status := s.status
    (s.printLines a.lines).finish status

end ShellArguments

def State.listVariables (s : State) (front : String) (p : Variable → Bool) : State :=
  let chosen := (s.process.vars.filter fun v => p v.2).mergeSort fun a b => a.1 ≤ b.1
  s.printLines (chosen.map fun (name, v) =>
    match v.value with
    | some value => front ++ name ++ "=" ++ singleQuoted value
    | none => front ++ name)

def set (args : List String) (s : State) : State :=
  if args = [] then s.listVariables "" fun v => v.value.isSome
  else
    let a := ShellArguments.ofList false args (s.finish 0)
    let s := a.settled a.state
    if a.fault.isSome || a.rest = [] && !a.reset then s
    else s.update fun p => { p with args := a.rest, next := 1, letters := none }

end Cutover.Shell
