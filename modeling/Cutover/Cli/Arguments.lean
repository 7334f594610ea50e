/-!
# Command-line arguments

How a command line tells what to do. Options may stand before or after the operands of a
command; two of them may stand before the command as well. After two dashes all that follows
are operands. The first fault ends the reading, and so does a request for help.
-/
namespace Cutover.Cli

/-- What the program is asked to do. -/
inductive Action where
  | analyze (folder output : String)
  | explain (file : String)
  | migrate (domain target : String)
  | domains
  deriving DecidableEq, Repr

/-- A command line that can be carried out. -/
structure Invocation where
  config : Option String
  verbose : Bool
  action : Action
  deriving DecidableEq, Repr

/-- Why a command line is not carried out. -/
inductive Refusal where
  | help
  | version
  | usage
  deriving DecidableEq, Repr

/-- What an option is for. -/
inductive OptionKind where
  | flag
  | value
  | path
  | help
  | version
  deriving DecidableEq, Repr

structure OptionSpec where
  long : String
  short : Option Char
  kind : OptionKind
  deriving DecidableEq, Repr

/-- The options and operands that may stand in one part of a command line. -/
structure Grammar where
  options : List OptionSpec
  operands : Nat
  operandsArePaths : Bool
  commands : List String

def commonOptions : List OptionSpec :=
  [⟨"config", none, .path⟩, ⟨"verbose", some 'v', .flag⟩, ⟨"help", some 'h', .help⟩]

def commandNames : List String := ["analyze", "explain", "migrate", "domains", "help"]

def Grammar.opening : Grammar :=
  ⟨commonOptions ++ [⟨"version", some 'V', .version⟩], 0, false, commandNames⟩

def Grammar.ofCommand (name : String) : Grammar :=
  match name with
  | "analyze" => ⟨commonOptions ++ [⟨"output", some 'o', .path⟩], 1, true, []⟩
  | "explain" => ⟨commonOptions, 1, true, []⟩
  | "migrate" => ⟨commonOptions ++ [⟨"target-db", some 't', .value⟩], 1, false, []⟩
  | _ => ⟨commonOptions, 0, false, []⟩

/-- What has been read of one part. -/
structure Part where
  /-- Options by their long names; a flag has the empty value. -/
  options : List (String × String) := []
  operands : List String := []

namespace Part

def addOption (p : Part) (o : OptionSpec) (value : String) : Except Refusal Part :=
  if p.options.any (·.1 == o.long) || (o.kind = .path && value = "") then .error .usage
  else .ok { p with options := p.options ++ [(o.long, value)] }

def addOperand (g : Grammar) (p : Part) (value : String) : Except Refusal Part :=
  if g.operands ≤ p.operands.length || (g.operandsArePaths && value = "") then .error .usage
  else .ok { p with operands := p.operands ++ [value] }

def value? (p : Part) (long : String) : Option String := p.options.lookup long

end Part

/-- Whether an argument looks like options, so that it is no option's value. -/
def isDashed (arg : String) : Bool := arg.toList.head? == some '-' && arg ≠ "-"

/-- A long option and the value written after an equals sign. -/
def splitLong (arg : String) : String × Option String :=
  let cs := arg.toList.drop 2
  match cs.dropWhile (· ≠ '=') with
  | _ :: value => (String.ofList (cs.takeWhile (· ≠ '=')), some (String.ofList value))
  | [] => (String.ofList cs, none)

def readOption (p : Part) (o : OptionSpec) (value : Option String) :
    Except Refusal (Part × Option OptionSpec) :=
  match o.kind, value with
  | .flag, none => (p.addOption o "").map (·, none)
  | .help, none => .error .help
  | .version, none => .error .version
  | .value, some v | .path, some v => (p.addOption o v).map (·, none)
  | .value, none | .path, none => .ok (p, some o)
  | _, some _ => .error .usage

def readShort (g : Grammar) (p : Part) : List Char → Except Refusal (Part × Option OptionSpec)
  | [] => .ok (p, none)
  | c :: cs =>
    match g.options.find? (·.short == some c) with
    | none => .error .usage
    | some o =>
      if o.kind = .value || o.kind = .path then
        match cs with
        | [] => .ok (p, some o)
        | '=' :: value => readOption p o (some (String.ofList value))
        | value => readOption p o (some (String.ofList value))
      else do
        let (p, _) ← readOption p o none
        readShort g p cs

def readDashed (g : Grammar) (p : Part) (arg : String) :
    Except Refusal (Part × Option OptionSpec) :=
  if arg.toList.take 2 = ['-', '-'] then
    let (name, value) := splitLong arg
    match g.options.find? (·.long == name) with
    | some o => readOption p o value
    | none => .error .usage
  else readShort g p (arg.toList.drop 1)

/-- Reads a part up to a command or to the end; `waiting` is the option that the next argument
is the value of. -/
def readPart (g : Grammar) : Option OptionSpec → Part → List String →
    Except Refusal (Part × List String)
  | none, p, [] => .ok (p, [])
  | some _, _, [] => .error .usage
  | some o, p, arg :: args =>
    if isDashed arg then .error .usage
    else do readPart g none (← p.addOption o arg) args
  | none, p, arg :: args =>
    if arg = "--" then do
      return (← args.foldlM (Part.addOperand g) p, [])
    else if g.commands.contains arg then .ok (p, arg :: args)
    else if isDashed arg then do
      let (p, waiting) ← readDashed g p arg
      readPart g waiting p args
    else do readPart g none (← p.addOperand g arg) args

def actionOf (command : String) (p : Part) : Except Refusal Action :=
  match command, p.operands with
  | "analyze", [folder] => .ok (.analyze folder ((p.value? "output").getD "analysis_results.json"))
  | "explain", [file] => .ok (.explain file)
  | "migrate", [domain] => .ok (.migrate domain ((p.value? "target-db").getD "postgres"))
  | "domains", [] => .ok .domains
  | _, _ => .error .usage

def helpOn : List String → Refusal
  | [] => .help
  | [command] => if commandNames.contains command then .help else .usage
  | _ => .usage

/-- The configuration file. The option after the command counts more than the one before it,
and both count more than the environment. An empty name in the environment is a fault wherever
it would have to stand in for an option. -/
def configOf (environment before after : Option String) : Except Refusal (Option String) :=
  if environment = some "" && (before.isNone || after.isNone) then .error .usage
  else .ok (after.or (before.or environment))

/-- Reads a command line; `environment` is the configuration file that the environment names. -/
def Invocation.parse (environment : Option String) (args : List String) :
    Except Refusal Invocation := do
  let (before, rest) ← readPart .opening none {} args
  match rest with
  | [] => .error .usage
  | command :: rest =>
    if command = "help" then .error (helpOn rest)
    else
      let (after, _) ← readPart (.ofCommand command) none {} rest
      let action ← actionOf command after
      let config ← configOf environment (before.value? "config") (after.value? "config")
      return ⟨config, (before.options ++ after.options).any (·.1 == "verbose"), action⟩

end Cutover.Cli
