import Cutover.Shell.Program.Making
import Cutover.Shell.Program.Size
import Cutover.Shell.Regular.Reader

/-!
# Searching

The program that shows the lines of its inputs in which something is found.
-/
namespace Cutover.Shell

namespace Searching

/-- What is shown of an input. -/
inductive Report where
  | lines
  | parts
  | count
  /-- The name of an input in which something has been found, or in which nothing has. -/
  | matching
  | missing
  | nothing
  deriving DecidableEq

/-- What is asked for. -/
structure Plan where
  program : String
  patterns : List Regular
  fold : Bool
  words : Bool
  whole : Bool
  inverted : Bool
  ending : Char
  most : Option Nat
  before : Nat
  after : Nat
  /-- What stands between lines that do not follow each other. -/
  separator : Option String
  report : Report
  named : Bool
  numbered : Bool
  positions : Bool
  zeros : Bool
  silent : Bool
  /-- Whether all inputs are taken for texts, or those that are none are left out. -/
  texts : Bool
  textsOnly : Bool
  label : String
  included : List String
  excluded : List String
  excludedFolders : List String
  recursive : Bool
  follow : Bool
  skipFolders : Bool

/-- How far an input has been searched. -/
structure Progress where
  name : String
  number : Nat := 0
  position : Nat := 0
  count : Nat := 0
  /-- The lines before that may have to be shown, the last one first. -/
  held : List (Nat × Nat × List Char) := []
  /-- How many lines are still shown after one that counts. -/
  left : Nat := 0
  last : Nat := 0
  /-- Whether anything has been shown of this input or one before. -/
  shown : Bool := false
  isBinary : Bool := false
  isDone : Bool := false
  reached : Nat := 0
  texts : List (List Char) := []

/-- The first place from one on where any pattern stands. -/
def Plan.find? (plan : Plan) (line : Array Char) (start : Nat) : Option Regular.Found :=
  let found := plan.patterns.filterMap fun r =>
    let t : Regular.Subject := { text := line, fold := plan.fold, exact := r.refers }
    let allowed (i j : Nat) : Bool :=
      (!plan.words || (!t.hasWordBefore i && !t.hasWord j)) &&
        (!plan.whole || (i = 0 && j = line.size))
    r.find? t allowed (line.size + 1) start
  found.foldl (fun best f =>
    match best with
    | none => some f
    | some b =>
      if f.start < b.start || (f.start = b.start && b.stop < f.stop) then some f else some b) none

def Plan.partsOf (plan : Plan) (line : Array Char) : Nat → Nat → List (Nat × List Char)
  | 0, _ => []
  | n + 1, start =>
    match plan.find? line start with
    | none => []
    | some f =>
      if f.start = f.stop then plan.partsOf line n (f.stop + 1)
      else (f.start, f.part line 0) :: plan.partsOf line n f.stop

def Plan.front (plan : Plan) (name : String) (mark : String) (number position : Nat) : String :=
  (if plan.named then name ++ (if plan.zeros then "\x00" else mark) else "") ++
    (if plan.numbered then toString number ++ mark else "") ++
    if plan.positions then toString position ++ mark else ""

def Plan.counted (plan : Plan) (name : String) (count : Nat) : String :=
  let front := if plan.named then name ++ (if plan.zeros then "\x00" else ":") else ""
  s!"{front}{count}\n"

def Plan.show (plan : Plan) (p : Progress) (mark : String) (number position : Nat)
    (line : List Char) : Progress :=
  let isApart := p.shown && number ≠ p.last + 1
  let gap := match plan.separator with
    | some s => if isApart then s.toList ++ ['\n'] else []
    | none => []
  let text := match plan.report with
    | .parts =>
      if mark = "-" || plan.inverted then []
      else
        (plan.partsOf line.toArray (line.length + 1) 0).flatMap fun (i, part) =>
          (plan.front p.name mark number (position + i)).toList ++ part ++ [plan.ending]
    | _ => (plan.front p.name mark number position).toList ++ line ++ [plan.ending]
  { p with last := number, shown := true, texts := (gap ++ text) :: p.texts }

def Plan.step (plan : Plan) (p : Progress) (line : List Char) : Progress :=
  if p.isDone then p
  else
    let body := bare plan.ending line
    let number := p.number + 1
    let position := p.position
    let p := { p with number, position := position + line.length }
    let isFull := plan.most.any (· ≤ p.count)
    if !isFull && (plan.find? body.toArray 0).isSome != plan.inverted then
      let p := { p with count := p.count + 1, reached := p.position }
      let isEnough := plan.most.any (· ≤ p.count)
      match plan.report with
      | .count => { p with isDone := isEnough }
      | .matching | .missing | .nothing => { p with isDone := true }
      | .lines | .parts =>
        if p.isBinary then { p with isDone := true }
        else
          let p := p.held.reverse.foldl (fun p (n, i, text) => plan.show p "-" n i text) p
          let p := plan.show p ":" number position body
          { p with held := [], left := plan.after, isDone := isEnough && plan.after = 0 }
    else if 0 < p.left then
      let p := plan.show p "-" number position body
      { p with left := p.left - 1, isDone := isFull && p.left = 1 }
    else { p with held := ((number, position, body) :: p.held).take plan.before }

def Plan.stepAll (plan : Plan) (p : Progress) (lines : List (List Char)) : Act Progress := do
  let hasZero := plan.ending = '\n' && !plan.texts && lines.any (·.contains '\x00')
  let p := lines.foldl plan.step { p with isBinary := p.isBinary || hasZero }
  Act.change (·.outputTelling plan.program 2 ("write error: " ++ ·)
    (Text.toBytes p.texts.reverse.flatten))
  Act.awaitRoom 1
  return { p with texts := [] }

def Plan.nameOf (plan : Plan) (arg : String) : String := if arg = "-" then plan.label else arg

def Plan.refuse (plan : Plan) (arg why : String) : Act Unit :=
  if plan.silent then Act.update fun p => { p with status := 2 }
  else Act.failed plan.program s!"{plan.nameOf arg}: {why}" 2

/-- Whether something has been found so far. -/
structure Outcome where
  found : Bool := false
  shown : Bool := false

def Plan.searchStream (plan : Plan) (n : Nat) (o : Outcome) (arg : String) (stream : Nat) :
    Act (Except String Outcome) := do
  let tellsLines := plan.report = .lines || plan.report = .parts || plan.report = .count
  if tellsLines && plan.report ≠ .count && plan.most.all (1 < ·) &&
      (← Act.get (·.readsOutput stream)) then
    return .error "input file is also the output"
  let name := plan.nameOf arg
  let start : Progress := { name, shown := o.shown, isDone := plan.most = some 0 }
  let before ← Act.get (·.offset? stream)
  match ← Act.overLinesUntil (·.isDone) plan.ending stream plan.stepAll n start with
  | .error e => return .error e
  | .ok p =>
    match before, ← Act.get (·.offset? stream) with
    | some i, some j =>
      if plan.most.isSome && plan.report ≠ .nothing && p.isDone then
        Act.change (·.goBack stream (j - i - p.reached))
    | _, _ => pure ()
    let text := match plan.report with
      | .count => plan.counted name p.count
      | .matching => if 0 < p.count then name ++ (if plan.zeros then "\x00" else "\n") else ""
      | .missing => if 0 < p.count then "" else name ++ (if plan.zeros then "\x00" else "\n")
      | _ => ""
    Act.change (·.outputTelling plan.program 2 ("write error: " ++ ·) (Text.toBytes text.toList))
    Act.awaitRoom 1
    let isTold := (plan.report = .lines || plan.report = .parts) && p.isBinary && 0 < p.count
    if isTold && !plan.textsOnly then
      Act.change (·.complain plan.program s!"{name}: binary file matches")
    let counts := 0 < p.count && !(p.isBinary && plan.textsOnly)
    return .ok ⟨o.found || counts, p.shown⟩

def isMeant (patterns : List String) (path : String) : Bool :=
  patterns.any fun p =>
    fits (patternOfText p) path.toList || fits (patternOfText p) (lastPart path).toList

def Plan.isLeftOut (plan : Plan) (path : String) : Bool :=
  isMeant plan.excluded path || (plan.included ≠ [] && !isMeant plan.included path)

def Plan.searchFile (plan : Plan) (n : Nat) (o : Outcome) (arg : String) : Act Outcome := do
  match ← Act.withInput arg (plan.searchStream n o arg) with
  | .ok o => return o
  | .error fault =>
    plan.refuse arg fault.why
    if plan.report = .count && !fault.atOpening then
      Act.outputText plan.program (plan.counted (plan.nameOf arg) 0).toList
    return o

def Plan.filesIn (plan : Plan) (s : State) : Nat → String → List String
  | 0, _ => []
  | depth + 1, path =>
    match s.locate (if path = "" then "." else path) with
    | .ok (p, some .folder) =>
      let names := (s.files.names p).map Text.bytewise
      names.flatMap fun name =>
        let inner := if path = "" then name else Path.join path name
        match if plan.follow then s.locate inner else s.locateLink inner with
        | .ok (_, some .folder) =>
          if isMeant plan.excludedFolders inner then [] else plan.filesIn s depth inner
        | .ok (_, some (.file _)) => if plan.isLeftOut inner then [] else [inner]
        | _ => []
    | _ => []

def Plan.searchAll (plan : Plan) (n : Nat) : List String → Outcome → Act Outcome
  | [], o => return o
  | arg :: args, o => do
    if plan.report = .nothing && o.found then return o
    let isFolder ← Act.get fun s => s.isFolder arg || arg = ""
    if arg ≠ "-" && isFolder && plan.recursive then
      let files ← Act.get fun s => plan.filesIn s (n + 1) arg
      plan.searchAll n args (← files.foldlM (plan.searchFile n) o)
    else if arg ≠ "-" && isFolder && plan.skipFolders then plan.searchAll n args o
    else if isFolder && isMeant plan.excludedFolders arg then plan.searchAll n args o
    else if arg ≠ "-" && plan.isLeftOut arg then plan.searchAll n args o
    else plan.searchAll n args (← plan.searchFile n o arg)

def literal (text : List Char) : Regular :=
  text.foldr (fun c r => .follow (.one c) r) .empty

def bareClass : String := "character class syntax is [[:space:]], not [:space:]"

def readPattern (kind : Char) (text : List Char) : Except String (Regular × List String) :=
  let isBareClass := match text with
    | '[' :: ':' :: rest =>
      match rest.reverse with
      | ']' :: ':' :: name => name ≠ [] && name.all Char.isLower
      | _ => false
    | _ => false
  if kind = 'F' then .ok (literal text, [])
  else if isBareClass then .error bareClass
  else Regular.Dialect.readNoting { extended := kind = 'E' } text

end Searching

/-- Shows the lines in which something is found, which is written in a way of its own unless
options ask for another one. -/
def search (usual : Char) : Program := fun n program args => do
  let u : Usage :=
    { letters := "EFGPvqicnlLowxshHrRzaUbIyTZ0123456789\x06\x07\x08"
      valued := "efmABCdD\x01\x02\x03\x04\x05"
      names := [("extended-regexp", 'E'), ("fixed-strings", 'F'), ("basic-regexp", 'G'),
        ("perl-regexp", 'P'), ("regexp", 'e'), ("file", 'f'), ("ignore-case", 'i'),
        ("no-ignore-case", '\x07'), ("word-regexp", 'w'), ("line-regexp", 'x'),
        ("null-data", 'z'), ("no-messages", 's'), ("invert-match", 'v'), ("max-count", 'm'),
        ("byte-offset", 'b'), ("line-number", 'n'), ("line-buffered", '\x08'),
        ("with-filename", 'H'), ("no-filename", 'h'), ("label", '\x01'), ("only-matching", 'o'),
        ("quiet", 'q'), ("silent", 'q'), ("text", 'a'), ("directories", 'd'), ("devices", 'D'),
        ("recursive", 'r'), ("dereference-recursive", 'R'), ("include", '\x02'),
        ("exclude", '\x03'), ("exclude-dir", '\x04'), ("files-without-match", 'L'),
        ("files-with-matches", 'l'), ("count", 'c'), ("initial-tab", 'T'), ("null", 'Z'),
        ("before-context", 'B'), ("after-context", 'A'), ("context", 'C'),
        ("group-separator", '\x05'), ("no-group-separator", '\x06'), ("binary", 'U')]
      status := 2
      synopsis := "Usage: grep [OPTION]... PATTERNS [FILE]...\n" }
  let isColor (a : String) : Bool :=
    ["--color", "--colour", "--color=auto", "--color=never", "--colour=auto"].contains a
  withUsage u program (args.filter (!isColor ·)) fun r => do
    let last (letters : String) : Option Char :=
      (r.options.reverse.find? fun o => letters.toList.contains o.1).map (·.1)
    let all (letter : Char) : List String := (r.options.filter (·.1 = letter)).map (·.2)
    let misused : Act Unit :=
      Act.change fun s => ((s.put 2 u.synopsis).tryHelp program).finish 2
    let (texts, operands) := match r.has 'e' || r.has 'f', r.operands with
      | false, pattern :: operands => ([pattern], operands)
      | _, operands => (all 'e', operands)
    let kinds := (r.options.map (·.1)).filter fun c => "EFGP".toList.contains c
    let context (letter : Char) : Except String (Option Nat) :=
      match r.value? letter with
      | none => .ok none
      | some text =>
        match number? 10 text with
        | some k => if k < 0 then .error text else .ok (some k.toNat)
        | none => .error text
    let digits := (r.options.map (·.1)).filter Char.isDigit
    let most : Except String (Option Nat) := match r.value? 'm' with
      | none => .ok none
      | some text =>
        match number? 10 text with
        | some k => .ok (if k < 0 then none else some k.toNat)
        | none => .error "invalid max count"
    match context 'A', context 'B', context 'C', most with
    | .error e, _, _, _ | _, .error e, _, _ | _, _, .error e, _ =>
      Act.failed program s!"{e}: invalid context length argument" 2
    | _, _, _, .error e => Act.failed program e 2
    | .ok after, .ok before, .ok around, .ok most =>
      if 1 < kinds.eraseDups.length && kinds.contains 'F' && kinds.contains 'E' then
        Act.failed program "conflicting matchers specified" 2
      else if r.operands = [] && !(r.has 'e' || r.has 'f') then misused
      else
        let kind := kinds.getLast?.getD usual
        let around := around.or (if digits = [] then none else some (digitsValue 10 digits))
        let linesOfFile (path : String) : Act (Except String (List String)) := do
          match ← Act.readInput path with
          | .error fault => return .error (toldAfter path fault.why)
          | .ok bytes =>
            let lines := linesOf '\n' (Text.ofBytes bytes)
            return .ok (lines.map fun l => String.ofList (bare '\n' l))
        let fromFiles ← (all 'f').mapM linesOfFile
        match fromFiles.findSome? fun
          | .error e => some e
          | .ok _ => none with
        | some e => Act.failed program e 2
        | none =>
          let kept := (fromFiles.filterMap Except.toOption).flatten
          let given := texts.flatMap (·.splitOn "\n") ++ kept
          match given.mapM fun text => Searching.readPattern kind text.toList with
          | .error e => Act.failed program e 2
          | .ok patterns =>
            for sign in patterns.flatMap (·.2) do
              Act.change (·.complain program s!"warning: {sign} at start of expression")
            let recursive := r.has 'r' || r.has 'R' || r.value? 'd' = some "recurse"
            let files := if operands ≠ [] then operands else if recursive then ["."] else ["-"]
            let isFolder ← Act.get fun s => files.any s.isFolder
            let named := match last "hH" with
              | some c => c = 'H'
              | none => 1 < files.length || (recursive && isFolder)
            let hasContext := (after.or (before.or around)).isSome
            let plan : Searching.Plan :=
              { program, patterns := patterns.map (·.1)
                fold := last "iy\x07" ≠ some '\x07' && last "iy\x07" ≠ none
                words := r.has 'w', whole := r.has 'x', inverted := r.has 'v'
                ending := r.lineEnding, most
                before := (before.or around).getD 0, after := (after.or around).getD 0
                separator := if hasContext && !r.has '\x06' then some ((r.value? '\x05').getD "--")
                  else none
                report := if r.has 'q' then .nothing
                  else match last "lL" with
                    | some 'l' => .matching
                    | some _ => .missing
                    | none => if r.has 'c' then .count else if r.has 'o' then .parts else .lines
                named, numbered := r.has 'n', positions := r.has 'b', zeros := r.has 'Z'
                silent := r.has 's', texts := r.has 'a', textsOnly := r.has 'I'
                label := (r.value? '\x01').getD "(standard input)"
                included := all '\x02', excluded := all '\x03', excludedFolders := all '\x04'
                recursive, follow := r.has 'R'
                skipFolders := r.value? 'd' = some "skip" }
            Act.finish 0
            let files := if operands = [] && recursive then [""] else files
            let o ← plan.searchAll n files {}
            let status ← Act.get (·.status)
            if plan.report = .nothing && o.found then Act.finish 0
            else if status = 0 then Act.finish (if o.found then 0 else 1)

end Cutover.Shell
