import Cutover.Shell.Arithmetic
import Cutover.Shell.Connection
import Cutover.Shell.FileNames
import Cutover.Shell.Parameter
import Cutover.Shell.Program

/-!
# Running shell scripts

A script is what a process does, command by command. Its running is bounded by a number of
steps, and a script that takes more of them is lost. Commands whose outcome is asked about are
tested: their failure ends no script.
-/
namespace Cutover.Shell

/-- How many functions may be running. -/
def deepest : Nat := 1000

/-- What hangs on a part of a script. -/
structure Outlook where
  tested : Bool := false
  /-- Whether its process ends after it, so that a program may take the place of the shell. -/
  last : Bool := false

/-- A command whose words have been looked at as far as they tell what it is. -/
structure Call where
  args : List String
  rest : List Word
  functions : Bool := true
  /-- Whether an error ends the script; not known before the first word. -/
  special : Option Bool := none
  standard : Bool := false

def Call.target (c : Call) (s : State) : Target :=
  let s := if c.standard then
      (s.update fun p => { p with found := [] }).setVariable "PATH"
        (some { value := some standardPath })
    else s
  match c.args with
  | [] => .missing .notFound
  | name :: _ => s.target c.functions name

/-- Whether variables set in front of a command are gone after it. -/
def Call.lends (c : Call) (s : State) : Bool :=
  match c.target s with
  | .builtin => c.special != some true
  | _ => !c.args.isEmpty

def Call.replaces (c : Call) : Bool := c.args.head? = some "exec" && 1 < c.args.length

/-- The text that tells of a command before it runs. -/
def traceLine (front : String) (settings : List (String × String)) (args : List String) :
    String :=
  front ++ " ".intercalate (settings.map (fun e => e.1 ++ "=" ++ e.2) ++ args) ++ "\n"

def wordOfText (text : String) : Word :=
  match (readPieces (16 * text.length + 64) .document []).run { rest := text.toList } with
  | .ok (w, _) => w
  | .error _ => [.text text.toList true]

/-- The stream from which the output of a script inside of a word is taken; no script can name
it. -/
def captureStream : Nat := 1001

def changedChannels (s : State) (cs : List Connection) : List Nat :=
  cs.filterMap fun c => s.process.streams.lookup c.stream

def State.reconnect (s : State) (cs : List Connection) (streams : List (Nat × Nat))
    (held : List Nat) : State :=
  (cs.foldl (fun s c => s.connect c.stream (streams.lookup c.stream)) s).hold held

/-- Waits for a process that has been started for a command, and takes over its status. -/
def awaitChild (n number : Nat) : Act Unit := do
  let status ← awaitProcesses false [number] n
  Act.change fun s => (s.forgetProcesses [number]).finish status

/-- Tells why a program cannot be run, and ends the process. -/
def refuse (name : String) (e : FileError) : Act Unit :=
  Act.change fun s =>
    ((s.warn (State.whyNot name e)).finish (State.statusOf e)).turn .ended

def scriptText (bytes : ByteArray) : List Char := (Text.ofBytes bytes).filter (· ≠ '\x00')

/-- A text without so many lines in front. -/
def restAfter : Nat → List Char → List Char
  | 0, s => s
  | _ + 1, [] => []
  | n + 1, c :: s => if c = '\n' then restAfter n s else restAfter (n + 1) s

/-- The lines of a script that have been read between two places in it. -/
def linesRead (before after : List Char) : List Char :=
  before.take (before.length - after.length)

mutual

def expand : Nat → Manner → Word → Act (List Span)
  | 0, _, _ => Act.lost
  | _ + 1, _, [] => return []
  | n + 1, m, piece :: w => do
    let spans ← expandPiece n m piece
    return spans ++ (← expand n m w)

def expandPiece : Nat → Manner → Piece → Act (List Span)
  | 0, _, _ => Act.lost
  | n + 1, m, piece =>
    match piece with
    | .text text quoted =>
      let quoted := quoted || m.quoted
      let splitting := if m.inner && !quoted then Splitting.separators else .whole
      return [⟨splitting, cellsOfText quoted text⟩]
    | .quotation [.parameter "@" .plain []] =>
      if m.quoted then expandParameter n m "@" .plain []
      else expandParameter n { m with quoted := true } "@" .plain []
    | .quotation pieces => do
      let spans ← expand n { m with quoted := true } pieces
      let mark : List Span := if m.quoted then [] else [⟨.whole, [.mark]⟩]
      return mark ++ spans ++ mark
    | .parameter name use word => expandParameter n m name use word
    | .output script => do return [m.span (← capture n script)]
    | .sum expression => do
      let spans ← expand n { quoted := true } expression
      Act.draw fun s =>
        match Arithmetic.eval (textOf (cellsOf spans)) s with
        | .ok (v, s) => ([m.span (toString v).toList], s)
        | .error e => ([], s.error e)

def expandParameter : Nat → Manner → String → Use → Word → Act (List Span)
  | 0, _, _, _, _ => Act.lost
  | n + 1, m, name, use, word => do
    let s ← Act.state
    let value := s.parameter? m name
    let isEmpty := match value with
      | some span => span.cells.isEmpty
      | none => true
    let lacks (orEmpty : Bool) : Bool := if orEmpty then isEmpty else value.isNone
    let fail (message : String) : Act (List Span) := do
      Act.error message
      return []
    let notSet : Bool := value.isNone && s.option 'u'
    let unset : Act (List Span) := fail s!"{name}: parameter not set"
    match use with
    | .faulty => fail "Bad substitution"
    | .plain => if notSet then unset else return value.toList
    | .size =>
      if notSet then unset
      else
        let size := (value.map (·.cells.length)).getD 0
        return [m.span (toString size).toList]
    | .otherwise orEmpty =>
      if lacks orEmpty then expand n { m with inner := true } (s.tildes word)
      else return value.toList
    | .instead orEmpty =>
      if lacks orEmpty then return [] else expand n { m with inner := true } (s.tildes word)
    | .settled orEmpty =>
      if lacks orEmpty then
        let text ← textOfWord n word
        Act.change (·.assign name text)
        let s ← Act.state
        return (s.parameter? m name).toList
      else return value.toList
    | .demanded orEmpty =>
      if lacks orEmpty then
        if word.isEmpty then
          let orNull := if orEmpty then " or null" else ""
          fail s!"{name}: parameter not set{orNull}"
        else
          let text ← textOfWord n word
          fail s!"{name}: {text}"
      else return value.toList
    | .trimmed atEnd longest =>
      if notSet then unset
      else
        let p ← patternOfWord n word
        match value with
        | none => return []
        | some span =>
          let text := trimmed p atEnd longest (textOf span.cells).toList
          return [⟨span.splitting, cellsOfText m.quoted text⟩]

def capture : Nat → Script → Act (List Char)
  | 0, _ => Act.lost
  | _ + 1, .skip => return []
  | n + 1, script => do
    let held ← Act.get (·.process.held)
    Act.change (·.clearJob)
    let (outlet, inlet) ← Act.draw (·.newPipe)
    let prepare (s : State) : Process :=
      ((s.hold held).connect 1 (some inlet)).process.child
    let number ← Act.fork prepare (conclude n (run n { last := true } script))
    Act.change fun s => (s.hold held).connect captureStream (some outlet)
    let bytes ← Act.takeAll captureStream
    Act.change (·.connect captureStream none)
    let status ← awaitProcesses false [number] n
    Act.change fun s => (s.forgetProcesses [number]).update fun p => { p with inner := status }
    return givenText (bytes.toOption.getD ByteArray.empty)

def textOfWord : Nat → Word → Act String
  | 0, _ => Act.lost
  | n + 1, w => do
    let s ← Act.state
    return textOf (cellsOf (← expand n {} (s.tildes w)))

def valueOfWord : Nat → Bool → Word → Act String
  | 0, _, _ => Act.lost
  | n + 1, named, w => do
    let s ← Act.state
    return textOf (cellsOf (← expand n {} (s.valueTildes named w)))

def patternOfWord : Nat → Word → Act Pattern
  | 0, _ => Act.lost
  | n + 1, w => do
    let s ← Act.state
    return patternOfCells (cellsOf (← expand n {} (s.tildes w)))

def fieldsOfWord : Nat → Word → Act (List String)
  | 0, _ => Act.lost
  | n + 1, w => do
    let s ← Act.state
    let spans ← expand n { full := true } (s.tildes w)
    let s ← Act.state
    return (fieldsOf s.separators none spans).flatMap (pathsOf s)

def fieldsOfWords : Nat → Bool → List Word → Act (List String)
  | 0, _, _ => Act.lost
  | _ + 1, _, [] => return []
  | n + 1, setting, w :: ws => do
    let fields ←
      if setting && (setting? w).isSome then List.singleton <$> valueOfWord n true w
      else fieldsOfWord n w
    return fields ++ (← fieldsOfWords n setting ws)

def firstFields : Nat → List Word → Act (List String × List Word)
  | 0, _ => Act.lost
  | _ + 1, [] => return ([], [])
  | n + 1, w :: ws => do
    let fields ← fieldsOfWord n w
    if fields.isEmpty then firstFields n ws else return (fields, ws)

/-- Finds out what a command is. The word in front of it that leaves functions out is dropped,
unless it asks what a name stands for. -/
def resolve : Nat → Call → Act Call
  | 0, _ => Act.lost
  | n + 1, c => do
    let s ← Act.state
    match c.target s, c.args with
    | .builtin, name :: _ =>
      let c := { c with special := some (c.special.getD (specialCommands.contains name)) }
      if name = "command" then
        match ← afterOptions n c with
        | (none, c) => return c
        | (some args, c) => resolve n { c with args, functions := false }
      else return c
    | _, _ => return { c with special := some (c.special.getD false) }

/-- The words after the first word of a command and its options, if there are any and no option
asks what a name stands for. -/
def afterOptions : Nat → Call → Act (Option (List String) × Call)
  | 0, _ => Act.lost
  | n + 1, c =>
    match c.args with
    | first :: arg :: args =>
      if arg = "--" then
        match args, c.rest with
        | [], w :: ws => do
          let (fields, rest) ← firstFields n (w :: ws)
          let c := { c with args := first :: arg :: fields, rest }
          return (if fields.isEmpty then none else some fields, c)
        | [], [] => return (none, c)
        | args, _ => return (some args, c)
      else if arg = "-p" then do
        match ← afterOptions n { c with args := first :: args } with
        | (none, c) => return (none, { c with args := first :: arg :: c.args.tail })
        | (found, c) => return (found, { c with standard := true })
      else if arg.startsWith "-" && arg ≠ "-" then return (none, c)
      else return (some (arg :: args), c)
    | _ =>
      match c.rest with
      | [] => return (none, c)
      | ws => do
        let (fields, rest) ← firstFields n ws
        let c := { c with args := c.args ++ fields, rest }
        if fields.isEmpty then return (none, c) else afterOptions n c

def connectionOf : Nat → Redirect → Act (Option Connection)
  | 0, _ => Act.lost
  | n + 1, r =>
    match r with
    | .file stream opening path => do return some (.file stream opening (← textOfWord n path))
    | .copy stream source => do
      let found := copyOf? stream (← textOfWord n source)
      if found.isNone then
        Act.update fun p => { p with line := p.reading.headD 1 }
        Act.error "Syntax error: Bad fd number"
      return found
    | .document stream number => return some (.document stream number)

def connections : Nat → List Redirect → Act (List Connection)
  | 0, _ => Act.lost
  | _ + 1, [] => return []
  | n + 1, r :: rs => do
    let found ← connectionOf n r
    return found.toList ++ (← connections n rs)

/-- Makes a connection, or gives why it cannot be made, unless that has been told. -/
def connectOne : Nat → Connection → Act (Except (Option String) Unit)
  | 0, _ => Act.lost
  | n + 1, c =>
    match c with
    | .file stream opening path => do
      let result : Except String (State → Bool) ← Act.draw fun s =>
        match s.openFile stream opening path with
        | .ok o => (.ok o.ready, o.state)
        | .error e => (.error e, s)
      match result with
      | .error e => return .error (some e)
      | .ok ready =>
        Act.await ready
        return .ok ()
    | .copy stream source =>
      Act.draw fun s =>
        match s.copyStream stream source with
        | .ok s => (.ok (), s)
        | .error e => (.error (some e), s)
    | .close stream => do
      Act.change (·.connect stream none)
      return .ok ()
    | .document stream number => do
      let s ← Act.state
      match ← Act.attempt (expand n { quoted := true } ((s.documents[number]?).getD [])) with
      | none => return .error none
      | some spans =>
        let text := Text.toBytes (textOf (cellsOf spans)).toList
        Act.change (·.attach stream (.stored text 0))
        return .ok ()

/-- Makes connections; the first one that cannot be made is told of. That the errors cannot go
where another stream does is told of only if they are not `saved`: those that are come back later,
and go nowhere until then. -/
def connect : Nat → Bool → List Connection → Act Bool
  | 0, _, _ => Act.lost
  | _ + 1, _, [] => return true
  | n + 1, saved, c :: cs => do
    match ← connectOne n c, c with
    | .ok (), c => connect n (saved && c.stream ≠ 2) cs
    | .error none, _ =>
      Act.finish 2
      return false
    | .error (some e), c =>
      let isSilent := match c with
        | .copy 2 _ => saved
        | _ => false
      Act.change fun s => (if isSilent then s else s.warn e).finish 2
      return false

def setAll : Nat → Bool → Bool → List (String × Word) → Act (List (String × String))
  | 0, _, _, _ => Act.lost
  | _ + 1, _, _, [] => return []
  | n + 1, lends, exported, (name, w) :: rest => do
    let value ← valueOfWord n false w
    Act.change fun s =>
      if lends then s.lend name value
      else if exported then s.assignExported name value
      else s.assign name value
    return (name, value) :: (← setAll n lends exported rest)

def runSimple : Nat → Outlook → List (String × Word) → List Word → List Redirect → Act Unit
  | 0, _, _, _, _ => Act.lost
  | n + 1, o, settings, words, redirects => do
    Act.update fun p => { p with inner := 0 }
    let (args, rest) ← firstFields n words
    let c ← resolve n { args, rest }
    let s ← Act.state
    let isSetter := match c.target s with
      | .builtin => setters.contains (c.args.headD "")
      | _ => false
    let others ← fieldsOfWords n isSetter c.rest
    runCall n o { c with args := c.args ++ others, rest := [] } settings redirects

def runCall : Nat → Outlook → Call → List (String × Word) → List Redirect → Act Unit
  | 0, _, _, _, _ => Act.lost
  | n + 1, o, c, settings, redirects => do
    let before ← Act.state
    let special := c.special.getD false && !c.args.isEmpty
    let lends := c.lends before
    let streams := before.process.streams
    let held := before.process.held
    let cs ← connections n redirects
    if lends then Act.change (·.enter)
    let restore (s : State) : State :=
      (if lends then s.leave else s).reconnect cs streams held
    Act.change fun s => s.hold (changedChannels s cs ++ held)
    let made ← Act.onStop (connect n true cs) restore
    if !made then
      Act.settle (Act.change fun s => if special then s.turn .failed else s) restore
    else
      let body : Act Unit := do
        let set ← setAll n lends c.replaces settings
        let s ← Act.state
        if s.option 'x' && !s.process.tracing then trace n set c.args streams
        perform n o c
      if c.args = ["exec"] then
        Act.settle body fun s => (if lends then s.leave else s).hold held
      else Act.settle body restore

/-- Tells of a command on the error output as it was before. -/
def trace : Nat → List (String × String) → List String → List (Nat × Nat) → Act Unit
  | 0, _, _, _ => Act.lost
  | n + 1, set, args, streams => do
    let s ← Act.state
    let front := (s.value? "PS4").getD ""
    Act.update fun p => { p with tracing := true }
    let spans ← if front.toList.any "$\\\x60".toList.contains
      then Act.attempt (expand n { quoted := true } (wordOfText front))
      else pure none
    let shown := (spans.map fun spans => textOf (cellsOf spans)).getD front
    Act.change fun s =>
      let inner := s.process.streams
      let outer := s.update fun p => { p with streams }
      (outer.put 2 (traceLine shown set args)).update fun p =>
        { p with streams := inner, tracing := false }

def perform : Nat → Outlook → Call → Act Unit
  | 0, _, _ => Act.lost
  | n + 1, o, c => do
    let s ← Act.state
    match c.args with
    | [] => Act.finish s.process.inner
    | name :: args =>
      match c.target s with
      | .function body => callFunction n o body args
      | .builtin =>
        Act.settle (callBuiltin n o name args) (·.excused (c.special.getD false))
      | .program path =>
        unless c.standard do Act.change (·.find name path)
        let body := execute n true refuse path name args
        if o.last && s.process.traps.all (·.2 = "") then body
        else
          Act.change (·.clearJob)
          awaitChild n (← Act.fork (·.process.child) body)
      | .missing e => Act.change fun s => (s.warn (State.whyNot name e)).finish 127

def callFunction : Nat → Outlook → Script → List String → Act Unit
  | 0, _, _, _ => Act.lost
  | n + 1, o, body, args => do
    let p := (← Act.state).process
    if deepest ≤ p.depth then Act.error s!"Maximum function recursion depth ({deepest}) reached"
    else
      Act.update fun p =>
        { p with args, loops := 0, next := 1, letters := none, depth := p.depth + 1 }
      Act.settle (run n { tested := o.tested } body) fun s =>
        let s := s.update fun q =>
          { q with
            args := p.args, loops := p.loops, next := p.next, letters := p.letters
            depth := p.depth }
        s.afterReturn

def callBuiltin : Nat → Outlook → String → List String → Act Unit
  | 0, _, _, _ => Act.lost
  | n + 1, o, name, args => do
    let running := (← Act.state).process.running
    Act.update fun p => { p with running := some name }
    let body : Act Unit := match name with
      | "eval" =>
        if args = [] then Act.finish 0
        else runText n { tested := o.tested } false (" ".intercalate args).toList
      | "." => includeFile n args
      | "exec" => replaceShell n args
      | "command" => Act.change (tellCommand args)
      | "type" => Act.change (·.describe true true args)
      | "hash" => Act.change (remember args)
      | _ =>
        match builtin? name with
        | some f => f n args
        | none => Act.finish 127
    Act.settle body fun s => s.update fun p => { p with running }

/-- Runs the script in a file as a part of this one. A name without a slash is looked for in the
folders of programs. -/
def includeFile : Nat → List String → Act Unit
  | 0, _ => Act.lost
  | n + 1, args => do
    let o := options "" "" args.length args
    match o.fault, o.rest with
    | some e, _ => Act.error e
    | none, [] => Act.finish 0
    | none, path :: _ =>
      let s ← Act.state
      let isFile (path : String) : Bool :=
        match s.entryAt? path with
        | some (.file _) => true
        | _ => false
      let found := if path.contains '/' then some path
        else (State.candidates ((s.value? "PATH").getD "") path).find? isFile
      match found with
      | none => Act.error s!"{path}: not found"
      | some path =>
        match ← Act.withInput path Act.takeAll with
        | .ok bytes =>
          Act.update fun p => { p with running := some path }
          Act.settle (runText n {} true (scriptText bytes)) (·.afterReturn)
        | .error _ =>
          match s.openPath operandStream .input path with
          | .ok _ => Act.finish 0
          | .error e => Act.error (Opening.input.refusal path e)

def replaceShell : Nat → List String → Act Unit
  | 0, _ => Act.lost
  | _ + 1, [] => Act.finish 0
  | n + 1, name :: args => do
    match (← Act.state).resolveName name with
    | .error e => refuse name e
    | .ok path => execute n true refuse path name args

/-- Runs the file at a path in this process, and tells if that cannot be done. -/
def execute : Nat → Bool → (String → FileError → Act Unit) → String → String → List String →
    Act Unit
  | 0, _, _, _, _, _ => Act.lost
  | n + 1, byShell, deny, path, name, args => do
    let s ← Act.state
    match s.startLine byShell path name args with
    | .error e => deny name e
    | .ok (program, called, args) =>
      Act.change fun s => (if byShell then s.tell else s).update (·.renewed)
      Act.delay startTime
      runProgram n program called args
      Act.change (·.turn .ended)

/-- Runs a program of the system under the name that it has been called by. -/
def runProgram : Nat → String → String → List String → Act Unit
  | 0, _, _, _ => Act.lost
  | n + 1, program, called, args =>
    match starters.lookup program with
    | some f => f (launchFor n called) n called args
    | none =>
      match programs.lookup program with
      | some f => f n called args
      | none => start n called args

/-- Runs a program for another one, which tells if that cannot be done. -/
def launchFor : Nat → String → List String → Act Unit
  | 0, _, _ => Act.lost
  | _ + 1, _, [] => Act.finish 0
  | n + 1, program, name :: args => do
    let deny (name : String) (e : FileError) : Act Unit := Act.change (unstarted program name e)
    let s ← Act.state
    match s.resolveFor name with
    | .error e => deny name e
    | .ok path => execute n false deny path name args

def start : Nat → String → List String → Act Unit
  | 0, _, _ => Act.lost
  | n + 1, name, args => do
    Act.change (·.newShell name)
    let s ← Act.state
    let a := ShellArguments.ofList true args s
    let a := if a.fault.isNone && a.script && a.rest = [] then
        { a with fault := some "-c requires an argument" }
      else a
    Act.change fun _ => a.settled a.started
    if a.fault.isSome then return
    match a.script, a.rest with
    | true, [] => return
    | true, text :: rest =>
      Act.update fun p => { p with name := rest.headD name, args := rest.tail }
      conclude n (runText n { last := true } false text.toList)
    | false, [] => runInput n
    | false, path :: rest =>
      if a.state.option 's' then
        Act.update fun p => { p with args := path :: rest }
        runInput n
      else
        match ← Act.openPath operandStream .input path with
        | .error e => Act.error (Opening.input.refusal path e)
        | .ok () =>
          let bytes ← Act.takeAll operandStream
          Act.close operandStream
          Act.update fun p => { p with name := path, args := rest }
          let text := scriptText (bytes.toOption.getD ByteArray.empty)
          conclude n (runSource n {} true false { rest := text })

def runInput : Nat → Act Unit
  | 0 => Act.lost
  | n + 1 => do
    match ← Act.takeAll 0 with
    | .ok bytes => conclude n (runSource n {} true false { rest := scriptText bytes })
    | .error _ => Act.finish 0

/-- Runs the text of a script inside of another one. Where the text comes from a file, its lines
may be told as they are read. -/
def runText : Nat → Outlook → Bool → List Char → Act Unit
  | 0, _, _, _ => Act.lost
  | n + 1, o, told, text => do
    let reading ← Act.get (·.process.reading)
    Act.update fun p => { p with reading := 1 :: reading }
    Act.settle (runSource n o told false { rest := text })
      (·.update fun p => { p with reading })

/-- Runs what is left of the text of a script, of which some has been run. -/
def runSource : Nat → Outlook → Bool → Bool → Source → Act Unit
  | 0, _, _, _, _ => Act.lost
  | n + 1, o, told, begun, source => do
    let s ← Act.state
    let source := { source with documents := s.documents, aliases := s.process.aliases : Source }
    let tell (rest : List Char) : Act Unit :=
      if told && s.option 'v' then
        Act.change (·.put 2 (String.ofList (linesRead source.rest rest)))
      else pure ()
    match source.next with
    | .finish =>
      tell []
      if begun then pure () else Act.finish 0
    | .faulty f =>
      tell (restAfter (f.line + 1 - source.line) source.rest)
      Act.update fun p => { p with line := f.line }
      Act.error s!"Syntax error: {f.message}"
    | .line a rest =>
      tell rest.rest
      Act.change fun s => { s with documents := rest.documents }
      Act.update fun p => { p with reading := rest.line :: p.reading.tail }
      match a with
      | .skip => runSource n o told begun rest
      | a =>
        let atEnd := rest.rest = [] && source.rest.getLast? ≠ some '\n'
        run n { o with last := o.last && atEnd } a
        runSource n o told true rest

/-- Ends a process after what it does: what it is to do at the end is done. -/
def conclude : Nat → Act Unit → Act Unit
  | 0, _ => Act.lost
  | n + 1, body => do
    Act.caught body
    let s ← Act.state
    match s.process.traps.lookup 0 with
    | none => Act.change id
    | some action =>
      if s.flow = .lost || s.process.killer.isSome then Act.change id
      else
        let before := s.status
        Act.change fun s =>
          (s.update fun p =>
            { p with
              traps := p.traps.filter (·.1 ≠ 0), kept := some before, running := none }).turn .going
        Act.settle (runText n {} false action.toList) fun s =>
          match s.flow with
          | .lost | .failed | .ended => s
          | _ => s.finish before

def runTraps : Nat → Act Unit
  | 0 => Act.lost
  | n + 1 => do
    let s ← Act.state
    match s.nextTrap? with
    | none => pure ()
    | some (action, after) =>
      let kept := s.process.kept
      let before := kept.getD s.status
      Act.change fun _ => after.update fun p => { p with kept := some before }
      Act.settle (runText n {} false action.toList) fun s =>
        let s := s.update fun p => { p with kept }
        match s.flow with
        | .lost | .failed | .ended | .returning true => s
        | _ => s.finish before
      runTraps n

def run : Nat → Outlook → Script → Act Unit
  | 0, _, _ => Act.lost
  | n + 1, o, script => do
    if (← Act.state).option 'n' then return
    let body : Act Unit := do
      runPart n o script
      unless (← Act.state).process.signals.isEmpty do runTraps n
    Act.settle body fun s => if script.isOneCommand then s.checked o.tested else s

def runPart : Nat → Outlook → Script → Act Unit
  | 0, _, _ => Act.lost
  | n + 1, o, script =>
    match script with
    | .skip => pure ()
    | .simple line settings words redirects => do
      Act.update fun p => { p with line }
      Act.delay commandTime
      runSimple n o settings words redirects
    | .seq a b => do
      run n { tested := o.tested } a
      run n o b
    | .both a b => do
      run n { tested := true } a
      if (← Act.state).status = 0 then run n o b
    | .either a b => do
      run n { tested := true } a
      if (← Act.state).status ≠ 0 then run n o b
    | .inverse a => do
      run n { tested := true } a
      Act.change fun s => s.finish (if s.status = 0 then 1 else 0)
    | .pipe parts => do
      Act.change (·.clearJob)
      let held ← Act.get (·.process.held)
      let numbers ← runParts n o.tested false held parts none []
      let status ← awaitProcesses false numbers n
      Act.change fun s => (s.forgetProcesses numbers).finish status
    | .choice test yes no => do
      run n { tested := true } test
      if (← Act.state).status = 0 then run n o yes
      else
        match no with
        | .skip => Act.finish 0
        | no => run n o no
    | .loop goal test body => do
      let loops ← Act.get (·.process.loops)
      Act.update fun p => { p with loops := loops + 1 }
      Act.settle (rounds n o goal test body 0) fun s => s.update fun p => { p with loops }
    | .each line name words body => do
      Act.update fun p => { p with line }
      let values ← fieldsOfWords n false words
      let loops ← Act.get (·.process.loops)
      Act.update fun p => { p with loops := loops + 1 }
      Act.settle (eachRound n o name values body 0) fun s => s.update fun p => { p with loops }
    | .arms line subject cases => do
      Act.update fun p => { p with line }
      firstArm n o (← textOfWord n subject) cases
    | .apart line a redirects => do
      Act.update fun p => { p with line }
      let cs ← connections n redirects
      let inner : Act Unit := do
        if ← connect n false cs then conclude n (run n { tested := o.tested, last := true } a)
      let s ← Act.state
      if o.last && s.process.traps.all (·.2 = "") then
        Act.update (·.child)
        inner
        Act.change (·.turn .ended)
      else
        Act.change (·.clearJob)
        let number ← Act.fork (·.process.child) inner
        awaitChild n number
    | .background a => do
      let held ← Act.get (·.process.held)
      let parts := match a with
        | .pipe parts => parts
        | a => [a]
      let numbers ← runParts n false true held parts none []
      Act.change fun s => (s.addJob numbers).finish 0
    | .redirected line a redirects => do
      let before ← Act.state
      let streams := before.process.streams
      let held := before.process.held
      Act.update fun p => { p with line }
      let cs ← connections n redirects
      Act.change fun s => s.hold (changedChannels s cs ++ held)
      let restore (s : State) : State := s.reconnect cs streams held
      let made ← Act.onStop (connect n true cs) restore
      Act.settle (if made then run n { tested := o.tested } a
        else Act.change (·.checked o.tested)) restore
    | .define name body => Act.change fun s =>
        let others := s.process.functions.filter (·.1 ≠ name)
        (s.update fun p => { p with functions := (name, body) :: others }).finish 0

/-- Starts the parts of a pipe, each of which takes what the one before puts out. Gives the
numbers of their processes, the last one first. -/
def runParts : Nat → Bool → Bool → List Nat → List Script → Option Nat → List Nat →
    Act (List Nat)
  | 0, _, _, _, _, _, _ => Act.lost
  | _ + 1, _, _, _, [], _, numbers => return numbers
  | n + 1, tested, background, held, a :: rest, input, numbers => do
    unless rest.isEmpty && input.isNone do Act.change (·.foresee a)
    let ends : Option (Nat × Nat) ←
      if rest.isEmpty then pure none else some <$> Act.draw (·.newPipe)
    let prepare (s : State) : Process :=
      let s := s.hold held
      let s := match input with
        | some i => s.connect 0 (some i)
        | none => if background then s.attach 0 (.device .null Opening.input.access) else s
      let s := match ends with
        | some (_, inlet) => s.connect 1 (some inlet)
        | none => s
      if background then s.process.child.inBackground else s.process.child
    let body := conclude n (run n { tested, last := true } a)
    let number ← Act.fork prepare body
    let next := ends.map (·.1)
    Act.change (·.hold (next.toList ++ held))
    runParts n tested background held rest next (number :: numbers)

def rounds : Nat → Outlook → Bool → Script → Script → Nat → Act Unit
  | 0, _, _, _, _, _ => Act.lost
  | n + 1, o, goal, test, body, status => do
    Act.caught (run n { tested := true } test)
    let s ← Act.state
    if s.flow = .going && (s.status = 0) ≠ goal then Act.finish status
    else
      let status ←
        if s.flow = .going then do
          Act.caught (run n { tested := o.tested } body)
          Act.get (·.status)
        else
          match s.flow with
          | .returning _ => pure s.status
          | _ => pure status
      if ← Act.draw (·.nextRound status) then rounds n o goal test body status

def eachRound : Nat → Outlook → String → List String → Script → Nat → Act Unit
  | 0, _, _, _, _, _ => Act.lost
  | _ + 1, _, _, [], _, status => Act.change (·.afterLoop status)
  | n + 1, o, name, value :: values, body, _ => do
    Act.change (·.assign name value)
    Act.caught (run n { tested := o.tested } body)
    let status ← Act.get (·.status)
    if ← Act.draw (·.nextRound status) then eachRound n o name values body status

def firstArm : Nat → Outlook → String → List (List Word × Script) → Act Unit
  | 0, _, _, _ => Act.lost
  | _ + 1, _, _, [] => Act.finish 0
  | n + 1, o, subject, (patterns, body) :: rest => do
    if ← anyFits n subject patterns then
      match body with
      | .skip => Act.finish 0
      | body => run n o body
    else firstArm n o subject rest

def anyFits : Nat → String → List Word → Act Bool
  | 0, _, _ => Act.lost
  | _ + 1, _, [] => return false
  | n + 1, subject, w :: ws => do
    let p ← patternOfWord n w
    if fits p subject.toList then return true else anyFits n subject ws

end

end Cutover.Shell
