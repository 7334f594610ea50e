import Cutover.Shell.Program.Input
import Cutover.Shell.Program.Size

/-!
# The ends of inputs

The programs that show the first or the last lines or bytes of their inputs.
-/
namespace Cutover.Shell

/-- How much of an input is shown. -/
structure Share where
  bytes : Bool := false
  number : Nat := 10
  inverted : Bool := false
  ending : Char := '\n'

namespace Share

def first {α : Type} (h : Share) (parts : List α) : List α :=
  if h.inverted then parts.take (parts.length - h.number) else parts.take h.number

def last {α : Type} (h : Share) (parts : List α) : List α :=
  if h.inverted then parts.drop (h.number - 1) else parts.drop (parts.length - h.number)

def of (h : Share) (atEnd : Bool) (text : List Char) : List Char :=
  if h.bytes then if atEnd then h.last text else h.first text
  else
    let lines := linesOf h.ending text
    (if atEnd then h.last lines else h.first lines).flatten

def after (h : Share) (text : List Char) : Share :=
  { h with number := h.number - if h.bytes then text.length else text.count h.ending }

end Share

def shareOf (atEnd : Bool) (r : Request) : Except String Share :=
  let h : Share := { ending := r.lineEnding }
  match r.options.reverse.find? fun o => o.1 = 'n' || o.1 = 'c' with
  | none => .ok h
  | some (letter, text) =>
    let sign := if atEnd then '+' else '-'
    let (inverted, digits) := match text.toList with
      | c :: ds => if c = sign then (true, ds) else if c = '-' || c = '+' then (false, ds)
        else (false, c :: ds)
      | [] => (false, [])
    match Size.read digits with
    | .ok number => .ok { h with bytes := letter = 'c', number, inverted }
    | .error e =>
      let what := if letter = 'c' then "bytes" else "lines"
      let shown := if inverted && !atEnd then String.ofList digits else text
      .error (s!"invalid number of {what}: " ++ Quoted.plain shown ++ e.message)

/-- A number right after a hyphen with letters behind it, in words that are options. A letter that
has no meaning there is a fault. -/
def firstShare (args : List String) : Except Char (List String) :=
  match args with
  | [] => .ok []
  | a :: rest =>
    match a.toList with
    | '-' :: c :: cs =>
      if !c.isDigit then .ok args
      else
        let digits := (c :: cs).takeWhile Char.isDigit
        let letters := (c :: cs).drop digits.length
        match letters.find? (!"bcklmqvz".toList.contains ·) with
        | some letter => .error letter
        | none =>
          let kind := if letters.any "bckm".toList.contains then "-c" else "-n"
          let size := ((letters.filter "bckm".toList.contains).getLast?).filter (· ≠ 'c')
          let others := letters.filter "qvz".toList.contains
          .ok (kind :: String.ofList (digits ++ size.toList) ::
            (others.map fun c => String.ofList ['-', c]) ++ rest)
    | _ => .ok args

/-- A number right after a sign, which stands alone or before the one operand, in words that are
options. -/
def lastShare (args : List String) : List String :=
  match args with
  | [] => []
  | a :: rest =>
    let isAlone := match rest with
      | [] => true
      | [b] => b = "-" || b.toList.head? ≠ some '-'
      | b :: _ => b = "--" && rest.length ≤ 2
    match a.toList with
    | sign :: cs =>
      let digits := cs.takeWhile Char.isDigit
      let letters := cs.drop digits.length
      let kinds := (letters.take 1).filter "bcl".toList.contains
      let isForm := [[], ['f']].contains (letters.drop kinds.length) &&
        (sign = '+' || digits ≠ [])
      if isAlone && (sign = '-' || sign = '+') && cs ≠ [] && isForm then
        let kind := if kinds = ['b'] || kinds = ['c'] then "-c" else "-n"
        let front := if sign = '+' then ['+'] else []
        let number := if digits = [] then "10".toList else digits
        let size := if kinds = ['b'] then ['b'] else []
        let follows := if letters.contains 'f' then ["-f"] else []
        kind :: String.ofList (front ++ number ++ size) :: follows ++ rest
      else args
    | [] => args

namespace Ends

/-- What is asked for. -/
structure Plan where
  program : String
  share : Share
  atEnd : Bool
  heads : Bool

def nameOf (arg : String) : String := if arg = "-" then "standard input" else arg

def telling : Telling where
  told arg fault :=
    let name := Quoted.always (nameOf arg)
    if fault.atOpening then s!"cannot open {name} for reading: {fault.why}"
    else if fault.why = badStream then s!"cannot fstat {name}: {fault.why}"
    else s!"error reading {name}: {fault.why}"

def Plan.head (plan : Plan) (shown : Bool) (arg : String) : Act Unit :=
  if plan.heads then
    Act.outputText plan.program
      ((if shown then "\n" else "") ++ "==> " ++ nameOf arg ++ " <==\n").toList
  else pure ()

/-- How many bytes are read of a stream at a time. -/
def chunk : Nat := 8192

/-- Shows the first part of a stream as it comes, and takes no more than is read at a time. -/
def Plan.showFirst (plan : Plan) (stream : Nat) : Nat → Share → Act (Except String Unit)
  | 0, _ => Act.lost
  | n + 1, h => do
    if h.number = 0 then return .ok ()
    let size := if h.bytes then min h.number chunk else chunk
    match ← Act.take stream fun bytes => bytes.extract 0 size with
    | .error e => return .error e
    | .ok bytes =>
      if bytes.isEmpty then return .ok ()
      let shown := h.of false (Text.ofBytes bytes)
      Act.outputText plan.program shown
      if ← Act.get (·.isEndless stream) then Act.delay Act.endlessTime
      plan.showFirst stream n (h.after shown)

/-- Shows the first part of what stays where it is, and takes no more than that. -/
def Plan.showFront (plan : Plan) (stream : Nat) : Act (Except String Unit) := do
  let front (bytes : ByteArray) : ByteArray :=
    Text.toBytes (plan.share.of false (Text.ofBytes bytes))
  match ← Act.take stream front with
  | .error e => return .error e
  | .ok bytes =>
    Act.output plan.program bytes
    return .ok ()

def Plan.showStream (plan : Plan) (n stream : Nat) : Act (Except String Unit) := do
  let stays ← Act.get (·.stays stream)
  if !plan.atEnd && stays then plan.showFront stream
  else if !plan.atEnd && !plan.share.inverted then plan.showFirst stream n plan.share
  else
    match ← Act.takeAll stream with
    | .error e => return .error e
    | .ok bytes =>
      Act.outputText plan.program (plan.share.of plan.atEnd (Text.ofBytes bytes))
      return .ok ()

def Plan.show (plan : Plan) (n : Nat) (inputs : List String) : Act Unit := do
  let use (shown : Bool) (arg : String) (stream : Nat) : Act (Except String Bool) := do
    plan.head shown arg
    let outcome ← plan.showStream n stream
    if let .error e := outcome then
      Act.failed plan.program (telling.told arg ⟨false, e⟩) 1
    return .ok true
  let _ ← Act.eachInput plan.program telling use inputs false
  Act.closeOwn plan.program telling inputs

/-- How often files are looked at that are followed, in microseconds. -/
def interval : Nat := 1000000

def followedStream : Nat := operandStream + 1

/-- Opens files again where they have been left. -/
def Plan.reopen (plan : Plan) : List String → Nat → List (String × Nat) →
    Act (List (String × Nat))
  | [], _, opened => return opened.reverse
  | arg :: args, stream, opened => do
    if arg = "-" then plan.reopen args stream ((arg, 0) :: opened)
    else
      match ← Act.openPath stream .input arg with
      | .error _ => plan.reopen args stream opened
      | .ok () =>
        let _ ← Act.take stream id
        plan.reopen args (stream + 1) ((arg, stream) :: opened)

/-- Shows what has come to files. `last` is the file shown last. -/
def Plan.showNews (plan : Plan) : List (String × Nat) → String → Act String
  | [], last => return last
  | (arg, stream) :: files, last => do
    match ← Act.take stream id with
    | .error _ => plan.showNews files last
    | .ok bytes =>
      if bytes.isEmpty then plan.showNews files last
      else
        if arg ≠ last then plan.head true arg
        Act.output plan.program bytes
        plan.showNews files arg

def Plan.follow (plan : Plan) : Nat → List (String × Nat) → String → Act Unit
  | 0, _, _ => Act.lost
  | n + 1, files, last => do
    Act.delay interval
    let last ← plan.showNews files last
    plan.follow n files last

end Ends

def showEnd (atEnd : Bool) : Program := fun n program args => do
  let u : Usage :=
    { letters := (if atEnd then "fFqvz" else "qvz") ++ "0123456789"
      valued := if atEnd then "ncs" else "nc"
      names := [("lines", 'n'), ("bytes", 'c'), ("quiet", 'q'), ("silent", 'q'), ("verbose", 'v'),
          ("zero-terminated", 'z')] ++
        if atEnd then [("follow", 'f'), ("sleep-interval", 's')] else [] }
  let trailing (letter : Char) : Act Unit :=
    if atEnd then Act.failed program s!"option used in invalid context -- {letter}" 1
    else Act.misused program s!"invalid trailing option -- {letter}" 1
  match if atEnd then .ok (lastShare args) else firstShare args with
  | .error letter => trailing letter
  | .ok args =>
    match (u.read args.length args {}).options.find? (·.1.isDigit) with
    | some (letter, _) => trailing letter
    | none => withUsage u program args fun r => do
      match shareOf atEnd r with
      | .error e => Act.failed program e 1
      | .ok share =>
        let manner := (r.options.reverse.find? fun o => o.1 = 'q' || o.1 = 'v').map (·.1)
        let heads := if manner = some 'q' then false
          else manner = some 'v' || 1 < r.operands.length
        let plan : Ends.Plan := { program, share, atEnd, heads }
        Act.finish 0
        plan.show n r.inputs
        if r.has 'f' || r.has 'F' then
          let stays ← Act.get (·.stays 0)
          let files := r.inputs.filter fun arg => arg ≠ "-" || stays
          let opened ← plan.reopen files Ends.followedStream []
          if opened ≠ [] || r.has 'F' then plan.follow n opened (files.getLastD "")

end Cutover.Shell
