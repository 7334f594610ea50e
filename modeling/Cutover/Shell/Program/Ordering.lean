import Cutover.Shell.Program.Input
import Cutover.Shell.Program.Key

/-!
# Putting lines in order

The programs that sort lines, drop lines that are equal to the one before, and compare the
sorted lines of two inputs.
-/
namespace Cutover.Shell

namespace Sorting

/-- How lines are put in order. -/
structure Plan where
  keys : List SortKey
  separator : Option Char
  reversed : Bool
  /-- Whether lines stay in their order that have the same keys. -/
  stable : Bool
  unique : Bool

def Plan.byKeys (plan : Plan) (a b : List Char) : Ordering :=
  plan.keys.foldl (fun o k => o.then (k.order plan.separator a b)) .eq

def Plan.order (plan : Plan) (a b : List Char) : Ordering :=
  let o := plan.byKeys a b
  if plan.keys ≠ [] && (o ≠ .eq || plan.stable || plan.unique) then o
  else
    let o := compare a b
    if plan.reversed then o.swap else o

/-- Whether a line may stand before another one. -/
def Plan.inOrder (plan : Plan) (a b : List Char) : Bool := plan.order a b != .gt

def Plan.distinct (plan : Plan) : List (List Char) → List (List Char)
  | a :: b :: rest =>
    if plan.order a b = .eq then plan.distinct (a :: rest) else a :: plan.distinct (b :: rest)
  | rest => rest

def Plan.disorder? (plan : Plan) (number : Nat) : List (List Char) → Option (Nat × List Char)
  | a :: b :: rest =>
    let o := plan.order a b
    if o = .gt || (plan.unique && o = .eq) then some (number + 1, b)
    else plan.disorder? (number + 1) (b :: rest)
  | _ => none

/-- The keys that options ask for. What holds for all lines holds for keys that tell nothing. -/
def keysOf (r : Request) : Except String (List SortKey) := do
  let keys ← (r.options.filter (·.1 = 'k')).mapM fun o => SortKey.read o.2
  let manner := (r.options.map (·.1)).filter SortKey.manners.contains
  let skips := r.has 'b'
  let general : SortKey := { skips, lastSkips := skips, manner }
  let all := if keys = [] then
      if manner.all (· = 'r') && !skips then [] else [general]
    else keys.map fun k => if k.isPlain then { k with skips, lastSkips := skips, manner } else k
  match (general :: all).findSome? SortKey.clash? with
  | some letters => .error s!"options '-{letters}' are incompatible"
  | none => return all

def separatorOf (r : Request) : Except String (Option Char) :=
  match r.value? 't' with
  | none => .ok none
  | some text =>
    match text.toList with
    | [] => .error "empty tab"
    | [c] => .ok (some c)
    | ['\\', '0'] => .ok (some '\x00')
    | _ => .error ("multi-character tab " ++ Quoted.plain text)

def told (arg : String) (fault : InputFault) : String :=
  let what := if fault.why = badStream then "stat failed: "
    else if fault.atOpening then "cannot read: " else "read failed: "
  what ++ toldAfter arg fault.why

/-- The lines of all inputs, each apart. The first one that cannot be read ends the program. -/
def readAll (program : String) (ending : Char) : List String → Act (List (List (List Char)))
  | [] => return []
  | arg :: args => do
    match ← Act.readInput arg with
    | .error fault =>
      Act.change fun s => (s.failed program (told arg fault) 2).turn .ended
      return []
    | .ok bytes =>
      let lines := (linesOf ending (Text.ofBytes bytes)).map (bare ending)
      return lines :: (← readAll program ending args)

def missing? (s : State) (inputs : List String) : Option (String × FileError) :=
  inputs.findSome? fun arg =>
    if arg = "-" then none
    else
      match s.locate arg with
      | .ok (_, some _) => none
      | .ok (_, none) => some (arg, .notFound)
      | .error e => some (arg, e)

def write (program : String) (ending : Char) (target : Option String) (lines : List (List Char)) :
    Act Unit := do
  let text := Text.toBytes (lines.flatMap fun l => l ++ [ending])
  match target with
  | none =>
    let told (e : String) : String :=
      s!"fflush failed: 'standard output': {e}\n{program}: write error"
    Act.change (·.outputTelling program 2 told text)
    Act.awaitRoom 1
  | some path =>
    match ← Act.openPath operandStream .output path with
    | .error e => Act.failed program ("open failed: " ++ toldAfter path e.cause) 2
    | .ok () =>
      Act.change fun s => (s.write operandStream text).1
      Act.close operandStream

end Sorting

def sort : Program := fun _ program args => do
  let u : Usage :=
    { letters := "bcCdfghiMmnRrsuVz"
      valued := "koStT"
      names := [("numeric-sort", 'n'), ("reverse", 'r'), ("unique", 'u'), ("key", 'k'),
        ("field-separator", 't'), ("check", 'c'), ("output", 'o'), ("merge", 'm'),
        ("stable", 's'), ("zero-terminated", 'z'), ("ignore-case", 'f'),
        ("ignore-leading-blanks", 'b'), ("dictionary-order", 'd'),
        ("general-numeric-sort", 'g'), ("human-numeric-sort", 'h'), ("month-sort", 'M'),
        ("ignore-nonprinting", 'i'), ("version-sort", 'V')]
      status := 2 }
  withUsage u program args fun r => do
    let checking := ['c', 'C'].filter r.has
    let target := r.value? 'o'
    let inputs := r.inputs
    match Sorting.keysOf r, Sorting.separatorOf r with
    | .error e, _ | _, .error e => Act.failed program e 2
    | .ok keys, .ok separator =>
      let plan : Sorting.Plan :=
        { keys, separator, reversed := r.has 'r', stable := r.has 's', unique := r.has 'u' }
      match checking, inputs with
      | [_, _], _ => Act.failed program "options '-cC' are incompatible" 2
      | [c], [arg] =>
        if target.isSome then
          Act.failed program s!"options '-{c}o' are incompatible" 2
        else
          match Sorting.missing? (← Act.state) [arg] with
          | some (arg, e) => Act.failed program ("open failed: " ++ toldAfter arg e.cause) 2
          | none =>
            let lines ← Sorting.readAll program r.lineEnding [arg]
            match plan.disorder? 1 lines.flatten with
            | none => Act.finish 0
            | some (number, line) =>
              if c = 'c' then
                Act.failed program s!"{arg}:{number}: disorder: {String.ofList line}" 1
              else Act.finish 1
      | [c], _ :: extra :: _ =>
        Act.failed program s!"extra operand {Quoted.plain extra} not allowed with -{c}" 2
      | _, inputs =>
        match Sorting.missing? (← Act.state) inputs with
        | some (arg, e) => Act.failed program ("cannot read: " ++ toldAfter arg e.cause) 2
        | none =>
          let all ← Sorting.readAll program r.lineEnding inputs
          let ordered := if r.has 'm' then all.foldl (fun a b => a.merge b plan.inOrder) []
            else all.flatten.mergeSort plan.inOrder
          Act.finish 0
          Sorting.write program r.lineEnding target
            (if plan.unique then plan.distinct ordered else ordered)

namespace Runs

/-- Which lines are shown of those that are equal one after the other. -/
structure Plan where
  ending : Char
  counts : Bool
  /-- Whether lines are shown that stand alone, and those that do not. -/
  single : Bool
  repeated : Bool
  /-- Whether all lines are shown, and where an empty line is put between runs. -/
  all : Bool
  gaps : Option String
  fold : Bool
  fields : Nat
  chars : Nat
  width : Option Nat

/-- A run of equal lines: the last one first, and whether something has been shown before. -/
structure Run where
  lines : List (List Char) := []
  shown : Bool := false

def Plan.key (plan : Plan) (line : List Char) : List Char :=
  let rest := (SortKey.dropFields none plan.fields line).drop plan.chars
  let rest := match plan.width with
    | some w => rest.take w
    | none => rest
  if plan.fold then rest.map Char.toUpper else rest

def Plan.text (plan : Plan) (run : Run) : List Char × Bool :=
  let lines := run.lines.reverse
  let count := lines.length
  let wanted := if count = 1 then plan.single else plan.repeated
  if lines = [] || !wanted then ([], run.shown)
  else
    let front := if plan.counts then (rightIn 7 (toString count) ++ " ").toList else []
    let gap : List Char := match plan.gaps with
      | some "prepend" | some "both" => [plan.ending]
      | some "separate" => if run.shown then [plan.ending] else []
      | _ => []
    let after : List Char := match plan.gaps with
      | some "append" => [plan.ending]
      | _ => []
    let kept := if plan.all then lines else lines.take 1
    (gap ++ kept.flatMap (fun l => front ++ l ++ [plan.ending]) ++ after, true)

def Plan.step (plan : Plan) (state : List Char × Run) (line : List Char) : List Char × Run :=
  let (text, run) := state
  match run.lines with
  | last :: _ =>
    if plan.key last = plan.key line then
      (text, { run with lines := line :: if plan.all || plan.counts then run.lines
        else run.lines.take 1 })
    else
      let (more, shown) := plan.text run
      (text ++ more, ⟨[line], shown⟩)
  | [] => (text, { run with lines := [line] })

end Runs

def dropEqual : Program := fun n program args => do
  let u : Usage :=
    { letters := "cdDiuz"
      valued := "fsw\x01\x02"
      names := [("count", 'c'), ("repeated", 'd'), ("unique", 'u'), ("ignore-case", 'i'),
        ("skip-fields", 'f'), ("skip-chars", 's'), ("check-chars", 'w'),
        ("zero-terminated", 'z'), ("all-repeated", '\x01'), ("group", '\x02')] }
  let plain (a : String) : String :=
    match a.toList with
    | sign :: c :: cs =>
      if (c :: cs).all Char.isDigit && sign = '-' then "-f" ++ String.ofList (c :: cs)
      else if (c :: cs).all Char.isDigit && sign = '+' then "-s" ++ String.ofList (c :: cs)
      else if a = "--group" then "--group=separate"
      else if a = "--all-repeated" then "--all-repeated=none"
      else a
    | _ => a
  withUsage u program (args.map plain) fun r => do
    let number (letter : Char) (what : String) : Except String (Option Nat) :=
      match r.value? letter with
      | none => .ok none
      | some text =>
        match text.toNat? with
        | some k => .ok (some k)
        | none => .error s!"{text}: invalid number of {what}"
    let all := r.has 'D' || r.has '\x01'
    match number 'f' "fields to skip", number 's' "bytes to skip", number 'w' "bytes to compare",
      r.operands with
    | .error e, _, _, _ | _, .error e, _, _ | _, _, .error e, _ => Act.failed program e 1
    | _, _, _, _ :: _ :: extra :: _ =>
      Act.misused program ("extra operand " ++ Quoted.plain extra) 1
    | .ok fields, .ok chars, .ok width, operands =>
      if all && r.has 'c' then
        Act.misused program "printing all duplicated lines and repeat counts is meaningless" 1
      else
        let group := r.value? '\x02'
        let plan : Runs.Plan :=
          { ending := r.lineEnding, counts := r.has 'c'
            single := !r.has 'd' && !all, repeated := !r.has 'u'
            all := all || group.isSome, gaps := group.or (r.value? '\x01')
            fold := r.has 'i', fields := fields.getD 0, chars := chars.getD 0, width }
        let told (arg : String) (fault : InputFault) : String :=
          if fault.atOpening then toldAfter arg fault.why
          else s!"error reading {Quoted.always arg}: {fault.why}"
        Act.finish 0
        let prepare : Act Unit := do
          let target := operands.getLastD "-"
          if operands.length = 2 && target ≠ "-" then
            match ← Act.openPath 1 .forced target with
            | .ok () => pure ()
            | .error e =>
              Act.change fun s => (s.failed program (toldAfter target e.cause) 1).turn .ended
        let step (run : Runs.Run) (lines : List (List Char)) : Act Runs.Run := do
          let (text, run) := (lines.map (bare r.lineEnding)).foldl plan.step ([], run)
          Act.outputText program text
          return run
        let input := operands.headD "-"
        match ← Act.withInput input fun stream => do
            prepare
            Act.overLines r.lineEnding stream step n {} with
        | .ok run =>
          let (text, shown) := plan.text run
          let last := if group = some "both" && shown then [r.lineEnding] else []
          Act.outputText program (text ++ last)
        | .error fault => Act.failed program (told input fault) 1

namespace Comparing

/-- Lines of two sorted inputs in three columns: those of the first, of the second and of both.
The plan tells which columns are left out, and what stands between columns. -/
def columns (hidden : List Char) (gap : String) (ending : Char) :
    Nat → List (List Char) → List (List Char) → List Char
  | 0, _, _ => []
  | n + 1, a, b =>
    let line (column : Char) (text : List Char) : List Char :=
      if hidden.contains column then []
      else
        let before := ("123".toList.takeWhile (· ≠ column)).filter (!hidden.contains ·)
        before.flatMap (fun _ => gap.toList) ++ text ++ [ending]
    match a, b with
    | [], [] => []
    | x :: a, [] => line '1' x ++ columns hidden gap ending n a []
    | [], y :: b => line '2' y ++ columns hidden gap ending n [] b
    | x :: a, y :: b =>
      match compare x y with
      | .lt => line '1' x ++ columns hidden gap ending n a (y :: b)
      | .gt => line '2' y ++ columns hidden gap ending n (x :: a) b
      | .eq => line '3' x ++ columns hidden gap ending n a b

def areSorted : List (List Char) → Bool
  | a :: b :: rest => compare a b != .gt && areSorted (b :: rest)
  | _ => true

end Comparing

def compareSorted : Program := fun _ program args => do
  let u : Usage :=
    { letters := "123z"
      valued := "\x01"
      names := [("output-delimiter", '\x01'), ("zero-terminated", 'z'), ("check-order", '\x02'),
        ("nocheck-order", '\x03')] }
  withUsage u program args fun r => do
    match r.operands with
    | [] => Act.misused program "missing operand" 1
    | [a] => Act.misused program ("missing operand after " ++ Quoted.plain a) 1
    | [a, b] =>
      Act.finish 0
      match ← Act.readInput a with
      | .error fault => Act.failed program (toldAfter a fault.why) 1
      | .ok first =>
        match ← Act.readInput b with
        | .error fault => Act.failed program (toldAfter b fault.why) 1
        | .ok second =>
          let lines (bytes : ByteArray) : List (List Char) :=
            (linesOf r.lineEnding (Text.ofBytes bytes)).map (bare r.lineEnding)
          let hidden := "123".toList.filter r.has
          let text := Comparing.columns hidden ((r.value? '\x01').getD "\t") r.lineEnding
            (first.size + second.size + 1) (lines first) (lines second)
          Act.outputText program text
          unless Comparing.areSorted (lines first) || r.has '\x03' do
            Act.failed program "file 1 is not in sorted order" 1
          unless Comparing.areSorted (lines second) || r.has '\x03' do
            Act.failed program "file 2 is not in sorted order" 1
          if !r.has '\x03' && !(Comparing.areSorted (lines first) &&
              Comparing.areSorted (lines second)) then
            Act.failed program "input is not in sorted order" 1
    | _ :: _ :: extra :: _ => Act.misused program ("extra operand " ++ Quoted.plain extra) 1

end Cutover.Shell
