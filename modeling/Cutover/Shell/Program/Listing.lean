import Cutover.Shell.Printing
import Cutover.Shell.Program.Making
import Cutover.Shell.Program.Moment

/-!
# Listing files

The programs that list the names in folders and tell what is known of files.
-/
namespace Cutover.Shell

/-- What is known of a file. -/
structure Facts where
  entry : FileEntry
  mode : Nat
  time : Int
  number : Nat
  links : Nat

namespace Facts

def letter (f : Facts) : Char :=
  match f.entry with
  | .folder => 'd'
  | .link _ | .stream _ => 'l'
  | .queue => 'p'
  | .device _ => 'c'
  | _ => '-'

def modeText (f : Facts) : String := String.singleton f.letter ++ Mode.text f.mode

/-- How many bytes a folder takes. -/
def folderSize : Nat := 4096

/-- How many bytes a file has. -/
def size (f : Facts) : Nat :=
  match f.entry with
  | .folder => folderSize
  | .file bytes => bytes.size
  | .link target => target.utf8ByteSize
  | _ => 0

/-- How many kilobytes a file takes. -/
def blocks (f : Facts) : Nat :=
  match f.entry with
  | .folder => 4
  | .file bytes => (bytes.size + 4095) / 4096 * 4
  | _ => 0

/-- The sign behind the name of a file: of a folder, or of other kinds too. -/
def sign (f : Facts) (kinds runnable : Bool) : String :=
  match f.entry with
  | .folder => "/"
  | .link _ | .stream _ => if kinds then "@" else ""
  | .queue => if kinds then "|" else ""
  | .device _ => ""
  | _ => if runnable && f.mode &&& 0o111 ≠ 0 then "*" else ""

def deviceText : Device → String
  | .null => "1, 3"
  | .zero => "1, 5"
  | .full => "1, 7"
  | .terminal => "5, 0"

def sizeText (f : Facts) : String :=
  match f.entry with
  | .device d => deviceText d
  | _ => toString f.size

def months : List String :=
  ["Jan", "Feb", "Mar", "Apr", "May", "Jun", "Jul", "Aug", "Sep", "Oct", "Nov", "Dec"]

/-- The time of a file as it is listed: with the time of day if it was not long ago. -/
def timeText (f : Facts) (now : Int) : String :=
  let seconds := f.time / Moment.second
  let (year, month, date) := Moment.dateOf (seconds / Moment.day)
  let ofDay := (seconds % Moment.day).toNat
  let two (n : Nat) : String := String.ofList (atLeast 2 (Nat.toDigits 10 n))
  let halfYear : Int := 15778476
  let name := (months[(month - 1).toNat]?).getD ""
  let isRecent := f.time ≤ now && now / Moment.second - halfYear < seconds
  name ++ " " ++ rightIn 2 (toString date) ++ " " ++
    if isRecent then two (ofDay / 3600) ++ ":" ++ two (ofDay / 60 % 60) else s!" {year}"

end Facts

def State.facts? (s : State) (p : Place) : Option Facts :=
  match s.files.number? p, s.files.node? p with
  | some number, some node =>
    let inside := s.files.places.countP fun e => e.1 ≠ [] && e.1.dropLast = p &&
      match s.files.get? e.1 with
      | some .folder => true
      | _ => false
    let links := match node.entry with
      | .folder => 2 + inside
      | _ => s.files.places.countP (·.2 = number)
    some ⟨node.entry, node.mode, node.time, number, links⟩
  | _, _ => none

namespace Listing

/-- How the names are laid out. -/
inductive Layout where
  | lines
  | details
  | commas
  | columns (down : Bool)
  deriving DecidableEq

/-- How names are shown. -/
inductive Quoting where
  | plain
  | quoted
  | escaped
  | masked

/-- What comes first. -/
inductive Order where
  | name
  | size
  | time
  | ending
  | none

/-- What is asked for besides the names. -/
structure Plan where
  program : String
  layout : Layout
  quoting : Quoting
  order : Order
  reversed : Bool
  foldersFirst : Bool
  /-- Whether names with a dot in front are shown, and those of the folder and the one above. -/
  hidden : Bool
  own : Bool
  ignored : List String
  noBackups : Bool
  folders : Bool
  deep : Bool
  followOperands : Bool
  follow : Bool
  signs : Bool
  kinds : Bool
  runnable : Bool
  blocks : Bool
  numbers : Bool
  owner : Bool
  group : Bool
  ids : Bool
  width : Nat
  ended : String

/-- A name with what is known of its file. -/
structure Item where
  name : String
  facts : Facts
  target : Option (String × Option Facts) := none

def Quoting.show (q : Quoting) (name : String) : String :=
  let escaped (quote : List Char) (c : Char) : List Char :=
    if quote.contains c || c = '\\' then ['\\', c]
    else if Quoted.isPrinted c then [c] else Quoted.escape c
  match q with
  | .plain => name
  | .quoted => "\x22" ++ String.ofList (name.toList.flatMap (escaped ['\x22'])) ++ "\x22"
  | .escaped => String.ofList (name.toList.flatMap (escaped [' ']))
  | .masked => name.map fun c => if Quoted.isPrinted c then c else '?'

def Plan.nameOf (plan : Plan) (i : Item) : String :=
  let sign (f : Facts) : String := if plan.signs then f.sign plan.kinds plan.runnable else ""
  let name := plan.quoting.show i.name
  match i.target, plan.layout with
  | some (path, f), .details =>
    name ++ " -> " ++ plan.quoting.show path ++ f.elim "" sign
  | _, _ => name ++ sign i.facts

def Plan.sorted (plan : Plan) (items : List Item) : List Item :=
  let ending (name : String) : String :=
    String.ofList ((name.toList.reverse.takeWhile (· ≠ '.')).reverse)
  let endingOf (name : String) : String := if name.contains '.' then ending name else ""
  let before (a b : Item) : Bool :=
    match plan.order with
    | .size => if a.facts.size ≠ b.facts.size then b.facts.size < a.facts.size else a.name ≤ b.name
    | .time => if a.facts.time ≠ b.facts.time then b.facts.time < a.facts.time else a.name ≤ b.name
    | .ending =>
      if endingOf a.name ≠ endingOf b.name then endingOf a.name < endingOf b.name
      else a.name ≤ b.name
    | _ => a.name ≤ b.name
  let ordered := match plan.order with
    | .none => items
    | _ => items.mergeSort fun a b => if plan.reversed then before b a else before a b
  if plan.foldersFirst then
    let isFolder (i : Item) : Bool := i.facts.letter = 'd' ||
      (i.target.bind (·.2)).any (·.letter = 'd')
    let (folders, others) := ordered.partition isFolder
    folders ++ others
  else ordered

def Plan.front (plan : Plan) (numberWidth blockWidth : Nat) (i : Item) : String :=
  (if plan.numbers then rightIn numberWidth (toString i.facts.number) ++ " " else "") ++
    if plan.blocks then rightIn blockWidth (toString i.facts.blocks) ++ " " else ""

/-- Texts in columns no wider than a line. Blanks are put together to tabs. -/
def inColumns (width : Nat) (down : Bool) (texts : List String) : String :=
  let all := texts.toArray
  let n := all.size
  let rowsOf (columns : Nat) : Nat := (n + columns - 1) / columns
  let column (columns i : Nat) : Nat := if down then i / rowsOf columns else i % columns
  let widths (columns : Nat) : List Nat :=
    (List.range columns).map fun c =>
      (all.toList.zipIdx.filter fun e => column columns e.2 = c).foldl
        (fun w e => max w (e.1.length + if c = columns - 1 then 0 else 2)) 3
  let fits (columns : Nat) : Bool := (widths columns).foldl (· + ·) 0 < width
  let most := max 1 (min n (width / 3))
  let columns := (((List.range most).map fun i => most - i).find? fits).getD 1
  let ws := widths columns
  let rec indent : Nat → Nat → Nat → List Char
    | 0, _, _ => []
    | fuel + 1, start, stop =>
      if stop ≤ start then []
      else if (start + 1) / 8 < stop / 8 then '\t' :: indent fuel (start + 8 - start % 8) stop
      else ' ' :: indent fuel (start + 1) stop
  let row (r : Nat) : String :=
    let cells := (List.range columns).filterMap fun c =>
      (all[if down then c * rowsOf columns + r else r * columns + c]?).map fun t => (c, t)
    let (text, _, _) := cells.foldl (fun (text, at_, begin) (c, t) =>
      let gap := String.ofList (indent (begin - at_) at_ begin)
      (text ++ gap ++ t, begin + t.length, begin + (ws[c]?).getD 0)) ("", 0, 0)
    text ++ "\n"
  String.join ((List.range (rowsOf columns)).map row)

/-- Texts with commas between them in lines that are no wider than a width. -/
def withCommas (width : Nat) (texts : List String) : String :=
  let rec go (at_ : Nat) : List String → String
    | [] => "\n"
    | t :: rest =>
      if at_ = 0 then t ++ go t.length rest
      else if at_ + 2 + t.length < width then ", " ++ t ++ go (at_ + 2 + t.length) rest
      else ",\n" ++ t ++ go t.length rest
  if texts = [] then "" else go 0 texts

def Plan.details (plan : Plan) (now : Int) (fronts : List String) (items : List Item) : String :=
  let width (f : Item → String) : Nat := items.foldl (fun w i => max w (f i).length) 0
  let links (i : Item) : String := toString i.facts.links
  let size (i : Item) : String := i.facts.sizeText
  let who := if plan.ids then "0" else "root"
  let line (front : String) (i : Item) : String :=
    front ++ i.facts.modeText ++ " " ++ rightIn (width links) (links i) ++ " " ++
      (if plan.owner then who ++ " " else "") ++ (if plan.group then who ++ " " else "") ++
      rightIn (width size) (size i) ++ " " ++ i.facts.timeText now ++ " " ++ plan.nameOf i ++
      plan.ended
  String.join (List.zipWith line fronts items)

def Plan.text (plan : Plan) (now : Int) (items : List Item) : String :=
  let items := plan.sorted items
  let width (f : Item → Nat) : Nat := items.foldl (fun w i => max w (toString (f i)).length) 0
  let fronts := items.map (plan.front (width (·.facts.number)) (width (·.facts.blocks)))
  let names := List.zipWith (fun front i => front ++ plan.nameOf i) fronts items
  match plan.layout with
  | .lines => String.join (names.map (· ++ plan.ended))
  | .details => plan.details now fronts items
  | .commas => withCommas plan.width names
  | .columns down => if names = [] then "" else inColumns plan.width down names

def itemOf? (s : State) (follow : Bool) (name path : String) : Option Item :=
  match s.locateLink path with
  | .ok (p, some (.link target)) =>
    let led := match s.locate path with
      | .ok (q, some _) => s.facts? q
      | _ => none
    if follow then
      match led with
      | some f => some { name, facts := f }
      | none => (s.facts? p).map fun f => { name, facts := f, target := some (target, led) }
    else (s.facts? p).map fun f => { name, facts := f, target := some (target, led) }
  | .ok (p, some _) => (s.facts? p).map fun f => { name, facts := f }
  | _ => none

def Plan.namesIn (plan : Plan) (s : State) (p : Place) : List String :=
  let names := (s.files.names p).map Text.bytewise
  let hasDot (n : String) : Bool := n.toList.head? = some '.'
  let shown (n : String) : Bool :=
    (plan.hidden || !hasDot n) && !(plan.noBackups && n.endsWith "~") &&
      !plan.ignored.any fun pattern => fits (patternOfText pattern) n.toList
  (if plan.own then [".", ".."] else []) ++ names.filter shown

/-- The text of a folder, and of those in it down to a depth. -/
def Plan.folder (plan : Plan) (now : Int) (s : State) : Nat → Bool → Bool → String → String
  | 0, _, _, _ => ""
  | depth + 1, heads, first, path =>
    match s.locate path with
    | .ok (p, some .folder) =>
      let items := (plan.namesIn s p).filterMap fun n =>
        itemOf? s plan.follow n (Path.join path n)
      let head := if heads then (if first then "" else "\n") ++ plan.quoting.show path ++ ":\n"
        else ""
      let total := items.foldl (fun n i => n + i.facts.blocks) 0
      let count := if plan.layout = .details || plan.blocks then s!"total {total}\n" else ""
      let inner := if plan.deep then
          let folders := (plan.sorted items).filter fun i =>
            i.facts.letter = 'd' && i.name ≠ "." && i.name ≠ ".."
          folders.map fun i => plan.folder now s depth true false (Path.join path i.name)
        else []
      head ++ count ++ plan.text now items ++ String.join inner
    | _ => ""

/-- Long words with a choice behind them, and the letters that mean the same. -/
def longForms : List (String × List String) :=
  [("--sort=size", ["-S"]), ("--sort=time", ["-t"]), ("--sort=none", ["-U"]),
    ("--sort=extension", ["-X"]), ("--sort=version", ["-v"]), ("--sort=name", []),
    ("--format=long", ["-l"]), ("--format=verbose", ["-l"]), ("--format=commas", ["-m"]),
    ("--format=single-column", ["-1"]), ("--format=vertical", ["-C"]),
    ("--format=horizontal", ["-x"]), ("--format=across", ["-x"]), ("--color=never", []),
    ("--color=auto", []), ("--color=tty", []), ("--indicator-style=slash", ["-p"]),
    ("--indicator-style=classify", ["-F"]), ("--indicator-style=none", []),
    ("--quoting-style=literal", ["-N"]), ("--quoting-style=c", ["-Q"]),
    ("--quoting-style=escape", ["-b"])]

end Listing

def list : Program := fun n program args => do
  let u : Usage :=
    { letters := "1aABbCcdfFghGHikLlmNnopqQrRsStuUvxX"
      valued := "IwT"
      names := [("all", 'a'), ("almost-all", 'A'), ("directory", 'd'), ("classify", 'F'),
        ("recursive", 'R'), ("reverse", 'r'), ("size", 's'), ("inode", 'i'), ("ignore", 'I'),
        ("hide", '\x01'), ("group-directories-first", '\x02'), ("file-type", '\x03'),
        ("quote-name", 'Q'), ("escape", 'b'), ("literal", 'N'), ("ignore-backups", 'B'),
        ("dereference", 'L'), ("width", 'w'), ("zero", '\x04'), ("numeric-uid-gid", 'n'),
        ("no-group", 'G'), ("human-readable", 'h'), ("hide-control-chars", 'q')]
      status := 2 }
  let u := { u with valued := u.valued.push '\x01' }
  let args := args.flatMap fun a =>
    match Listing.longForms.lookup a with
    | some letters => letters
    | none => [a]
  withUsage u program args fun r => do
    let has (letters : String) : Bool := letters.toList.any r.has
    let last (letters : String) : Option Char :=
      (r.options.reverse.find? fun o => letters.toList.contains o.1).map (·.1)
    let layout : Listing.Layout := match last "1Cxmlgno" with
      | some 'C' => .columns true
      | some 'x' => .columns false
      | some 'm' => .commas
      | some '1' => if has "lgno" then .details else .lines
      | some _ => .details
      | none => .lines
    let all (c : Char) : List String := (r.options.filter (·.1 = c)).map (·.2)
    let links := has "L"
    let plan : Listing.Plan :=
      { program, layout
        quoting := match last "NQbq" with
          | some 'Q' => .quoted
          | some 'b' => .escaped
          | some 'q' => .masked
          | _ => .plain
        order := match last "fUStXv" with
          | some 'f' | some 'U' => .none
          | some 'S' => .size
          | some 't' => .time
          | some 'X' => .ending
          | some 'v' => .name
          | _ => if has "cu" && layout ≠ .details then .time else .name
        reversed := has "r", foldersFirst := has "\x02"
        hidden := has "aAf", own := (last "aAf").any (· ≠ 'A')
        ignored := all 'I' ++ if has "aA" then [] else all '\x01'
        noBackups := has "B", folders := !has "d", deep := has "R" && !has "d"
        followOperands := has "HL" || !(has "dF" || layout = .details), follow := links
        signs := has "Fp\x03", kinds := has "F\x03", runnable := has "F"
        blocks := has "s", numbers := has "i", owner := !has "g", group := !has "oG"
        ids := has "n", width := ((r.value? 'w').bind (·.toNat?)).getD 80
        ended := if has "\x04" then "\x00" else "\n" }
    let s ← Act.state
    let operands := if r.operands.isEmpty then ["."] else r.operands
    let told (path : String) : Except FileError (Listing.Item × Bool) :=
      let isFolder := s.isFolder path
      let shown := plan.followOperands && (isFolder || has "HL")
      match Listing.itemOf? s (shown || links) path path with
      | some item =>
        if path.endsWith "/" && !isFolder then .error .notAFolder
        else .ok (item, plan.folders && item.facts.letter = 'd')
      | none =>
        match s.locateLink path with
        | .error e => .error e
        | .ok _ => .error .notFound
    Act.finish 0
    Act.change fun s => operands.foldl (fun s path =>
      match told path with
      | .ok _ => s
      | .error e =>
        if path = "." && s.folder?.isNone then s
        else s.failed program (s!"cannot access {Quoted.always path}: " ++ e.cause) 2) s
    let found := operands.filterMap fun path => (told path).toOption
    let files := (found.filter (!·.2)).map (·.1)
    let folders := plan.sorted ((found.filter (·.2)).map (·.1))
    let now := s.files.now
    let heads := 1 < operands.length || plan.deep
    let texts := folders.zipIdx.map fun (f, i) =>
      plan.folder now s n heads (i = 0 && files.isEmpty) f.name
    Act.change (·.outputTelling program 2 ("write error: " ++ ·)
      (Text.toBytes (plan.text now files ++ String.join texts).toList))
    Act.awaitRoom 1

namespace Facts

def kindText (f : Facts) : String :=
  match f.entry with
  | .folder => "directory"
  | .link _ | .stream _ => "symbolic link"
  | .queue => "fifo"
  | .device _ => "character special file"
  | _ => if f.size = 0 then "regular empty file" else "regular file"

def told (f : Facts) (path : String) (letter : Char) : String :=
  match letter with
  | 'n' => path
  | 's' => toString f.size
  | 'a' => String.ofList (Nat.toDigits 8 f.mode)
  | 'A' => f.modeText
  | 'F' => f.kindText
  | 'h' => toString f.links
  | 'U' | 'G' => "root"
  | 'u' | 'g' => "0"
  | 'i' => toString f.number
  | 'b' => toString (2 * f.blocks)
  | 'B' => "512"
  | 'o' => "4096"
  | 'Y' | 'X' | 'Z' => toString (f.time / Moment.second)
  | 'N' =>
    match f.entry with
    | .link target => Quoted.always path ++ " -> " ++ Quoted.always target
    | _ => Quoted.always path
  | 'f' =>
    let kind := match f.entry with
      | .folder => 0o040000
      | .link _ | .stream _ => 0o120000
      | .queue => 0o010000
      | .device _ => 0o020000
      | _ => 0o100000
    String.ofList (Nat.toDigits 16 (kind + f.mode))
  | '%' => "%"
  | _ => "?"

def format (f : Facts) (path : String) : List Char → List Char
  | '%' :: c :: s => (f.told path c).toList ++ format f path s
  | c :: s => c :: format f path s
  | [] => []

end Facts

def describeFiles : Program := fun _ program args => do
  let u : Usage :=
    { letters := "Lt"
      valued := "c\x01"
      names := [("format", 'c'), ("printf", '\x01'), ("dereference", 'L'), ("terse", 't')] }
  withUsage u program args fun r => do
    let (format, ended) := match r.value? '\x01', r.value? 'c' with
      | some f, _ => ((unescaped f).1, [])
      | none, some f => (f.toList, ['\n'])
      | none, none => ("%n".toList, ['\n'])
    Act.eachOperand program r "missing operand" fun s path =>
      match if r.has 'L' then s.locate path else s.locateLink path with
      | .ok (p, some _) =>
        match s.facts? p with
        | some f => s.outputText program (f.format path format ++ ended)
        | none => s
      | found =>
        let e : FileError := match found with
          | .error e => e
          | _ => .notFound
        s.failed program (s!"cannot statx {Quoted.always path}: " ++ e.cause) 1

end Cutover.Shell
