import Cutover.Shell.Source

/-!
# Reading shell scripts

A script is read line by line, so that what stands before a line with a fault still runs. The
readers pass on a bound on the steps left, which the length of the text sets.
-/
namespace Cutover.Shell

/-- The words that are reserved where a command may start. -/
def reserved : List String :=
  ["!", "\x7b", "\x7d", "case", "do", "done", "elif", "else", "esac", "fi", "for", "if", "in",
    "then", "until", "while"]

def specialCommands : List String :=
  [".", ":", "break", "continue", "eval", "exec", "exit", "export", "local", "readonly", "return",
    "set", "shift", "times", "trap", "unset"]

def Token.shown : Token → String
  | .newline => "newline"
  | .finish => "end of file"
  | .redirect _ _ => "redirection"
  | .word _ => "word"
  | .keyword s | .operator s => "\x22" ++ s ++ "\x22"

def Token.endsList : Token → Bool
  | .finish => true
  | .operator s => s == ")" || s == ";;"
  | .keyword s => ["do", "done", "elif", "else", "esac", "fi", "then", "\x7d"].contains s
  | _ => false

/-- What is looked for in the next token. -/
structure Sight where
  newlines : Bool := false
  keywords : Bool := false
  aliases : Bool := false

def Sight.command : Sight := { keywords := true, aliases := true }

/-- Where a command may start, on this line or a later one. -/
def Sight.later : Sight := { newlines := true, keywords := true, aliases := true }

/-- Where a piece of a word stands, and so where it ends. -/
inductive Setting where
  | bare
  | braces
  | quotes
  | quotedBraces
  | innerQuotes
  | document
  /-- In an arithmetic expression, with the number of open brackets. -/
  | sum (depth : Nat)
  deriving DecidableEq

/-- Whether characters are quoted that stand for themselves. -/
def Setting.quoted : Setting → Bool
  | .bare | .braces => false
  | _ => true

/-- Whether a backslash does away with what a character means. -/
def Setting.escapes (m : Setting) (c : Char) : Bool :=
  match m with
  | .bare | .braces => true
  | .document => c == '\\' || c == '\x60' || c == '$'
  | .quotedBraces | .innerQuotes => "\\\x60$\x22\x7d".toList.contains c
  | .quotes | .sum _ => "\\\x60$\x22".toList.contains c

def isMeta (c : Char) : Bool := isBlank c || "\n;&|<>()".toList.contains c

/-- Adds a character to the pieces read, of which the last comes first. -/
def addChar (c : Char) (quoted : Bool) : List Piece → List Piece
  | .text s q :: w =>
    if q = quoted then .text (c :: s) q :: w else .text [c] quoted :: .text s q :: w
  | w => .text [c] quoted :: w

def wordOf (pieces : List Piece) : Word :=
  pieces.reverse.map fun
    | .text s q => .text s.reverse q
    | p => p

def isSpecial (c : Char) : Bool := c.isDigit || "@*#?-$!".toList.contains c

/-- What braces say of a parameter before the word in them. -/
structure Opened where
  name : String
  use : Use
  /-- Whether the closing brace has been read as well. -/
  closed : Bool := false
  rest : List Char

/-- Reads what is to be done with the parameter between braces. -/
def openedUse (name : String) (s : List Char) : Opened :=
  let use (orEmpty : Bool) : Char → Option Use
    | '-' => some (.otherwise orEmpty)
    | '+' => some (.instead orEmpty)
    | '?' => some (.demanded orEmpty)
    | '=' => some (.settled orEmpty)
    | _ => none
  match s with
  | '\x7d' :: s => { name, use := .plain, closed := true, rest := s }
  | '%' :: '%' :: s => { name, use := .trimmed true true, rest := s }
  | '%' :: s => { name, use := .trimmed true false, rest := s }
  | '#' :: '#' :: s => { name, use := .trimmed false true, rest := s }
  | '#' :: s => { name, use := .trimmed false false, rest := s }
  | ':' :: '\x7d' :: s => { name, use := .plain, rest := s }
  | ':' :: c :: s => { name, use := (use true c).getD .faulty, rest := s }
  | c :: s => { name, use := (use false c).getD .faulty, rest := s }
  | [] => { name, use := .faulty, rest := [] }

def parameterName? : List Char → Option (String × List Char)
  | c :: s =>
    let word (p : Char → Bool) :=
      some (String.ofList ((c :: s).takeWhile p), (c :: s).dropWhile p)
    if isNameStart c then word isNameRest
    else if c.isDigit then word Char.isDigit
    else if isSpecial c then some (String.singleton c, s)
    else none
  | [] => none

def openedParameter (s : List Char) : Opened :=
  let other : Opened :=
    match parameterName? s with
    | some (name, s) => openedUse name s
    | none =>
      let rest := if s.head? = some '\x7d' then s else s.drop 1
      { name := "", use := .faulty, rest }
  match s with
  | '#' :: '\x7d' :: _ => other
  | '#' :: s =>
    match parameterName? s with
    | some (name, rest) =>
      if rest.head? = some '\x7d' then { name, use := .size, rest }
      else if s.head?.any isNameRest then { name, use := .faulty, rest }
      else other
    | none =>
      if s[1]? = some '\x7d' then { name := "", use := .faulty, rest := s.drop 1 } else other
  | _ => other

def join : Option Script → Script → Script
  | none, b => b
  | some a, b => .seq a b

open Reading

/-- The fault of finding something else than what is expected. -/
def unexpected {α : Type} (t : Token) (expected : Option String) : Reading α :=
  let wish := match expected with
    | some e => s!" (expecting {e})"
    | none => ""
  fault (t.shown ++ " unexpected" ++ wish)

def replaceAlias (name : String) : Reading Bool := do
  let s ← get
  let after := s.rest.length
  let replaced := s.replaced.filter (·.after ≤ after)
  match s.aliases.lookup name with
  | none => return false
  | some text =>
    if replaced.any (·.name = name) then return false
    let isSpaced := (text.toList.getLast?).any isBlank
    let replaced := if text = "" then replaced else ⟨name, after, isSpaced⟩ :: replaced
    set { s with rest := text.toList ++ s.rest, replaced }
    return true

/-- Whether the text of an alias that a blank ends has come to its end since so much text was
left. -/
def hasLeftAlias (before : Nat) : Reading Bool := do
  let s ← get
  return s.replaced.any fun r => r.isSpaced && r.after < before && s.rest.length ≤ r.after

mutual

def readPieces : Nat → Setting → List Piece → Reading Word
  | 0, _, _ => fault "Unterminated quoted string"
  | n + 1, m, acc => do
    match ← next? with
    | none =>
      match m with
      | .bare | .document => return wordOf acc
      | .braces => fault "Missing '\x7d'"
      | .sum _ => fault "Missing '))'"
      | _ =>
        if (← get).document.isSome then fault "Missing '\x7d'"
        else fault "Unterminated quoted string"
    | some c =>
      if m = .bare && isMeta c then return wordOf acc
      advance
      if c = '\n' then startLine
      if c = '\\' then
        match (← get).rest with
        | [] => readPieces n m (addChar c true acc)
        | d :: _ =>
          advance
          readPieces n m (addChar d true (if m.escapes d then acc else addChar c true acc))
      else if c = '$' then
        match ← readDollar n m with
        | some p => readPieces n m (p :: acc)
        | none => readPieces n m (addChar c m.quoted acc)
      else if c = '\x60' then
        let text ← takeBackquoted m.quoted n []
        let a ← readInner n text
        readPieces n m (.output a :: acc)
      else if c = '\x27' && !m.quoted then
        let text ← takeQuotation
        readPieces n m (.quotation [.text text true] :: acc)
      else if c = '\x22' then
        match m with
        | .bare | .braces =>
          let w ← readPieces n .quotes []
          readPieces n m (.quotation w :: acc)
        | .quotedBraces =>
          let w ← readPieces n .innerQuotes []
          readPieces n m (.quotation w :: acc)
        | .quotes | .innerQuotes => return wordOf acc
        | _ => readPieces n m (addChar c true acc)
      else if c = '\x7d' && (m = .braces || m = .quotedBraces) then return wordOf acc
      else
        match m, c with
        | .sum depth, '(' => readPieces n (.sum (depth + 1)) (addChar c true acc)
        | .sum (depth + 1), ')' => readPieces n (.sum depth) (addChar c true acc)
        | .sum 0, ')' =>
          if ← accept ')' then return wordOf acc
          readPieces n m (addChar c true acc)
        | _, _ => readPieces n m (addChar c m.quoted acc)

/-- Reads what a dollar sign stands for, unless it stands for itself. -/
def readDollar : Nat → Setting → Reading (Option Piece)
  | 0, _ => return none
  | n + 1, m => do
    match ← next? with
    | none => return none
    | some c =>
      if c = '(' then
        advance
        if ← accept '(' then
          return some (.sum (← readPieces n (.sum 0) []))
        return some (.output (← readInside n))
      else if c = '\x7b' then
        advance
        joinName
        let o := openedParameter (← get).rest
        modify ({ · with rest := o.rest })
        if o.closed then return some (.parameter o.name o.use [])
        let inner := match o.use with
          | .trimmed _ _ => .braces
          | _ => if m.quoted then .quotedBraces else .braces
        return some (.parameter o.name o.use (← readPieces n inner []))
      else if isNameStart c then
        joinName
        return some (.parameter (String.ofList (← takeWhile isNameRest)) .plain [])
      else if isSpecial c then
        advance
        return some (.parameter (String.singleton c) .plain [])
      else return none

def readInside : Nat → Reading Script
  | 0 => fault "end of file unexpected"
  | n + 1 => do
    let outer ← get
    set { outer with awaited := [], document := none, afterDocument := none }
    let a ← readBody n true none
    match ← readToken n {} with
    | .operator ")" =>
      modify fun s =>
        { s with
          awaited := outer.awaited, document := outer.document
          afterDocument := outer.afterDocument }
      return a
    | t => unexpected t (some "\x22)\x22")

/-- Reads a script that is a text of its own, up to a token that ends commands. -/
def readInner : Nat → List Char → Reading Script
  | 0, _ => fault "end of file unexpected"
  | n + 1, text => do
    let outer ← get
    set { outer with
      rest := text, line := 1, back := none, awaited := [], document := none
      afterDocument := none }
    let a ← readBody n true none
    modify fun s => { outer with documents := s.documents }
    return a

def readDocuments : Nat → List Awaited → Reading Unit
  | 0, _ => return
  | _ + 1, [] => modify ({ · with awaited := [] })
  | n + 1, a :: others => do
    let s ← get
    let w ←
      if a.plain then do
        let (text, lines, rest) := linesBefore a (s.rest.length + 1) s.rest
        set { s with rest, line := s.line + lines }
        pure [.text text true]
      else do
        set { s with awaited := [], document := some a, afterDocument := none }
        startLine
        let w ← readPieces n .document []
        modify fun t =>
          { t with
            rest := t.afterDocument.getD t.rest, document := s.document
            afterDocument := s.afterDocument }
        pure w
    modify fun s => { s with documents := s.documents.setIfInBounds a.number w }
    readDocuments n others

def readToken : Nat → Sight → Reading Token
  | 0, _ => return .finish
  | n + 1, sight => do
    let before := (← get).rest.length
    let t ← match (← get).back with
      | some t => do
        modify ({ · with back := none })
        pure t
      | none => readPlain n
    let sight := { sight with aliases := sight.aliases || (← hasLeftAlias before) }
    match t with
    | .newline =>
      if sight.newlines then
        readDocuments n (← get).awaited
        readToken n sight
      else return t
    | .word w =>
      match literal? w with
      | none => return t
      | some s =>
        if sight.keywords && reserved.contains s then return .keyword s
        else if sight.aliases then
          if ← replaceAlias s then readToken n sight else return t
        else return t
    | _ => return t

def readPlain : Nat → Reading Token
  | 0 => return .finish
  | n + 1 => do
    skipBlanks n
    match ← next? with
    | none =>
      readDocuments n (← get).awaited
      return .finish
    | some c =>
      if c = '\n' then
        advance
        return .newline
      else if c = '(' || c = ')' then
        advance
        return .operator (String.singleton c)
      else if c = '&' || c = '|' || c = ';' then
        advance
        if ← accept c then return .operator (String.ofList [c, c])
        return .operator (String.singleton c)
      else
        let w ← readPieces n .bare []
        let stream := match w with
          | [] => some none
          | [.text [d] false] => if d.isDigit then some (some (d.toNat - '0'.toNat)) else none
          | _ => none
        match stream, ← next? with
        | some stream, some '>' =>
          advance
          let stream := stream.getD 1
          if ← accept '>' then return .redirect stream (.file .appending)
          else if ← accept '|' then return .redirect stream (.file .forced)
          else if ← accept '&' then return .redirect stream .copy
          return .redirect stream (.file .output)
        | some stream, some '<' =>
          advance
          let stream := stream.getD 0
          if ← accept '<' then return .redirect stream (.document (← accept '-'))
          else if ← accept '&' then return .redirect stream .copy
          else if ← accept '>' then return .redirect stream (.file .inputOutput)
          return .redirect stream (.file .input)
        | _, _ => return .word w

def readTarget : Nat → Nat → Change → Reading Redirect
  | 0, _, _ => fault "end of file unexpected"
  | n + 1, stream, change => do
    match change with
    | .document unindented =>
      skipBlanks n
      match ← next? with
      | some c =>
        let second := ((← get).rest.drop 1).head?
        if isMeta c || c.isDigit && (second = some '<' || second = some '>') then
          unexpected (← readToken n {}) none
        let (ending, plain) ← takeEnding n none false []
        let number := (← get).documents.size
        modify fun s => { s with
          documents := s.documents.push []
          awaited := s.awaited ++ [⟨number, ending, plain, unindented⟩] }
        return .document stream number
      | none => unexpected .finish none
    | .file opening =>
      match ← readToken n {} with
      | .word w => return .file stream opening w
      | t => unexpected t none
    | .copy =>
      match ← readToken n {} with
      | .word w => return .copy stream w
      | t => unexpected t none

def readRedirects : Nat → List Redirect → Reading (List Redirect)
  | 0, acc => return acc
  | n + 1, acc => do
    match ← readToken n .command with
    | .redirect stream change =>
      let r ← readTarget n stream change
      readRedirects n (acc ++ [r])
    | t =>
      pushBack t
      return acc

/-- Reads the commands of one line after those already read; there are none at the end. -/
def readLine : Nat → Option Script → Reading (Option Script)
  | 0, acc => return acc
  | n + 1, acc => do
    match ← readToken n .command with
    | .newline =>
      readDocuments n (← get).awaited
      return some (acc.getD .skip)
    | .finish =>
      pushBack .finish
      return acc
    | t =>
      pushBack t
      let a ← readAndOr n
      match ← readToken n {} with
      | .operator "&" => readLine n (some (join acc (.background a)))
      | .operator ";" => readLine n (some (join acc a))
      | .newline =>
        pushBack .newline
        readLine n (some (join acc a))
      | .finish =>
        pushBack .finish
        return some (join acc a)
      | t => unexpected t none

/-- Reads commands over several lines after those already read. There must be some, unless
`mayEnd` is set. -/
def readBody : Nat → Bool → Option Script → Reading Script
  | 0, _, acc => return acc.getD .skip
  | n + 1, mayEnd, acc => do
    match ← readToken n .later with
    | .finish =>
      pushBack .finish
      return acc.getD .skip
    | t =>
      pushBack t
      if mayEnd && t.endsList then return acc.getD .skip
      let a ← readAndOr n
      match ← readToken n {} with
      | .operator "&" => readBody n true (some (join acc (.background a)))
      | .operator ";" => readBody n true (some (join acc a))
      | .newline =>
        pushBack .newline
        readBody n true (some (join acc a))
      | t =>
        pushBack t
        return join acc a

def readAndOr : Nat → Reading Script
  | 0 => fault "end of file unexpected"
  | n + 1 => do
    let a ← readPipeline n {}
    readAndOrRest n a

def readAndOrRest : Nat → Script → Reading Script
  | 0, a => return a
  | n + 1, a => do
    match ← readToken n {} with
    | .operator "&&" =>
      let b ← readPipeline n .later
      readAndOrRest n (.both a b)
    | .operator "||" =>
      let b ← readPipeline n .later
      readAndOrRest n (.either a b)
    | t =>
      pushBack t
      return a

def readPipeline : Nat → Sight → Reading Script
  | 0, _ => fault "end of file unexpected"
  | n + 1, sight => do
    match ← readToken n sight with
    | .keyword "!" =>
      let a ← readCommand n .command
      return .inverse (← readPipes n [a])
    | t =>
      pushBack t
      let a ← readCommand n {}
      readPipes n [a]

/-- Reads the commands after a pipe; those already read come last first. -/
def readPipes : Nat → List Script → Reading Script
  | 0, _ => fault "end of file unexpected"
  | n + 1, acc => do
    match ← readToken n {} with
    | .operator "|" =>
      let a ← readCommand n .later
      readPipes n (a :: acc)
    | t =>
      pushBack t
      match acc with
      | [a] => return a
      | _ => return .pipe acc.reverse

def readCommand : Nat → Sight → Reading Script
  | 0, _ => fault "end of file unexpected"
  | n + 1, sight => do
    let line := (← get).line
    let redirected (a : Script) : Reading Script := do
      match a, ← readRedirects n [] with
      | a, [] => return a
      -- Redirections after braces around nothing but brackets take the place of those inside.
      | .apart inner b _, rs => return .apart inner b rs
      | a, rs => return .redirected line a rs
    match ← readToken n sight with
    | .keyword "if" => redirected (← readIf n)
    | .keyword "while" => redirected (← readLoop n true)
    | .keyword "until" => redirected (← readLoop n false)
    | .keyword "for" => redirected (← readFor n line)
    | .keyword "case" =>
      match ← readToken n {} with
      | .word w =>
        match ← readToken n .later with
        | .keyword "in" => redirected (.arms line w (← readArms n))
        | t => unexpected t (some "\x22in\x22")
      | t => unexpected t (some "word")
    | .keyword "\x7b" =>
      let a ← readBody n false none
      expect n "\x7d"
      redirected a
    | .operator "(" =>
      let a ← readBody n false none
      match ← readToken n {} with
      | .operator ")" => return .apart line a (← readRedirects n [])
      | t => unexpected t (some "\x22)\x22")
    | .word w =>
      pushBack (.word w)
      let line := (← get).line
      readSimple n line [] [] []
    | .redirect stream change =>
      pushBack (.redirect stream change)
      let line := (← get).line
      readSimple n line [] [] []
    | t => unexpected t none

def expect : Nat → String → Reading Unit
  | 0, _ => return
  | n + 1, word => do
    match ← readToken n { keywords := true } with
    | .keyword s =>
      if s = word then return
      unexpected (.keyword s) (some ("\x22" ++ word ++ "\x22"))
    | t => unexpected t (some ("\x22" ++ word ++ "\x22"))

def readIf : Nat → Reading Script
  | 0 => fault "end of file unexpected"
  | n + 1 => do
    let test ← readBody n false none
    expect n "then"
    let yes ← readBody n false none
    match ← readToken n { keywords := true } with
    | .keyword "elif" => return .choice test yes (← readIf n)
    | .keyword "else" =>
      let no ← readBody n false none
      expect n "fi"
      return .choice test yes no
    | t =>
      pushBack t
      expect n "fi"
      return .choice test yes .skip

def readLoop : Nat → Bool → Reading Script
  | 0, _ => fault "end of file unexpected"
  | n + 1, goal => do
    let test ← readBody n false none
    expect n "do"
    let body ← readBody n false none
    expect n "done"
    return .loop goal test body

/-- Reads a loop over fields after its first word. -/
def readFor : Nat → Nat → Reading Script
  | 0, _ => fault "end of file unexpected"
  | n + 1, line => do
    let name ← match ← readToken n {} with
      | .word w => pure ((literal? w).getD "")
      | _ => pure ""
    if !isName name then fault "Bad for loop variable"
    let words ← match ← readToken n .later with
      | .keyword "in" => readWords n []
      | t => do
        match t with
        | .operator ";" => pure ()
        | t => pushBack t
        pure [[.quotation [.parameter "@" .plain []]]]
    match ← readToken n .later with
    | .keyword "do" =>
      let body ← readBody n false none
      expect n "done"
      return .each line name words body
    | t => unexpected t (some "\x22do\x22")

def readWords : Nat → List Word → Reading (List Word)
  | 0, _ => fault "end of file unexpected"
  | n + 1, acc => do
    match ← readToken n {} with
    | .word w => readWords n (w :: acc)
    | .newline | .operator ";" => return acc.reverse
    | t => unexpected t none

def readArms : Nat → Reading (List (List Word × Script))
  | 0 => fault "end of file unexpected"
  | n + 1 => do
    match ← readToken n { newlines := true, keywords := true } with
    | .keyword "esac" => return []
    | t =>
      let t ← match t with
        | .operator "(" => readToken n {}
        | t => pure t
      let patterns ← readPatterns n t []
      let body ← readBody n true none
      match ← readToken n { newlines := true, keywords := true } with
      | .keyword "esac" => return [(patterns, body)]
      | .operator ";;" => return (patterns, body) :: (← readArms n)
      | t => unexpected t (some "\x22;;\x22")

/-- Reads the patterns of an arm up to the closing bracket; the first token is given. -/
def readPatterns : Nat → Token → List Word → Reading (List Word)
  | 0, _, _ => fault "end of file unexpected"
  | n + 1, t, acc => do
    let w := match t with
      | .word w => w
      | .keyword s => [.text s.toList false]
      | _ => []
    match ← readToken n {} with
    | .operator "|" =>
      let t ← readToken n {}
      readPatterns n t (w :: acc)
    | .operator ")" => return (w :: acc).reverse
    | t => unexpected t (some "\x22)\x22")

def readSimple : Nat → Nat → List (String × Word) → List Word → List Redirect → Reading Script
  | 0, _, _, _, _ => fault "end of file unexpected"
  | n + 1, line, settings, words, redirects => do
    match ← readToken n { aliases := words.isEmpty } with
    | .word w =>
      match words, setting? w with
      | [], some s => readSimple n line (settings ++ [s]) words redirects
      | _, _ => readSimple n line settings (words ++ [w]) redirects
    | .redirect stream change =>
      let r ← readTarget n stream change
      readSimple n line settings words (redirects ++ [r])
    | .operator "(" =>
      match settings, words, redirects with
      | [], [w], [] =>
        match ← readToken n {} with
        | .operator ")" =>
          let name := (literal? w).getD ""
          if !isName name || specialCommands.contains name then fault "Bad function name"
          return .define name (← readCommand n .later)
        | t => unexpected t (some "\x22)\x22")
      | _, _, _ =>
        pushBack (.operator "(")
        return .simple line settings words redirects
    | t =>
      pushBack t
      return .simple line settings words redirects

end

/-- What a text that is being read holds next. -/
inductive Portion where
  | finish
  | faulty (f : Fault)
  | line (a : Script) (rest : Source)

def Source.next (s : Source) : Portion :=
  match (readLine (16 * s.rest.length + 4096) none).run s with
  | .error f => .faulty f
  | .ok (none, _) => .finish
  | .ok (some a, rest) => .line a rest

end Cutover.Shell
