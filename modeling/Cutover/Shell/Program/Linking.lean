import Cutover.Shell.Folder
import Cutover.Shell.Program.Removal

/-!
# Links

The programs that make links and tell where they lead.
-/
namespace Cutover.Shell

namespace Linking

/-- What is asked for besides the names. -/
structure Plan where
  program : String
  symbolic : Bool
  force : Bool
  asking : Bool
  verbose : Bool

def Plan.refuse (plan : Plan) (what : String) : Act Unit := Act.failed plan.program what 1

def Plan.link (plan : Plan) (n : Nat) (source target : String) : Act Unit := do
  let s ← Act.state
  let kind := if plan.symbolic then "symbolic" else "hard"
  let arrow := if plan.symbolic then " -> " else " => "
  let named := s!"failed to create {kind} link " ++ Quoted.always target
  let pair := Quoted.always target ++ arrow ++ Quoted.always source
  let origin := s.locateLink source
  let make (place : Place) (s : State) : Act Unit := do
    Act.change fun _ =>
      match plan.symbolic, origin with
      | false, .ok (p, some _) => { s with files := s.files.join p place }
      | _, _ => s.make place (.link source) 0o777
    if plan.verbose then Act.outputText plan.program (pair ++ "\n").toList
  let fault : Option String := match plan.symbolic, origin with
    | true, _ => none
    | false, .ok (_, some .folder) => some (Quoted.named source ++
        ": hard link not allowed for directory")
    | false, .ok (_, some _) => none
    | false, .ok (_, none) =>
      some (s!"failed to access {Quoted.always source}: " ++ FileError.notFound.cause)
    | false, .error e => some (s!"failed to access {Quoted.always source}: " ++ e.cause)
  match fault with
  | some fault => plan.refuse fault
  | none =>
    match s.locateLink target with
    | .error e =>
      plan.refuse ((if plan.symbolic then named else named ++ arrow ++ Quoted.always source) ++
        ": " ++ e.cause)
    | .ok (p, none) =>
      if plan.symbolic && source = "" then
        plan.refuse (named ++ arrow ++ Quoted.always source ++ ": " ++ FileError.notFound.cause)
      else make p s
    | .ok (p, some e) =>
      let same : Bool := match if plan.symbolic then s.locate source else origin with
        | .ok (q, some _) => s.files.number? q = s.files.number? p
        | _ => false
      if plan.asking then
        if ← Act.ask n plan.program ("replace " ++ Quoted.always target) then
          make p { s with files := s.files.clear p }
        else Act.finish 1
      else if !plan.force then plan.refuse (named ++ ": " ++ FileError.alreadyThere.cause)
      else if same then
        plan.refuse (Quoted.always source ++ " and " ++ Quoted.always target ++
          " are the same file")
      else
        match e with
        | .folder => plan.refuse (s!"{target}: cannot overwrite directory")
        | _ => make p { s with files := s.files.clear p }

def Plan.links (plan : Plan) (n : Nat) (folder : String) : List String → Act Unit
  | [] => pure ()
  | source :: sources => do
    plan.link n source (Path.join folder (lastPart source))
    plan.links n folder sources

end Linking

def link : Program := fun n program args => do
  let u : Usage :=
    { letters := "fiLnPrsTv"
      valued := "t"
      names := [("symbolic", 's'), ("force", 'f'), ("interactive", 'i'), ("verbose", 'v'),
        ("no-dereference", 'n'), ("no-target-directory", 'T'), ("target-directory", 't')] }
  withUsage u program args fun r => do
    let s ← Act.state
    let manner := (r.options.reverse.find? fun o => o.1 = 'f' || o.1 = 'i').map (·.1)
    let plan : Linking.Plan :=
      { program, symbolic := r.has 's', force := manner = some 'f', asking := manner = some 'i'
        verbose := r.has 'v' }
    let isTarget (path : String) : Bool :=
      s.isFolder path && !(r.has 'n' && match s.locateLink path with
        | .ok (_, some (.link _)) => true
        | _ => false)
    match r.value? 't', r.operands.reverse with
    | _, [] => Act.misused program "missing file operand" 1
    | some folder, _ =>
      Act.finish 0
      plan.links n folder r.operands
    | none, [source] =>
      Act.finish 0
      plan.links n "." [source]
    | none, target :: sources =>
      Act.finish 0
      if isTarget target && !r.has 'T' then plan.links n target sources.reverse
      else
        match sources with
        | [source] => plan.link n source target
        | _ =>
          let why := if (s.entryAt? target).isSome then FileError.notAFolder else .notFound
          plan.refuse (s!"target {Quoted.always target}: " ++ why.cause)

/-- Makes one link to a file, and nothing else. -/
def linkOnce : Program := fun _ program args =>
  withUsage {} program args fun r => do
    match r.operands with
    | [] => Act.misused program "missing operand" 1
    | [a] => Act.misused program ("missing operand after " ++ Quoted.plain a) 1
    | [source, target] =>
      let s ← Act.state
      let cannot (e : FileError) : Act Unit :=
        Act.failed program (s!"cannot create link {Quoted.always target} to " ++
          Quoted.always source ++ ": " ++ e.cause) 1
      match s.locateLink source, s.locateLink target with
      | .error e, _ => cannot e
      | .ok (_, none), _ => cannot .notFound
      | _, .error e => cannot e
      | _, .ok (_, some _) => cannot .alreadyThere
      | .ok (p, _), .ok (q, none) =>
        Act.change fun s => { s with files := s.files.join p q }
        Act.finish 0
    | _ :: _ :: extra :: _ => Act.misused program ("extra operand " ++ Quoted.plain extra) 1

/-- Removes one file, and nothing else. -/
def unlinkOnce : Program := fun _ program args =>
  withUsage {} program args fun r => do
    match r.operands with
    | [] => Act.misused program "missing operand" 1
    | [path] =>
      let cannot (e : FileError) : Act Unit :=
        Act.failed program (s!"cannot unlink {Quoted.always path}: " ++ e.cause) 1
      match (← Act.state).locateLink path with
      | .error e => cannot e
      | .ok (_, none) => cannot .notFound
      | .ok (_, some .folder) => cannot .isAFolder
      | .ok (p, some _) =>
        Act.change fun s => { s with files := s.files.clear p }
        Act.finish 0
    | _ :: extra :: _ => Act.misused program ("extra operand " ++ Quoted.plain extra) 1

/-- How much of a path has to be there so that its real form can be told. -/
inductive Presence where
  | all
  | allButLast
  | nothing
  deriving DecidableEq

/-- The parts of a path after a place, those upwards taken away with what is before them. -/
def lexical (place : Place) (parts : List String) : Place :=
  parts.foldl (fun place part =>
    if part = "." || part = "" then place
    else if part = ".." then place.dropLast
    else place ++ [part]) place

def State.realPlace (s : State) (presence : Presence) (path : String) : Except FileError Place :=
  let start := if Path.isAbsolute path then [] else (s.folder?).getD []
  let rec settle : Nat → List String → Place
    | 0, parts => lexical start parts
    | n + 1, parts =>
      let front := parts.take n
      match s.files.follow start front with
      | .ok (p, some _) => lexical p (parts.drop n)
      | _ => settle n parts
  match s.locate path with
  | .ok (p, some _) => .ok p
  | .ok (p, none) => if presence = .all then .error .notFound else .ok p
  | .error e =>
    if presence = .nothing && path ≠ "" then
      let parts := FileTree.steps (Text.readable path)
      .ok (settle (parts.length + 1) parts)
    else .error e

def readLink : Program := fun _ program args => do
  let u : Usage :=
    { letters := "efmnqsvz"
      names := [("canonicalize", 'f'), ("canonicalize-existing", 'e'),
        ("canonicalize-missing", 'm'), ("no-newline", 'n'), ("quiet", 'q'), ("silent", 's'),
        ("verbose", 'v'), ("zero", 'z')] }
  withUsage u program args fun r => do
    let manner := (r.options.reverse.find? fun o => "efm".toList.contains o.1).map (·.1)
    let ended := if r.has 'z' then "\x00" else if r.has 'n' && r.operands.length = 1 then ""
      else "\n"
    Act.eachOperand program r "missing operand" fun s path =>
      let found : Except FileError String := match manner with
        | some c =>
          let presence : Presence :=
            if c = 'e' then .all else if c = 'm' then .nothing else .allButLast
          (s.realPlace presence path).map pathOf
        | none =>
          match s.locateLink path with
          | .error e => .error e
          | .ok (_, none) => .error .notFound
          | .ok (_, some (.link target)) => .ok target
          | .ok (_, some _) => .error .intoItself
      match found with
      | .ok text => s.outputText program (text ++ ended).toList
      | .error e =>
        if r.has 'v' then s.failed program (toldAfter path e.cause) 1 else s.finish 1

def realPath : Program := fun _ program args => do
  let u : Usage :=
    { letters := "eEmLPqsz"
      names := [("canonicalize-existing", 'e'), ("canonicalize-missing", 'm'), ("quiet", 'q'),
        ("strip", 's'), ("no-symlinks", 's'), ("zero", 'z'), ("relative-to", '\x01')]
      valued := "\x01" }
  withUsage u program args fun r => do
    let presence : Presence :=
      if r.has 'e' then .all else if r.has 'm' then .nothing else .allButLast
    let ended := if r.has 'z' then "\x00" else "\n"
    let find (s : State) (path : String) : Except FileError Place :=
      if r.has 's' then
        match s.locate path with
        | .error e => .error e
        | .ok _ =>
          let start := if Path.isAbsolute path then [] else (s.folder?).getD []
          .ok (lexical start (FileTree.steps (Text.readable path)))
      else s.realPlace presence path
    Act.eachOperand program r "missing operand" fun s path =>
      match find s path with
      | .ok place =>
        let text := match (r.value? '\x01').map (find s) with
          | some (.ok base) =>
            let rec common : Place → Place → Nat
              | a :: p, b :: q => if a = b then common p q + 1 else 0
              | _, _ => 0
            let k := common base place
            let parts := (base.drop k).map (fun _ => "..") ++ place.drop k
            if parts = [] then "." else "/".intercalate (parts.map Text.bytewise)
          | _ => pathOf place
        s.outputText program (text ++ ended).toList
      | .error e =>
        if r.has 'q' then s.finish 1 else s.failed program (toldAfter path e.cause) 1

end Cutover.Shell
