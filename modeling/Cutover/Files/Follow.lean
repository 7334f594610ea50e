import Cutover.Files.Tree

/-!
# Following paths

A path is followed part by part from the working folder or, if absolute, from the root. Where a
link stands its own path is followed instead, and so on for so many links in all.
-/
namespace Cutover.FileTree

/-- The longest name that a folder takes, in bytes. -/
def longestName : Nat := 255

/-- The longest path that can be followed, in bytes. -/
def longestPath : Nat := 4095

/-- How many links are followed on one path. -/
def mostLinks : Nat := 40

/-- The parts of a path as they are followed. A slash at the end asks for a folder, as a dot
after it would. -/
def steps (path : String) : List String :=
  let parts := ((Path.split path.toList).filter (· ≠ [])).map String.ofList
  if path.toList.getLast? == some '/' then parts ++ ["."] else parts

def origin (cwd : Place) (path : String) : Place := if Path.isAbsolute path then [] else cwd

abbrev Target := Except FileError (Place × Option FileEntry)

/-- Follows parts of a path from a place. The last part may lead to where nothing is. Links are
followed `onward`, one in the last part only if that is asked for. -/
def followWith (t : FileTree) (final : Bool) (onward : Place → List String → Target) :
    Place → List String → Target
  | here, [] => .ok (here, t.get? here)
  | here, part :: parts =>
    match t.get? here with
    | none => .error .notFound
    | some .folder =>
      if !t.permits here .search then .error .denied
      else if part = "." then followWith t final onward here parts
      else if part = ".." then followWith t final onward here.dropLast parts
      else if longestName < part.utf8ByteSize then .error .nameTooLong
      else
        let next := here ++ [part]
        match t.get? next with
        | some (.link path) =>
          if parts = [] && !final then .ok (next, some (.link path))
          else onward (origin here path) (steps path ++ parts)
        | e =>
          match e, parts with
          | e, [] => .ok (next, e)
          | none, _ => .error .notFound
          | some _, parts => followWith t final onward next parts
    | some _ => .error .notAFolder

/-- Follows parts of a path through at most so many links. -/
def followUpTo (t : FileTree) (final : Bool) : Nat → Place → List String → Target
  | 0 => t.followWith final fun _ _ => .error .tooManyLinks
  | n + 1 => t.followWith final (followUpTo t final n)

section

variable {t : FileTree} {final : Bool} {n : Nat} {q : Place} {parts : List String}

theorem followUpTo_nil : t.followUpTo final n q [] = .ok (q, t.get? q) := by
  cases n <;> rfl

/-- A folder in which names may be looked up. -/
structure IsOpen (t : FileTree) (q : Place) : Prop where
  folder : t.get? q = some .folder
  search : t.permits q .search = true

theorem followUpTo_dot (hq : t.IsOpen q) :
    t.followUpTo final n q ("." :: parts) = t.followUpTo final n q parts := by
  cases n <;> simp [followUpTo, followWith, hq.folder, hq.search]

theorem followUpTo_up (hq : t.IsOpen q) :
    t.followUpTo final n q (".." :: parts) = t.followUpTo final n q.dropLast parts := by
  cases n <;> simp [followUpTo, followWith, hq.folder, hq.search]

end

def follow (t : FileTree) (start : Place) (parts : List String) : Target :=
  t.followUpTo true mostLinks start parts

/-- Follows parts of a path, but no link at the end of it. -/
def approach (t : FileTree) (start : Place) (parts : List String) : Target :=
  t.followUpTo false mostLinks start parts

def unfit? (path : String) : Option FileError :=
  if path.contains '\x00' then some .nullInPath
  else if path = "" then some .notFound
  else if longestPath < path.utf8ByteSize then some .nameTooLong
  else none

/-- Follows a path from the working folder. The empty path leads nowhere. -/
def locate (t : FileTree) (cwd : Place) (path : String) : Target :=
  match unfit? path with
  | some e => .error e
  | none => t.follow (origin cwd path) (steps path)

def locateLink (t : FileTree) (cwd : Place) (path : String) : Target :=
  match unfit? path with
  | some e => .error e
  | none => t.approach (origin cwd path) (steps path)

def find? (t : FileTree) (cwd : Place) (path : String) : Option FileEntry :=
  match t.locate cwd path with
  | .ok (_, e) => e
  | .error _ => none

def contains (t : FileTree) (cwd : Place) (path : String) : Bool := (t.find? cwd path).isSome

def isFolder (t : FileTree) (cwd : Place) (path : String) : Bool :=
  match t.find? cwd path with
  | some .folder => true
  | _ => false

def isFile (t : FileTree) (cwd : Place) (path : String) : Bool :=
  match t.find? cwd path with
  | some (.file _) => true
  | _ => false

end Cutover.FileTree
