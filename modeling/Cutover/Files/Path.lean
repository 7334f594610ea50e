/-!
# Paths

A path is a text with slashes between its parts. Empty parts and single dots lead nowhere, so
a path ends in the last part that is neither.
-/
namespace Cutover.Path

def split : List Char → List (List Char)
  | [] => [[]]
  | c :: s =>
    if c = '/' then [] :: split s
    else
      match split s with
      | [] => [[c]]
      | part :: parts => (c :: part) :: parts

/-- Whether a text between slashes leads nowhere. -/
def isIdle (piece : List Char) : Bool := piece = [] || piece = ['.']

def parts (path : String) : List String :=
  ((split path.toList).filter fun p => !isIdle p).map String.ofList

def isAbsolute (path : String) : Bool := path.toList.head? == some '/'

/-- The last part of a path, unless that leads upwards or there is none. -/
def fileName? (path : String) : Option String :=
  match (parts path).getLast? with
  | some last => if last = ".." then none else some last
  | none => none

/-- The text of a path before its last part that leads somewhere, without slashes at its end. -/
def folder (path : String) : String :=
  let pieces := (((split path.toList).reverse.dropWhile isIdle).drop 1).dropWhile isIdle
  String.ofList (['/'].intercalate pieces.reverse)

/-- What stands after the last dot of a file name; a dot at its beginning does not count. -/
def extension? (fileName : String) : Option String :=
  let reversed := fileName.toList.reverse
  let ending := reversed.takeWhile (· ≠ '.')
  match reversed.dropWhile (· ≠ '.') with
  | _ :: _ :: _ => some (String.ofList ending.reverse)
  | _ => none

def join (folder name : String) : String :=
  if folder = "" || folder.toList.getLast? == some '/' then folder ++ name
  else folder ++ "/" ++ name

end Cutover.Path
