import Cutover.Shell.Pattern
import Cutover.Shell.State

/-!
# File names that fit patterns

A field with an open pattern in it stands for the paths that fit. Each part of a path is a
pattern of its own, and a dot in front of a name has to be there as it stands.
-/
namespace Cutover.Shell

namespace FileNames

/-- A part of a path between slashes, with the slashes in front of it. -/
structure Part where
  slashes : List Char
  cells : List Cell

/-- Divides cells at slashes. The slashes at the end make a part of their own. -/
def partsOf (cells : List Cell) : List Part :=
  let step (c : Cell) (parts : List Part) : List Part :=
    if c.char? = some '/' then
      match parts with
      | ⟨slashes, []⟩ :: rest => ⟨'/' :: slashes, []⟩ :: rest
      | parts => ⟨['/'], []⟩ :: parts
    else
      match parts with
      | ⟨[], cells⟩ :: rest => ⟨[], c :: cells⟩ :: rest
      | parts => ⟨[], [c]⟩ :: parts
  -- A run of slashes and the name after it are one part.
  let rec paired : List Part → List Part
    | ⟨slashes, []⟩ :: ⟨[], cells⟩ :: rest => ⟨slashes, cells⟩ :: paired rest
    | p :: rest => p :: paired rest
    | [] => []
  paired (cells.foldr step [])

def namesIn (s : State) (path : String) (p : Pattern) : List String :=
  match s.locate (if path = "" then "." else path) with
  | .ok (place, some .folder) =>
    let names := [".", ".."] ++ (s.files.names place).map Text.bytewise
    let dotted := p.head? = some (.one '.')
    names.filter fun name => (dotted || name.toList.head? ≠ some '.') && fits p name.toList
  | _ => []

def paths (s : State) : String → List Part → List String
  | path, [] => if (s.locateLink path).toOption.any (·.2.isSome) then [path] else []
  | path, ⟨slashes, cells⟩ :: rest =>
    let path := path ++ String.ofList slashes
    let p := patternOfCells cells
    if p.isOpen then
      (namesIn s path p).flatMap fun name =>
        let next := path ++ name
        if rest = [] || s.isFolder next then
          paths s next rest
        else []
    else paths s (path ++ textOf cells) rest

end FileNames

def pathsOf (s : State) (field : List Cell) : List String :=
  let isOpen (c : Cell) : Bool := c = .char '*' false || c = .char '?' false || c = .char '[' false
  if s.option 'f' || !field.any isOpen then [textOf field]
  else
    match FileNames.paths s "" (FileNames.partsOf field) with
    | [] => [textOf field]
    | found => found.mergeSort fun a b => a ≤ b

end Cutover.Shell
