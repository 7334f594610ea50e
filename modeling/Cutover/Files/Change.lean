import Cutover.Files.Follow

/-!
# Reading and changing file trees

Texts are read and written by their paths. Folders are made with those above them, and what has
a place can be moved and removed.
-/
namespace Cutover.FileTree

def entryText : FileEntry → Except FileError String
  | .folder => .error .isAFolder
  | .device .terminal => .error .noDevice
  | .device _ | .queue | .stream _ => .ok ""
  | .program _ | .link _ => .error .notText
  | .file content =>
    match String.fromUTF8? content with
    | some text => .ok text
    | none => .error .notText

def readText (t : FileTree) (cwd : Place) (path : String) : Except FileError String :=
  match t.locate cwd path with
  | .error e => .error e
  | .ok (_, none) => .error .notFound
  | .ok (p, some e) => if t.permits p .read then entryText e else .error .denied

/-- Why no file can be written at a path with a slash at its end. -/
def folderFault (t : FileTree) (cwd : Place) (path : String) : FileError :=
  match t.follow (origin cwd path) (steps path).dropLast.dropLast with
  | .error e => e
  | .ok (_, none) => .notFound
  | .ok (_, some .folder) => .isAFolder
  | .ok (_, some _) => .notAFolder

/-- Writes to a file at a place, which is made if nothing is there. What there is no room for is
lost, and with it all that stood there before. -/
def fill (t : FileTree) (p : Place) (content : ByteArray) : Except FileError Unit × FileTree :=
  if t.room.all (content.size ≤ ·) then (.ok (), t.set p (.file content))
  else (.error .noSpace, t.set p (.file (content.extract 0 (t.room.getD 0))))

/-- Writes to what stands at a place, or makes a file there. A link is followed and never
written to. -/
def writeAt (t : FileTree) (p : Place) (content : ByteArray) :
    Option FileEntry → Except FileError Unit × FileTree
  | none => if t.permits p.dropLast .write then t.fill p content else (.error .denied, t)
  | some .folder => (.error .isAFolder, t)
  | some (.link _) => (.error .tooManyLinks, t)
  | some e =>
    if !t.permits p .write then (.error .denied, t)
    else
      match e with
      | .device .full => (if content.isEmpty then .ok () else .error .noSpace, t)
      | .device .terminal => (.error .noDevice, t)
      | .device _ | .queue | .stream _ => (.ok (), t)
      | _ => t.fill p content

/-- Writes a file, over the one that is there if there is one. -/
def write (t : FileTree) (cwd : Place) (path : String) (content : ByteArray) :
    Except FileError Unit × FileTree :=
  match unfit? path with
  | some e => (.error e, t)
  | none =>
    if path.toList.getLast? == some '/' then (.error (t.folderFault cwd path), t)
    else
      match t.locate cwd path with
      | .error e => (.error e, t)
      | .ok (p, e) => t.writeAt p content e

def writeText (t : FileTree) (cwd : Place) (path text : String) :
    Except FileError Unit × FileTree := t.write cwd path text.toUTF8

def makeFolder (t : FileTree) (start : Place) (parts : List String) :
    Except FileError FileTree :=
  match t.approach start parts with
  | .error e => .error e
  | .ok (_, some _) => .error .alreadyThere
  | .ok (p, none) => if t.permits p.dropLast .write then .ok (t.set p .folder) else .error .denied

def leadsToFolder (t : FileTree) (start : Place) (parts : List String) : Bool :=
  match t.follow start parts with
  | .ok (_, some .folder) => true
  | _ => false

def ensureFolder (t : FileTree) (start : Place) (parts : List String) :
    Except FileError FileTree :=
  match t.makeFolder start parts with
  | .ok t => .ok t
  | .error e => if t.leadsToFolder start parts then .ok t else .error e

/-- Makes a folder with all folders above it. The parts come last first. Folders that have been
made stay where one after them cannot be made. -/
def makeFoldersAbove (t : FileTree) (start : Place) :
    List String → Except FileError Unit × FileTree
  | [] => (.ok (), t)
  | part :: above =>
    match t.ensureFolder start (part :: above).reverse with
    | .ok t => (.ok (), t)
    | .error .notFound =>
      match makeFoldersAbove t start above with
      | (.error e, t) => (.error e, t)
      | (.ok (), t) =>
        match t.ensureFolder start (part :: above).reverse with
        | .ok t => (.ok (), t)
        | .error e => (.error e, t)
    | .error e => (.error e, t)

def makeFolders (t : FileTree) (cwd : Place) (path : String) :
    Except FileError Unit × FileTree :=
  match unfit? (Path.folder path) with
  | none | some .notFound =>
    t.makeFoldersAbove (origin cwd path) (Path.parts path).dropLast.reverse
  | some e => (.error e, t)

def unlessFailed : Except FileError Unit × FileTree → Except FileError FileTree
  | (.ok (), t) => .ok t
  | (.error e, _) => .error e

/-- The tree with a folder and all folders above it, unless one cannot be made. The parts come
last first. -/
def ensureFoldersAbove (t : FileTree) (start : Place) (parts : List String) :
    Except FileError FileTree :=
  unlessFailed (t.makeFoldersAbove start parts)

/-- The tree without what stands at a place and under it. -/
def removeAll (t : FileTree) (p : Place) : FileTree := t.keep fun q => !p.isPrefixOf q

/-- Moves what stands at a place, and all under it, to another place. -/
def move (t : FileTree) (source target : Place) : FileTree :=
  let cleared := t.removeAll target
  { cleared with
    places := cleared.places.map fun e =>
      (if source.isPrefixOf e.1 then target ++ e.1.drop source.length else e.1, e.2)
    known := by
      intro e he
      obtain ⟨f, hf, rfl⟩ := List.mem_map.1 he
      exact cleared.known f hf }

def join (t : FileTree) (source target : Place) : FileTree :=
  match h : t.places.lookup source with
  | none => t
  | some number =>
    { t with
      places := (target, number) :: (t.clear target).places
      known := by
        intro e he
        rcases List.mem_cons.1 he with rfl | he
        · exact t.known (source, number) (mem_of_lookup h)
        · exact (t.clear target).known e he }

end Cutover.FileTree
