import Cutover.Files.Accounts
import Cutover.Files.Tree

/-!
# The files of a system

What every run finds: the folders at the top, the devices, and the programs of the system.
-/
namespace Cutover.FileTree

def systemFolders : List Place :=
  [["boot"], ["dev"], ["dev", "fd"], ["dev", "shm"], ["etc"], ["home"], ["media"], ["mnt"], ["opt"],
    ["proc"], ["root"], ["run"], ["srv"], ["sys"], ["tmp"], ["usr"], ["usr", "bin"],
    ["usr", "lib"], ["usr", "local"], ["usr", "local", "bin"], ["usr", "local", "sbin"],
    ["usr", "sbin"], ["usr", "share"], ["var"], ["var", "log"], ["var", "tmp"]]

def systemLinks : List (Place × String) :=
  [(["bin"], "usr/bin"), (["lib"], "usr/lib"), (["sbin"], "usr/sbin")]

/-- The devices of a system, and the names of the open streams. -/
def systemDevices : List (Place × FileEntry) :=
  [(["dev", "null"], .device .null), (["dev", "full"], .device .full),
    (["dev", "zero"], .device .zero), (["dev", "random"], .device .zero),
    (["dev", "urandom"], .device .zero), (["dev", "tty"], .device .terminal),
    (["dev", "stdin"], .stream 0), (["dev", "stdout"], .stream 1), (["dev", "stderr"], .stream 2)]
    ++ (List.range 10).map fun n => (["dev", "fd", toString n], .stream n)

def systemTexts : List (Place × String) :=
  [(["etc", "passwd"], Account.list), (["etc", "group"], Account.groupList)]

/-- The folders that are not for everybody to look into, or for everybody to use. -/
def systemModes : List (Place × Nat) :=
  [(["tmp"], 0o1777), (["var", "tmp"], 0o1777), (["dev", "shm"], 0o1777), (["root"], 0o700)]

/-- The time at which runs are taken to begin, in microseconds since 1970. -/
def beginning : Int := 1780000000000000

def system (programs : List String) : FileTree :=
  let folders := systemFolders.map fun p => (p, FileEntry.folder)
  let links := systemLinks.map fun (p, target) => (p, FileEntry.link target)
  let texts := systemTexts.map fun (p, text) => (p, FileEntry.file text.toUTF8)
  let programs := programs.map fun name => (["usr", "bin", name], FileEntry.program name)
  let tree := (folders ++ links ++ systemDevices ++ texts ++ programs).foldl
    (fun t e => t.set e.1 e.2) { empty with now := beginning }
  systemModes.foldl (fun t (p, mode) =>
    match t.number? p with
    | some number => t.alter number ({ · with mode })
    | none => t) tree

end Cutover.FileTree
