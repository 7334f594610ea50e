/-!
# Accounts

The users of a system and their groups, as every system knows them, and the texts in which they
are listed.
-/
namespace Cutover

/-- A user of a system. -/
structure Account where
  name : String
  number : Nat
  group : Nat
  remark : String
  home : String
  shell : String

namespace Account

/-- The user that everything is run by. -/
def root : Account := ⟨"root", 0, 0, "root", "/root", "/bin/bash"⟩

/-- A user that nobody can be, by default one with a group of the same number. -/
def service (name : String) (number : Nat) (home : String) (group : Nat := number)
    (remark : String := name) : Account :=
  ⟨name, number, group, remark, home, "/usr/sbin/nologin"⟩

/-- The users that every system knows. -/
def all : List Account :=
  [root, service "daemon" 1 "/usr/sbin", service "bin" 2 "/bin", service "sys" 3 "/dev",
    ⟨"sync", 4, 65534, "sync", "/bin", "/bin/sync"⟩, service "games" 5 "/usr/games" 60,
    service "man" 6 "/var/cache/man" 12, service "lp" 7 "/var/spool/lpd",
    service "mail" 8 "/var/mail", service "news" 9 "/var/spool/news",
    service "uucp" 10 "/var/spool/uucp", service "proxy" 13 "/bin",
    service "www-data" 33 "/var/www", service "backup" 34 "/var/backups",
    service "list" 38 "/var/list" 38 "Mailing List Manager",
    service "irc" 39 "/run/ircd" 39 "ircd", service "_apt" 42 "/nonexistent" 65534 "",
    service "nobody" 65534 "/nonexistent"]

def groups : List (Nat × String) :=
  [(0, "root"), (1, "daemon"), (2, "bin"), (3, "sys"), (4, "adm"), (5, "tty"), (6, "disk"),
    (7, "lp"), (8, "mail"), (9, "news"), (10, "uucp"), (12, "man"), (13, "proxy"), (15, "kmem"),
    (20, "dialout"), (21, "fax"), (22, "voice"), (24, "cdrom"), (25, "floppy"), (26, "tape"),
    (27, "sudo"), (29, "audio"), (30, "dip"), (33, "www-data"), (34, "backup"), (37, "operator"),
    (38, "list"), (39, "irc"), (40, "src"), (42, "shadow"), (43, "utmp"), (44, "video"),
    (45, "sasl"), (46, "plugdev"), (50, "staff"), (60, "games"), (100, "users"),
    (65534, "nogroup")]

def groupName (a : Account) : String := (groups.lookup a.group).getD (toString a.group)

def line (a : Account) : String :=
  s!"{a.name}:x:{a.number}:{a.group}:{a.remark}:{a.home}:{a.shell}\n"

def list : String := String.join (all.map line)

def groupList : String := String.join (groups.map fun (number, name) => s!"{name}:x:{number}:\n")

end Account

end Cutover
