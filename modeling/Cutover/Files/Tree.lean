import Cutover.Error
import Cutover.Files.Path

/-!
# File trees

The files and folders that a run can see. A place is the list of names that leads from the root
to something that has a name. What stands there is a node with a number of its own: it stays the
same node when it gets another place, and several places may lead to one file. The root is
always a folder.
-/
namespace Cutover

/-- A file behind which there is no storage. -/
inductive Device where
  /-- Empty to read; what is written to it is gone. -/
  | null
  /-- Zeros without an end; nothing can be written to it. -/
  | full
  /-- Zeros without an end; what is written to it is gone. -/
  | zero
  | terminal
  deriving DecidableEq, Repr

/-- What a node is. -/
inductive FileEntry where
  | folder
  | file (content : ByteArray)
  | device (d : Device)
  | program (name : String)
  /-- A path that is followed in place of the link. -/
  | link (target : String)
  | queue
  /-- An open stream of the process that opens it. -/
  | stream (number : Nat)

/-- Something with a place in a tree. -/
structure Node where
  entry : FileEntry
  /-- Who may do what with it, as nine bits. -/
  mode : Nat
  time : Int

/-- What may be done with something new. -/
def FileEntry.usualMode : FileEntry → Nat
  | folder | program _ => 0o755
  | link _ => 0o777
  | file _ | queue => 0o644
  | device _ | stream _ => 0o666

/-- Changes within so many microseconds have the same time. -/
def tick : Int := 4000

/-- Whether a node was changed after another one. -/
def Node.isNewer (a b : Node) : Bool := b.time / tick < a.time / tick

/-- Whether a node may be run by somebody. -/
def Node.isRunnable (n : Node) : Bool := n.mode &&& 0o111 ≠ 0

/-- What the owner of a node may or may not do with it. -/
inductive Permission where
  | read
  | write
  | search
  deriving DecidableEq, Repr

def Permission.bit : Permission → Nat
  | read => 0o400
  | write => 0o200
  | search => 0o100

def Permission.isIn (a : Permission) (mode : Nat) : Bool := mode &&& a.bit ≠ 0

/-- The names that lead from the root to a node. -/
abbrev Place := List String

/-- Nodes with the places where they are. The first node is the root. All of them belong to the one
who uses them. -/
structure FileTree where
  places : List (Place × Nat)
  nodes : Array Node
  now : Int
  /-- Whether modes bind their owner. They do not bind the user that may do everything. -/
  guarded : Bool
  /-- How many bytes there is room for in a file, if that is bounded. -/
  room : Option Nat
  known : ∀ e ∈ places, e.2 < nodes.size

namespace FileTree

def empty : FileTree :=
  ⟨[], #[⟨.folder, FileEntry.folder.usualMode, 0⟩], 0, false, none, by simp⟩

def number? (t : FileTree) (p : Place) : Option Nat :=
  if p = [] then some 0 else t.places.lookup p

def node? (t : FileTree) (p : Place) : Option Node := (t.number? p).bind (t.nodes[·]?)

def get? (t : FileTree) (p : Place) : Option FileEntry :=
  if p = [] then some .folder else (t.node? p).map (·.entry)

/-- Whether something may be done with what stands at a place. -/
def permits (t : FileTree) (p : Place) (a : Permission) : Bool :=
  !t.guarded || (t.node? p).any fun n => a.isIn n.mode

def placeOf? (t : FileTree) (number : Nat) : Option Place :=
  if number = 0 then some [] else (t.places.find? (·.2 = number)).map (·.1)

def add (t : FileTree) (p : Place) (e : FileEntry) (mode : Nat) : FileTree where
  places := (p, t.nodes.size) :: t.places.filter (·.1 ≠ p)
  nodes := t.nodes.push ⟨e, mode, t.now⟩
  now := t.now
  guarded := t.guarded
  room := t.room
  known := by
    intro e he
    rcases List.mem_cons.1 he with rfl | he
    · simp
    · have := t.known e (List.mem_filter.1 he).1
      simp
      omega

def alter (t : FileTree) (number : Nat) (f : Node → Node) : FileTree :=
  { t with
    nodes := t.nodes.modify number f
    known := by simpa using t.known }

def refill (t : FileTree) (number : Nat) (e : FileEntry) : FileTree :=
  t.alter number fun n => { n with entry := e, time := t.now }

/-- The tree with another entry at a place. The node that is there stays the same one. -/
def set (t : FileTree) (p : Place) (e : FileEntry) : FileTree :=
  match t.number? p with
  | some number => t.refill number e
  | none => t.add p e e.usualMode

def keep (t : FileTree) (chosen : Place → Bool) : FileTree :=
  { t with
    places := t.places.filter fun e => chosen e.1
    known := fun e he => t.known e (List.mem_filter.1 he).1 }

def clear (t : FileTree) (p : Place) : FileTree := t.keep (· ≠ p)

/-- Leaving out the entry of one place changes no other lookup. -/
theorem lookup_filter_ne {α : Type} (l : List (Place × α)) {p q : Place} (h : q ≠ p) :
    (l.filter fun e => !decide (e.1 = p)).lookup q = l.lookup q := by
  induction l with
  | nil => rfl
  | cons e l ih =>
    obtain ⟨r, e⟩ := e
    by_cases hr : r = p
    · have hq : (q == p) = false := by simpa using h
      simp [hr, List.lookup_cons, hq, ih]
    · by_cases hq : q = r
      · simp [hr, hq]
      · have : (q == r) = false := by simpa using hq
        simp [hr, List.lookup_cons, this, ih]

theorem mem_of_lookup {α : Type} {l : List (Place × α)} {p : Place} {a : α}
    (h : l.lookup p = some a) : (p, a) ∈ l := by
  induction l with
  | nil => simp at h
  | cons e l ih =>
    obtain ⟨q, b⟩ := e
    rw [List.lookup_cons] at h
    by_cases hq : p = q
    · subst hq
      simp at h
      simp [h]
    · have : (p == q) = false := by simpa using hq
      rw [this] at h
      exact List.mem_cons_of_mem _ (ih h)

theorem number?_lt {t : FileTree} {p : Place} {n : Nat} (hp : p ≠ []) (h : t.number? p = some n) :
    n < t.nodes.size := by
  simp only [number?, hp, if_false] at h
  exact t.known _ (mem_of_lookup h)

theorem number?_alter (t : FileTree) (n : Nat) (f : Node → Node) (p : Place) :
    (t.alter n f).number? p = t.number? p := rfl

theorem node?_alter_self (t : FileTree) (f : Node → Node) {n : Nat} {p : Place}
    (h : t.number? p = some n) : (t.alter n f).node? p = (t.node? p).map f := by
  unfold node?
  rw [number?_alter, h]
  simp [alter, Array.getElem?_modify]

theorem node?_alter_of_ne (t : FileTree) (f : Node → Node) {n : Nat} {p : Place}
    (h : t.number? p ≠ some n) : (t.alter n f).node? p = t.node? p := by
  unfold node?
  rw [number?_alter]
  cases hm : t.number? p with
  | none => rfl
  | some m =>
    have : n ≠ m := fun hnm => h (hm.trans (congrArg some hnm.symm))
    simp [alter, Array.getElem?_modify, this]

theorem number?_add_of_ne (t : FileTree) (e : FileEntry) (mode : Nat) {p q : Place} (h : q ≠ p) :
    (t.add p e mode).number? q = t.number? q := by
  have hq : (q == p) = false := by simpa using h
  simp [number?, add, List.lookup_cons, hq, lookup_filter_ne t.places h]

theorem isSome_node? {t : FileTree} {p : Place} {n : Nat} (hp : p ≠ []) (h : t.number? p = some n) :
    (t.node? p).isSome := by
  simp [node?, h, number?_lt hp h]

theorem get?_set_self (t : FileTree) (p : Place) (e : FileEntry) (h : p ≠ []) :
    (t.set p e).get? p = some e := by
  unfold set
  split
  case h_1 n hn =>
    obtain ⟨node, hnode⟩ := Option.isSome_iff_exists.1 (isSome_node? h hn)
    simp [get?, h, refill, node?_alter_self t _ hn, hnode]
  case h_2 => simp [get?, h, node?, number?, add]

/-- A change at one place is seen at no place of another node. -/
theorem get?_set_of_ne (t : FileTree) (e : FileEntry) {p q : Place} (h : q ≠ p)
    (hn : ∀ n, t.number? p = some n → t.number? q ≠ some n) :
    (t.set p e).get? q = t.get? q := by
  by_cases hq : q = []
  · simp [get?, hq]
  unfold set
  split
  case h_1 n hp => simp [get?, hq, refill, node?_alter_of_ne t _ (hn n hp)]
  case h_2 =>
    simp only [get?, hq, if_false, node?, number?_add_of_ne t e e.usualMode h]
    cases hm : t.number? q with
    | none => rfl
    | some m => simp [add, Array.getElem?_push, Nat.ne_of_lt (number?_lt hq hm)]

/-- A change at a place is not seen where something of another kind is. -/
theorem get?_set_of_get?_ne (t : FileTree) (e : FileEntry) {p q : Place} (h : q ≠ p)
    (hp : p ≠ []) (hg : t.get? q ≠ t.get? p) : (t.set p e).get? q = t.get? q := by
  by_cases hq : q = []
  · simp [get?, hq]
  refine t.get?_set_of_ne e h fun n hn hm => hg ?_
  simp [get?, hp, hq, node?, hn, hm]

theorem mode_set {t : FileTree} {q : Place} {n : Node} (h : t.node? q = some n) (p : Place)
    (e : FileEntry) : ∃ n', (t.set p e).node? q = some n' ∧ n'.mode = n.mode := by
  obtain ⟨number, hq, hnode⟩ := Option.bind_eq_some_iff.1 h
  unfold set
  split
  case h_1 m hm =>
    by_cases hmq : t.number? q = some m
    · exact ⟨⟨e, n.mode, t.now⟩, by rw [refill, node?_alter_self t _ hmq, h]; rfl, rfl⟩
    · exact ⟨n, by rw [refill, node?_alter_of_ne t _ hmq, h], rfl⟩
  case h_2 hp =>
    have hne : q ≠ p := by
      rintro rfl
      simp [hp] at hq
    refine ⟨n, ?_, rfl⟩
    rw [node?, number?_add_of_ne t e _ hne, hq, Option.bind_some]
    have hlt := (Array.getElem?_eq_some_iff.1 hnode).1
    simpa [add, Array.getElem?_push, Nat.ne_of_lt hlt] using hnode

theorem room_set (t : FileTree) (p : Place) (e : FileEntry) : (t.set p e).room = t.room := by
  unfold set
  split <;> rfl

theorem guarded_set (t : FileTree) (p : Place) (e : FileEntry) :
    (t.set p e).guarded = t.guarded := by
  unfold set
  split <;> rfl

/-- What may be done stays allowed when something is changed. -/
theorem permits_set {t : FileTree} {q : Place} {a : Permission} (h : t.permits q a = true)
    (p : Place) (e : FileEntry) : (t.set p e).permits q a = true := by
  rw [permits, Bool.or_eq_true, Option.any_eq_true] at h ⊢
  rw [guarded_set]
  refine h.imp id ?_
  rintro ⟨n, hn, ha⟩
  obtain ⟨n', hn', hmode⟩ := mode_set hn p e
  exact ⟨n', hn', hmode ▸ ha⟩

theorem number?_eq_none {t : FileTree} {p : Place} (hp : p ≠ []) (h : t.get? p = none) :
    t.number? p = none := by
  cases hn : t.number? p with
  | none => rfl
  | some n =>
    have hnode := isSome_node? hp hn
    simp only [get?, hp, if_false, Option.map_eq_none_iff] at h
    simp [h] at hnode

theorem get?_set_of_new {t : FileTree} {p q : Place} (hp : p ≠ []) (h : t.get? p = none)
    (hq : q ≠ p) (e : FileEntry) : (t.set p e).get? q = t.get? q :=
  t.get?_set_of_ne e hq fun n hn => by simp [number?_eq_none hp h] at hn

theorem permits_set_of_new {t : FileTree} {p : Place} {e : FileEntry} {a : Permission} (hp : p ≠ [])
    (h : t.get? p = none) (ha : a.isIn e.usualMode = true) : (t.set p e).permits p a = true := by
  have hnode : (t.set p e).node? p = some ⟨e, e.usualMode, t.now⟩ := by
    simp only [set, number?_eq_none hp h]
    simp [node?, number?, hp, add]
  simp [permits, hnode, ha]

def names (t : FileTree) (p : Place) : List String :=
  t.places.filterMap fun e => if e.1.dropLast = p then e.1.getLast? else none

end FileTree

end Cutover
