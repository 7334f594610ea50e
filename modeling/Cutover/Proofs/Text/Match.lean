import Cutover.Text.Pattern

/-!
# Where matches begin

A scan reports the matches from left to right, each as far left as it can be and none over another
one. Said without the scan: a match begins wherever the pattern can be read, unless a match that
begins before it reaches beyond that place.
-/
namespace Cutover.Text.Pattern

variable {p : Pattern} {text : List Char} {n : Nat}

/-- What is read at a position of a text, if the pattern can be read there: the name that is
reported, and where the reading ends. -/
def matchAt? (p : Pattern) (text : List Char) (n : Nat) : Option (List Char × Nat) :=
  (p.readAt (text.take n).getLast? (text.drop n)).map fun r => (r.1, text.length - r.2.length)

/-- Whether a match begins at a position. -/
def BeginsAt (p : Pattern) (text : List Char) (n : Nat) : Prop :=
  (p.matchAt? text n).isSome ∧
    ∀ m, (_ : m < n) → p.BeginsAt text m → ∀ r ∈ p.matchAt? text m, r.2 ≤ n
termination_by n

theorem beginsAt_iff : p.BeginsAt text n ↔ (p.matchAt? text n).isSome ∧
    ∀ m < n, p.BeginsAt text m → ∀ r ∈ p.matchAt? text m, r.2 ≤ n := by
  rw [BeginsAt]

theorem matchAt?_length (front rest : List Char) : p.matchAt? (front ++ rest) front.length =
    (p.readAt front.getLast? rest).map fun r => (r.1, (front ++ rest).length - r.2.length) := by
  simp only [matchAt?, List.take_left', List.drop_left']

/-- A scan that has come to a position and still has `skip` characters to pass over: no match that
begins before reaches beyond them, and none begins among them. -/
structure Settled (p : Pattern) (text : List Char) (n skip : Nat) : Prop where
  ends : ∀ m < n, p.BeginsAt text m → ∀ r ∈ p.matchAt? text m, r.2 ≤ n + skip
  covered : ∀ k, n ≤ k → k < n + skip → ¬p.BeginsAt text k

theorem Settled.pass {skip : Nat} (h : p.Settled text n (skip + 1)) :
    p.Settled text (n + 1) skip where
  ends m hm hb r hr := by
    have hne : m ≠ n := fun he => h.covered n (Nat.le_refl _) (by omega) (he ▸ hb)
    have := h.ends m (by omega) hb r hr
    omega
  covered k hk hlt := h.covered k (by omega) (by omega)

theorem Settled.miss (h : p.Settled text n 0) (hn : ¬p.BeginsAt text n) :
    p.Settled text (n + 1) 0 where
  ends m hm hb r hr := by
    have hne : m ≠ n := fun he => hn (he ▸ hb)
    have := h.ends m (by omega) hb r hr
    omega
  covered k hk hlt := by omega

theorem Settled.hit {name : List Char} {stop : Nat} (h : p.Settled text n 0)
    (hb : p.BeginsAt text n) (hm : p.matchAt? text n = some (name, stop)) :
    p.Settled text (n + 1) (stop - (n + 1)) where
  ends m hlt hm' r hr := by
    rcases Nat.lt_succ_iff_lt_or_eq.mp hlt with hlt | rfl
    · have := h.ends m hlt hm' r hr
      omega
    · obtain rfl : (name, stop) = r := by simpa [hm] using hr
      omega
  covered k hk hlt hk' := by
    have := (beginsAt_iff.mp hk').2 n (by omega) hb (name, stop) (by simp [hm])
    simp only at this
    omega

/-- Whether a match with this name begins at a position or after it. -/
def ReportsFrom (p : Pattern) (text : List Char) (n : Nat) (name : List Char) : Prop :=
  ∃ k stop, n ≤ k ∧ p.BeginsAt text k ∧ p.matchAt? text k = some (name, stop)

theorem reportsFrom_of_not_beginsAt (h : ¬p.BeginsAt text n) (name : List Char) :
    p.ReportsFrom text n name ↔ p.ReportsFrom text (n + 1) name := by
  constructor
  · rintro ⟨k, stop, hk, hb, hm⟩
    have hne : n ≠ k := fun he => h (he ▸ hb)
    exact ⟨k, stop, by omega, hb, hm⟩
  · rintro ⟨k, stop, hk, hb, hm⟩
    exact ⟨k, stop, by omega, hb, hm⟩

theorem reportsFrom_of_beginsAt {found : List Char} {stop : Nat} (h : p.BeginsAt text n)
    (hm : p.matchAt? text n = some (found, stop)) (name : List Char) :
    p.ReportsFrom text n name ↔ name = found ∨ p.ReportsFrom text (n + 1) name := by
  constructor
  · rintro ⟨k, stop', hk, hb, hm'⟩
    rcases Nat.eq_or_lt_of_le hk with rfl | hk
    · rw [hm] at hm'
      exact .inl (by simpa using congrArg (·.map Prod.fst) hm'.symm)
    · exact .inr ⟨k, stop', hk, hb, hm'⟩
  · rintro (rfl | ⟨k, stop', hk, hb, hm'⟩)
    · exact ⟨n, stop, Nat.le_refl n, h, hm⟩
    · exact ⟨k, stop', by omega, hb, hm'⟩

/-- The names that a scan finds from a position on are those of the matches that begin there or
later. -/
theorem mem_scan_iff (hnil : ∀ before, p.readAt before [] = none) {name front rest : List Char}
    {skip : Nat} (h : p.Settled (front ++ rest) front.length skip) :
    name ∈ p.scan skip front.getLast? rest ↔
      p.ReportsFrom (front ++ rest) front.length name := by
  induction rest generalizing front skip with
  | nil =>
    have hnone : ¬p.ReportsFrom (front ++ []) front.length name := by
      rintro ⟨k, stop, hk, -, hm⟩
      simp [matchAt?, List.drop_eq_nil_of_le hk, hnil] at hm
    simpa [scan] using hnone
  | cons c rest ih =>
    have hrest : ∀ {skip}, p.Settled (front ++ c :: rest) (front.length + 1) skip →
        (name ∈ p.scan skip (some c) rest ↔
          p.ReportsFrom (front ++ c :: rest) (front.length + 1) name) := by
      intro skip hs
      have hi := @ih (front ++ [c]) skip
      simp only [List.getLast?_concat, List.length_append, List.length_singleton,
        List.append_assoc, List.singleton_append] at hi
      exact hi hs
    have hmatch := matchAt?_length (p := p) front (c :: rest)
    cases skip with
    | succ skip =>
      have hnot := h.covered front.length (Nat.le_refl _) (by omega)
      rw [scan, hrest h.pass, reportsFrom_of_not_beginsAt hnot]
    | zero =>
      rw [scan]
      cases hr : p.readAt front.getLast? (c :: rest) with
      | none =>
        rw [hr] at hmatch
        have hnot : ¬p.BeginsAt (front ++ c :: rest) front.length := by
          rw [beginsAt_iff, hmatch]
          simp
        simp only [hrest (h.miss hnot), reportsFrom_of_not_beginsAt hnot]
      | some r =>
        rw [hr] at hmatch
        have hbegins : p.BeginsAt (front ++ c :: rest) front.length := by
          rw [beginsAt_iff, hmatch]
          exact ⟨rfl, h.ends⟩
        have hskip : rest.length - r.2.length =
            (front ++ c :: rest).length - r.2.length - (front.length + 1) := by
          simp only [List.length_append, List.length_cons]
          omega
        simp only [List.mem_cons]
        rw [hskip, hrest (h.hit hbegins hmatch), reportsFrom_of_beginsAt hbegins hmatch]

/-- The names that a pattern finds in a text are those of the matches that begin somewhere. -/
theorem mem_matches_iff (hnil : ∀ before, p.readAt before [] = none) {name : List Char}
    {text : String} : name ∈ p.matches text ↔ ∃ n stop, p.BeginsAt text.toList n ∧
      p.matchAt? text.toList n = some (name, stop) := by
  have hstart : p.Settled ([] ++ text.toList) ([] : List Char).length 0 :=
    ⟨fun m hm => by simp at hm, fun k _ hk => by simp at hk⟩
  have hscan : name ∈ p.scan 0 none text.toList ↔ p.ReportsFrom text.toList 0 name :=
    mem_scan_iff hnil hstart
  simpa [Pattern.matches, ReportsFrom] using hscan

/-- A pattern is found in a text if the text can be divided where the pattern can be read. -/
theorem foundFrom_iff (hnil : ∀ before, p.readAt before [] = none) {before : Option Char}
    {text : List Char} : p.foundFrom before text = true ↔
      ∃ front rest, text = front ++ rest ∧ (p.readAt (front.getLast?.or before) rest).isSome := by
  induction text generalizing before with
  | nil =>
    have hnone : ∀ front rest, [] = front ++ rest →
        (p.readAt (front.getLast?.or before) rest).isSome = false := by
      intro front rest h
      obtain ⟨rfl, rfl⟩ := List.append_eq_nil_iff.mp h.symm
      simp [hnil]
    simp only [foundFrom, Bool.false_eq_true, false_iff, not_exists, not_and]
    exact fun front rest h => by simp [hnone front rest h]
  | cons c text ih =>
    have hlast : ∀ front : List Char,
        (c :: front).getLast?.or before = front.getLast?.or (some c) := by
      intro front
      rw [List.getLast?_cons]
      cases front.getLast? <;> rfl
    rw [foundFrom, Bool.or_eq_true, ih]
    constructor
    · rintro (hhere | ⟨front, rest, rfl, hread⟩)
      · exact ⟨[], c :: text, rfl, hhere⟩
      · exact ⟨c :: front, rest, rfl, by rwa [hlast]⟩
    · rintro ⟨front, rest, htext, hread⟩
      cases front with
      | nil => exact .inl (htext ▸ hread)
      | cons c' front =>
        obtain ⟨rfl, rfl⟩ := List.cons.inj htext
        exact .inr ⟨front, rest, rfl, by rwa [← hlast]⟩

theorem found_iff (hnil : ∀ before, p.readAt before [] = none) {text : String} :
    p.found text = true ↔
      ∃ front rest, text.toList = front ++ rest ∧ (p.readAt front.getLast? rest).isSome := by
  simp only [found, foundFrom_iff hnil, Option.or_none]

end Cutover.Text.Pattern
