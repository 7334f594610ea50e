import Cutover.Files.Follow
import Mathlib.Tactic.Common

/-!
# Where a path leads

Following a path told as a relation, with the number of links that are followed on the way. A
way can be cut in two and put together again, and it stays the same in a tree that has the same
folders and links along it.
-/
namespace Cutover.FileTree

/-- Whether a part is a name to be looked up in a folder. -/
structure IsName (part : String) : Prop where
  ne_dot : part ≠ "."
  ne_up : part ≠ ".."
  short : part.utf8ByteSize ≤ longestName

/-- From one place the parts lead to another one, where `e` is, over so many links. A link at
the end is followed if it is `final`. -/
inductive Leads (t : FileTree) (final : Bool) :
    Nat → Place → List String → Place → Option FileEntry → Prop
  | here {q : Place} : Leads t final 0 q [] q (t.get? q)
  | dot {n : Nat} {q p : Place} {parts : List String} {e : Option FileEntry}
      (hq : t.IsOpen q) (h : Leads t final n q parts p e) :
      Leads t final n q ("." :: parts) p e
  | up {n : Nat} {q p : Place} {parts : List String} {e : Option FileEntry}
      (hq : t.IsOpen q) (h : Leads t final n q.dropLast parts p e) :
      Leads t final n q (".." :: parts) p e
  | down {n : Nat} {q p : Place} {part : String} {parts : List String} {e : Option FileEntry}
      (hq : t.IsOpen q) (hn : IsName part)
      (hl : ∀ path, t.get? (q ++ [part]) ≠ some (.link path))
      (h : Leads t final n (q ++ [part]) parts p e) : Leads t final n q (part :: parts) p e
  | link {n : Nat} {q p : Place} {part path : String} {parts : List String}
      {e : Option FileEntry} (hq : t.IsOpen q) (hn : IsName part)
      (hl : t.get? (q ++ [part]) = some (.link path)) (hf : parts ≠ [] ∨ final)
      (h : Leads t final n (origin q path) (steps path ++ parts) p e) :
      Leads t final (n + 1) q (part :: parts) p e
  | stay {q : Place} {part path : String} (hq : t.IsOpen q) (hn : IsName part)
      (hl : t.get? (q ++ [part]) = some (.link path)) (hf : final = false) :
      Leads t final 0 q [part] (q ++ [part]) (some (.link path))

variable {t t' : FileTree} {final : Bool} {n m : Nat} {q p r : Place} {part path : String}
  {parts xs ys : List String} {e : Option FileEntry}

theorem followUpTo_down (hq : t.IsOpen q) (hn : IsName part)
    (hl : ∀ path, t.get? (q ++ [part]) ≠ some (.link path))
    (hp : parts = [] ∨ t.get? (q ++ [part]) ≠ none) :
    t.followUpTo final n q (part :: parts) = t.followUpTo final n (q ++ [part]) parts := by
  have hs := Nat.not_lt.mpr hn.short
  have hw : ∀ onward, t.followWith final onward q (part :: parts) =
      t.followWith final onward (q ++ [part]) parts := by
    intro onward
    rw [followWith]
    simp only [hq.folder, hq.search, Bool.not_true, Bool.false_eq_true, hn.ne_dot, hn.ne_up, hs,
      if_false]
    cases hg : t.get? (q ++ [part]) with
    | none =>
      obtain rfl := hp.resolve_right fun h => h hg
      simp [followWith, hg]
    | some e =>
      cases parts with
      | nil => cases e <;> simp_all [followWith]
      | cons part' parts => cases e <;> simp_all
  cases n <;> exact hw _

theorem followUpTo_link (hq : t.IsOpen q) (hn : IsName part)
    (hl : t.get? (q ++ [part]) = some (.link path)) (hf : parts ≠ [] ∨ final) :
    t.followUpTo final (n + 1) q (part :: parts) =
      t.followUpTo final n (origin q path) (steps path ++ parts) := by
  have hs := Nat.not_lt.mpr hn.short
  have hgo : (decide (parts = []) && !final) = false := by
    rcases hf with hf | hf <;> simp [hf]
  rw [followUpTo, followWith]
  simp only [hq.folder, hq.search, Bool.not_true, hn.ne_dot, hn.ne_up, hs, hl, if_false, hgo,
    Bool.false_eq_true]

theorem followUpTo_stay (hq : t.IsOpen q) (hn : IsName part)
    (hl : t.get? (q ++ [part]) = some (.link path)) (hf : final = false) :
    t.followUpTo final n q [part] = .ok (q ++ [part], some (.link path)) := by
  have hs := Nat.not_lt.mpr hn.short
  cases n <;>
    simp [followUpTo, followWith, hq.folder, hq.search, hn.ne_dot, hn.ne_up, hs, hl, hf]

/-- Parts can only be followed from an open folder. -/
theorem isOpen_of_followUpTo (h : t.followUpTo final n q (part :: parts) = .ok (p, e)) :
    t.IsOpen q := by
  have hw : ∀ onward, t.followWith final onward q (part :: parts) = .ok (p, e) →
      t.IsOpen q := by
    intro onward hon
    rw [followWith] at hon
    split at hon
    · simp at hon
    · next hfolder =>
      split at hon
      · simp at hon
      · next hsearch => exact ⟨hfolder, by simpa using hsearch⟩
    · simp at hon
  cases n <;> exact hw _ h

theorem short_of_followUpTo (h : t.followUpTo final n q (part :: parts) = .ok (p, e))
    (hd : part ≠ ".") (hu : part ≠ "..") : IsName part := by
  have hq := isOpen_of_followUpTo h
  refine ⟨hd, hu, Nat.not_lt.mp fun hs => ?_⟩
  cases n <;> simp [followUpTo, followWith, hq.folder, hq.search, hd, hu, hs] at h

/-- Where nothing is, the parts have come to their end. -/
theorem eq_nil_of_followUpTo (hq : t.IsOpen q) (hn : IsName part)
    (hnone : t.get? (q ++ [part]) = none)
    (h : t.followUpTo final n q (part :: parts) = .ok (p, e)) : parts = [] := by
  have hs := Nat.not_lt.mpr hn.short
  cases parts with
  | nil => rfl
  | cons part' parts =>
    cases n <;>
      simp [followUpTo, followWith, hq.folder, hq.search, hn.ne_dot, hn.ne_up, hs, hnone] at h

theorem leads_of_followUpTo (h : t.followUpTo final n q parts = .ok (p, e)) :
    ∃ m ≤ n, Leads t final m q parts p e := by
  induction n using Nat.strongRecOn generalizing q parts with
  | _ n ihn =>
    induction parts generalizing q with
    | nil =>
      rw [followUpTo_nil] at h
      cases h
      exact ⟨0, Nat.zero_le n, .here⟩
    | cons part parts ih =>
      have hq := isOpen_of_followUpTo h
      by_cases hd : part = "."
      · subst hd
        obtain ⟨m, hm, hl⟩ := ih (followUpTo_dot hq ▸ h)
        exact ⟨m, hm, .dot hq hl⟩
      by_cases hu : part = ".."
      · subst hu
        obtain ⟨m, hm, hl⟩ := ih (followUpTo_up hq ▸ h)
        exact ⟨m, hm, .up hq hl⟩
      have hn := short_of_followUpTo h hd hu
      by_cases hl : ∃ path, t.get? (q ++ [part]) = some (.link path)
      · obtain ⟨path, hl⟩ := hl
        by_cases hf : parts ≠ [] ∨ final
        · cases n with
          | zero =>
            have hs := Nat.not_lt.mpr hn.short
            have hgo : (decide (parts = []) && !final) = false := by
              rcases hf with hf | hf <;> simp [hf]
            simp [followUpTo, followWith, hq.folder, hq.search, hd, hu, hs, hl, hgo] at h
          | succ n =>
            rw [followUpTo_link hq hn hl hf] at h
            obtain ⟨m, hm, hlead⟩ := ihn n (Nat.lt_succ_self n) h
            exact ⟨m + 1, Nat.succ_le_succ hm, .link hq hn hl hf hlead⟩
        · obtain ⟨rfl, hfinal⟩ : parts = [] ∧ final = false := by simpa using hf
          rw [followUpTo_stay hq hn hl hfinal] at h
          cases h
          exact ⟨0, Nat.zero_le n, .stay hq hn hl hfinal⟩
      · simp only [not_exists] at hl
        have hp : parts = [] ∨ t.get? (q ++ [part]) ≠ none := by
          by_contra hc
          obtain ⟨hp, hnone⟩ := not_or.mp hc
          exact hp (eq_nil_of_followUpTo hq hn (not_not.mp hnone) h)
        rw [followUpTo_down hq hn hl hp] at h
        obtain ⟨m, hm, hlead⟩ := ih h
        exact ⟨m, hm, .down hq hn hl hlead⟩

namespace Leads

/-- Parts lead only from an open folder. -/
theorem isOpen (h : Leads t final n q (part :: parts) p e) : t.IsOpen q := by
  cases h <;> assumption

theorem get?_eq (h : Leads t final n q parts p e) : e = t.get? p := by
  induction h with
  | here => rfl
  | dot _ _ ih => exact ih
  | up _ _ ih => exact ih
  | down _ _ _ _ ih => exact ih
  | link _ _ _ _ _ ih => exact ih
  | stay _ _ hl _ => exact hl.symm

theorem followUpTo_eq (h : Leads t final m q parts p e) (hm : m ≤ n) :
    t.followUpTo final n q parts = .ok (p, e) := by
  induction h generalizing n with
  | here => exact followUpTo_nil
  | dot hq _ ih => rw [followUpTo_dot hq, ih hm]
  | up hq _ ih => rw [followUpTo_up hq, ih hm]
  | @down _ q _ part parts _ hq hn hl h ih =>
    have hp : parts = [] ∨ t.get? (q ++ [part]) ≠ none := by
      cases parts with
      | nil => exact .inl rfl
      | cons part' parts => exact .inr (by simp [h.isOpen.folder])
    rw [followUpTo_down hq hn hl hp, ih hm]
  | link hq hn hl hf _ ih =>
    cases n with
    | zero => omega
    | succ n => rw [followUpTo_link hq hn hl hf, ih (by omega)]
  | stay hq hn hl hf => exact followUpTo_stay hq hn hl hf

/-- A way to a folder and a way from there make one way. -/
theorem append (h : Leads t true n q xs r (some .folder)) (h' : Leads t true m r ys p e) :
    Leads t true (n + m) q (xs ++ ys) p e := by
  generalize hf : some FileEntry.folder = f at h
  induction h with
  | here => simpa using h'
  | dot hq _ ih => exact .dot hq (ih h' hf)
  | up hq _ ih => exact .up hq (ih h' hf)
  | down hq hn hl _ ih => exact .down hq hn hl (ih h' hf)
  | link hq hn hl _ _ ih =>
    rw [Nat.add_right_comm]
    refine .link hq hn hl (.inr rfl) ?_
    simpa using ih h' hf
  | stay => contradiction

/-- A way can be cut in two at any part, and is at a folder there. -/
theorem split (h : Leads t true n q (xs ++ ys) p e) (hy : ys ≠ []) :
    ∃ k m r, n = k + m ∧ Leads t true k q xs r (some .folder) ∧ Leads t true m r ys p e := by
  generalize hz : xs ++ ys = zs at h
  induction h generalizing xs with
  | here => simp_all
  | @dot n q p parts e hq h ih =>
    rcases List.append_eq_cons_iff.mp hz with ⟨rfl, rfl⟩ | ⟨xs, rfl, rfl⟩
    · exact ⟨0, n, q, by omega, hq.folder ▸ .here, .dot hq h⟩
    · obtain ⟨k, m, r, hk, hx, hy⟩ := ih rfl
      exact ⟨k, m, r, hk, .dot hq hx, hy⟩
  | @up n q p parts e hq h ih =>
    rcases List.append_eq_cons_iff.mp hz with ⟨rfl, rfl⟩ | ⟨xs, rfl, rfl⟩
    · exact ⟨0, n, q, by omega, hq.folder ▸ .here, .up hq h⟩
    · obtain ⟨k, m, r, hk, hx, hy⟩ := ih rfl
      exact ⟨k, m, r, hk, .up hq hx, hy⟩
  | @down n q p part parts e hq hn hl h ih =>
    rcases List.append_eq_cons_iff.mp hz with ⟨rfl, rfl⟩ | ⟨xs, rfl, rfl⟩
    · exact ⟨0, n, q, by omega, hq.folder ▸ .here, .down hq hn hl h⟩
    · obtain ⟨k, m, r, hk, hx, hy⟩ := ih rfl
      exact ⟨k, m, r, hk, .down hq hn hl hx, hy⟩
  | @link n q p part path parts e hq hn hl hf h ih =>
    rcases List.append_eq_cons_iff.mp hz with ⟨rfl, rfl⟩ | ⟨xs, rfl, rfl⟩
    · exact ⟨0, n + 1, q, by omega, hq.folder ▸ .here, .link hq hn hl hf h⟩
    · obtain ⟨k, m, r, hk, hx, hy⟩ := ih (List.append_assoc _ xs ys)
      exact ⟨k + 1, m, r, by omega, .link hq hn hl (.inr rfl) hx, hy⟩
  | stay => contradiction

theorem of_dot (h : Leads t final n q ("." :: parts) p e) : Leads t final n q parts p e := by
  generalize hz : "." :: parts = zs at h
  cases h with
  | here => simp at hz
  | dot _ h => exact (List.cons.inj hz).2 ▸ h
  | up => simp at hz
  | down _ hn _ _ => exact absurd (List.cons.inj hz).1.symm hn.ne_dot
  | link _ hn _ _ _ => exact absurd (List.cons.inj hz).1.symm hn.ne_dot
  | stay _ hn _ _ => exact absurd (List.cons.inj hz).1.symm hn.ne_dot

theorem eq_of_nil (h : Leads t final n q [] p e) : p = q := by
  cases h
  rfl

/-- A dot at the end asks for a folder. -/
theorem eq_folder_of_dot (h : Leads t true n q (xs ++ ["."]) p e) : e = some .folder := by
  obtain ⟨k, m, r, -, hr, hd⟩ := h.split (by simp)
  have hrest := hd.of_dot
  cases hrest
  exact hr.get?_eq.symm

/-- Dots can be left out. -/
theorem filter_dots (h : Leads t true n q xs p e) :
    Leads t true n q (xs.filter (· ≠ ".")) p e := by
  induction xs generalizing n q with
  | nil => exact h
  | cons x xs ih =>
    by_cases hx : x = "."
    · subst hx
      simpa using ih h.of_dot
    · cases xs with
      | nil => simpa [hx] using h
      | cons y ys =>
        have hcut : Leads t true n q ([x] ++ y :: ys) p e := h
        obtain ⟨k, m, r, rfl, hhead, htail⟩ := hcut.split (by simp)
        simpa [List.filter_cons, hx] using hhead.append (ih htail)

/-- The way is the same in another tree with the same open folders and links, if no link has come to
its end. -/
theorem congr (h : Leads t true n q parts p e) (hopen : ∀ r, t.IsOpen r → t'.IsOpen r)
    (hlinks : ∀ r path, t.get? r = some (.link path) → t'.get? r = some (.link path))
    (hp : ∀ path, t'.get? p ≠ some (.link path)) : Leads t' true n q parts p (t'.get? p) := by
  induction h with
  | here => exact .here
  | dot hq _ ih => exact .dot (hopen _ hq) (ih hp)
  | up hq _ ih => exact .up (hopen _ hq) (ih hp)
  | @down _ q _ part parts _ hq hn hl h ih =>
    refine .down (hopen _ hq) hn ?_ (ih hp)
    cases parts with
    | nil =>
      cases h
      exact hp
    | cons part' parts => simp [(hopen _ h.isOpen).folder]
  | link hq hn hl hf _ ih => exact .link (hopen _ hq) hn (hlinks _ _ hl) hf (ih hp)
  | stay => contradiction

end Leads

end Cutover.FileTree
