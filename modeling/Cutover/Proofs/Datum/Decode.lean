import Cutover.Datum.Decode
import Cutover.Proofs.Datum.Json
import Mathlib.Data.List.Nodup
import Std.Data.ExtTreeMap
import Std.Data.ExtTreeSet

/-!
# Writing and reading that fit together

A type is written as data and read back. The laws of its writing and its reading follow from those
of its parts: texts and numbers first, then names of choices, lists and fields of records.
-/
namespace Cutover

variable {α β : Type}

/-- Items are read back if each of them is. -/
theorem mapM_map_eq_some {f : β → Option α} {g : α → β} {l : List α}
    (h : ∀ a ∈ l, f (g a) = some a) : (l.map g).mapM f = some l := by
  induction l with
  | nil => rfl
  | cons a l ih =>
    obtain ⟨ha, hl⟩ := List.forall_mem_cons.mp h
    simp [List.mapM_cons, ha, ih hl]

/-- What holds of each thing that can be read holds of all items that are read. -/
theorem forall_of_mapM {f : β → Option α} {P : α → Prop} (h : ∀ b a, f b = some a → P a)
    {bs : List β} {as : List α} (hm : bs.mapM f = some as) : ∀ a ∈ as, P a := by
  induction bs generalizing as with
  | nil =>
    obtain rfl : [] = as := by simpa using hm
    simp
  | cons b bs ih =>
    simp only [List.mapM_cons, Option.bind_eq_bind, Option.bind_eq_some_iff, Option.pure_def,
      Option.some.injEq] at hm
    obtain ⟨a, ha, as', has, rfl⟩ := hm
    exact List.forall_mem_cons.mpr ⟨h b a ha, ih has⟩

/-- What comes of something that is there comes of the thing itself. -/
theorem bind_of_eq_some {x : Option α} {f : α → Option β} {a : α} {b : β} (hx : x = some a)
    (hf : f a = some b) : x.bind f = some b := by
  rw [hx, Option.bind_some, hf]

/-- A choice is found by its name if no other choice has it. -/
theorem find?_name {all : List α} {name : α → String} (hn : (all.map name).Nodup) {a : α}
    (ha : a ∈ all) : all.find? (name · == name a) = some a := by
  induction all with
  | nil => simp at ha
  | cons b all ih =>
    rw [List.map_cons, List.nodup_cons] at hn
    rcases List.mem_cons.mp ha with rfl | ha
    · simp
    · have hne : name b ≠ name a := fun he => hn.1 (he ▸ List.mem_map_of_mem ha)
      rw [List.find?_cons_of_neg (by simpa using hne), ih hn.2 ha]

section

variable {κ β : Type} [Ord κ] [Std.TransOrd κ]

theorem setOfList_toList [Std.LawfulEqOrd κ] (s : Std.ExtTreeSet κ) :
    Std.ExtTreeSet.ofList s.toList = s := by
  classical
  apply Std.ExtTreeSet.ext_mem
  intro k
  simp [Std.ExtTreeSet.mem_ofList, Std.ExtTreeSet.mem_toList]

theorem mapOfList_toList [Std.LawfulEqOrd κ] (t : Std.ExtTreeMap κ β) :
    Std.ExtTreeMap.ofList t.toList = t := by
  classical
  apply Std.ExtTreeMap.ext_getElem?
  intro k
  cases h : t[k]? with
  | some v =>
    exact Std.ExtTreeMap.getElem?_ofList_of_mem Std.ReflCmp.compare_self
      Std.ExtTreeMap.distinct_keys_toList (Std.ExtTreeMap.mem_toList_iff_getElem?_eq_some.mpr h)
  | none =>
    have hk : k ∉ t := by simpa using h
    exact Std.ExtTreeMap.getElem?_ofList_of_contains_eq_false (by simpa using hk)

/-- All values of a map are among those that went into it. -/
theorem forall_getElem?_insertMany {P : β → Prop} {t : Std.ExtTreeMap κ β} {l : List (κ × β)}
    (ht : ∀ (k : κ) (v : β), t[k]? = some v → P v) (hl : ∀ e ∈ l, P e.2) :
    ∀ (k : κ) (v : β), (t.insertMany l)[k]? = some v → P v := by
  induction l generalizing t with
  | nil => simpa [Std.ExtTreeMap.insertMany_nil] using ht
  | cons e l ih =>
    obtain ⟨k', v'⟩ := e
    obtain ⟨he, hrest⟩ := List.forall_mem_cons.mp hl
    rw [Std.ExtTreeMap.insertMany_cons]
    refine ih (fun k v hv => ?_) hrest
    rw [Std.ExtTreeMap.getElem?_insert] at hv
    split at hv
    · cases hv
      exact he
    · exact ht k v hv

end

namespace Datum

theorem arePlain_iff {ds : List Datum} : arePlain ds ↔ ∀ d ∈ ds, d.isPlain := by
  induction ds with
  | nil => simp [arePlain]
  | cons d ds ih => simp [arePlain, ih]

theorem haveFieldsPlain_iff {fs : List (String × Datum)} :
    haveFieldsPlain fs ↔ ∀ f ∈ fs, f.2.isPlain := by
  induction fs with
  | nil => simp [haveFieldsPlain]
  | cons f fs ih => simp [haveFieldsPlain, ih]

/-- Records and lists are plain if all in them is. -/
theorem isPlain_record {fs : List (String × Datum)} :
    (record fs).isPlain ↔ ∀ f ∈ fs, f.2.isPlain := by
  rw [isPlain, haveFieldsPlain_iff]

theorem isPlain_list {ds : List Datum} : (list ds).isPlain ↔ ∀ d ∈ ds, d.isPlain := by
  rw [isPlain, arePlain_iff]

/-- A record with some of these fields, and none of them twice, is read field by field. -/
theorem fields?_record {conv : Convention} {names : List String} {entries : List (String × Datum)}
    (h : (entries.map (·.1)).Sublist names) (hn : names.Nodup) :
    (record entries).fields? conv names = some ⟨entries, false⟩ := by
  have hcount : ∀ n, entries.countP (·.1 == n) ≤ 1 := by
    intro n
    have hle := List.nodup_iff_count_le_one.mp (hn.sublist h) n
    rwa [List.count, List.countP_map] at hle
  simp [fields?, hcount]

/-- The fields of a record are found by their names. -/
theorem exists_fields? {conv : Convention} {names : List String}
    {entries : List (String × Datum)} (h : (entries.map (·.1)).Sublist names) (hn : names.Nodup) :
    ∃ f, (record entries).fields? conv names = some f ∧
      ∀ name, f.find? name = entries.lookup name :=
  ⟨_, fields?_record h hn, fun _ => rfl⟩

/-- A way to write values and a way to read them that fit together. Values that are not too large
are read as they were written, and none that is too large is ever read. -/
structure Faithful (write : α → Datum) (read : Datum → Option α) (Fits : α → Prop) : Prop where
  plain : ∀ a, (write a).isPlain
  reads : ∀ a, Fits a → read (write a) = some a
  fits : ∀ d a, read d = some a → Fits a

namespace Faithful

variable {write : α → Datum} {read : Datum → Option α} {Fits : α → Prop}

theorem reads_iff (h : Faithful write read Fits) {a : α} : read (write a) = some a ↔ Fits a :=
  ⟨h.fits _ a, h.reads a⟩

theorem text : Faithful .str text? fun _ => True where
  plain _ := rfl
  reads _ _ := rfl
  fits _ _ _ := trivial

theorem bool : Faithful .bool bool? fun _ => True where
  plain _ := rfl
  reads _ _ := rfl
  fits _ _ _ := trivial

theorem nat (largest : Nat) : Faithful .nat (nat? largest) (· ≤ largest) where
  plain _ := rfl
  reads n hn := by simp [Datum.nat, nat?, hn]
  fits d n h := by
    cases d with
    | int i =>
      simp only [nat?, Option.ite_none_right_eq_some, Bool.and_eq_true, decide_eq_true_eq,
        Option.some.injEq] at h
      omega
    | null | bool | real | str | list | record | garbled => simp [nat?] at h

theorem named {all : List α} {name : α → String} (hall : ∀ a, a ∈ all)
    (hn : (all.map name).Nodup) :
    Faithful (fun a => .str (name a)) (choice? .json all name) fun _ => True where
  plain _ := rfl
  reads a _ := find?_name hn (hall a)
  fits _ _ _ := trivial

theorem list (h : Faithful write read Fits) :
    Faithful (fun l => .list (l.map write)) (listOf? read) fun l => ∀ a ∈ l, Fits a where
  plain l := isPlain_list.mpr (by simpa using fun a _ => h.plain a)
  reads l hl := mapM_map_eq_some fun a ha => h.reads a (hl a ha)
  fits d l hr := by
    obtain ⟨items, -, hitems⟩ := Option.bind_eq_some_iff.mp hr
    exact forall_of_mapM h.fits hitems

theorem texts : Faithful .texts (listOf? text?) fun _ => True where
  plain l := text.list.plain l
  reads l _ := text.list.reads l fun _ _ => trivial
  fits _ _ _ := trivial

/-- Null stands for the absence of a value that is never written as null. -/
theorem orNull (h : Faithful write read Fits) (hnull : ∀ a, write a ≠ .null) :
    Faithful (fun o => (o.map write).getD .null) (orNull? read) fun o => ∀ a ∈ o, Fits a where
  plain o := by
    cases o with
    | none => rfl
    | some a => exact h.plain a
  reads o ho := by
    cases o with
    | none => rfl
    | some a =>
      have hread : orNull? read (write a) = (read (write a)).map some := by
        unfold orNull?
        split
        · next hw => exact absurd hw (hnull a)
        · rfl
      simp [hread, h.reads a (ho a rfl)]
  fits d o hr a ha := by
    obtain rfl : o = some a := ha
    cases d with
    | null => simp [orNull?] at hr
    | bool | int | real | str | list | record | garbled =>
      obtain ⟨a', ha', he⟩ := Option.map_eq_some_iff.mp hr
      cases he
      exact h.fits _ _ ha'

end Faithful

end Datum

namespace Fields

open Datum (Faithful)

variable {f : Fields} {name : String} {write : α → Datum} {read : Datum → Option α}
  {Fits : α → Prop}

theorem required_eq (h : Faithful write read Fits) {a : α} (ha : Fits a)
    (hf : f.find? name = some (write a)) : f.required name read = some a := by
  rw [required, hf, Option.bind_some, h.reads a ha]

theorem nullable_eq (h : Faithful write read Fits) (hnull : ∀ a, write a ≠ .null) {o : Option α}
    (ho : ∀ a ∈ o, Fits a) (hf : f.find? name = some ((o.map write).getD .null)) :
    f.nullable name read = some o := by
  rw [nullable, hf]
  exact (h.orNull hnull).reads o ho

/-- A field that is left out where there is no value. -/
theorem orElse_eq (h : Faithful write read Fits) (hnull : ∀ a, write a ≠ .null) {o : Option α}
    (ho : ∀ a ∈ o, Fits a) (hf : f.find? name = o.map write) :
    f.orElse name none (Datum.orNull? read) = some o := by
  cases o with
  | none => simp [orElse, hf]
  | some a =>
    simp only [orElse, hf, Option.map_some]
    exact (h.orNull hnull).reads (some a) ho

theorem fits_of_required (h : Faithful write read Fits) {a : α}
    (hr : f.required name read = some a) : Fits a := by
  obtain ⟨d, -, hd⟩ := Option.bind_eq_some_iff.mp hr
  exact h.fits d a hd

theorem fits_of_nullable (h : Faithful write read Fits) (hnull : ∀ a, write a ≠ .null)
    {o : Option α} (hr : f.nullable name read = some o) : ∀ a ∈ o, Fits a := by
  unfold nullable at hr
  split at hr
  · exact (h.orNull hnull).fits _ o hr
  · split at hr <;> simp at hr
    simp [← hr]

end Fields

end Cutover
