import Cutover.Proofs.Files.Change
import Cutover.Proofs.Files.Path

/-!
# Writing a file again

Where a file stands its folders are there, so making them again changes nothing, and a file that may
be read and written can be written over as often as one likes.
-/
namespace Cutover

namespace Path

/-- The texts between the slashes make up the path again. -/
theorem intercalate_split (cs : List Char) : ['/'].intercalate (split cs) = cs := by
  induction cs with
  | nil => rfl
  | cons c cs ih =>
    obtain ⟨part, parts, hs⟩ := List.exists_cons_of_ne_nil (split_ne_nil cs)
    rw [hs] at ih
    rw [split, hs]
    split
    · next hc =>
      rw [List.intercalate_cons_cons, ih, hc]
      rfl
    · cases parts with
      | nil => simpa using ih
      | cons part' parts =>
        rw [List.intercalate_cons_cons] at ih ⊢
        rw [← ih]
        rfl

theorem intercalate_prefix {α : Type} (sep : List α) {ps qs : List (List α)} (h : ps <+: qs) :
    sep.intercalate ps <+: sep.intercalate qs := by
  obtain ⟨rest, rfl⟩ := h
  induction ps with
  | nil => exact List.nil_prefix
  | cons p ps ih =>
    cases ps with
    | nil =>
      cases rest with
      | nil => simp
      | cons q rest => simp [List.intercalate_cons_cons]
    | cons p' ps =>
      simp only [List.cons_append, List.intercalate_cons_cons] at ih ⊢
      exact (List.prefix_append_right_inj _).mpr ih

/-- A path begins with the text of its folder. -/
theorem exists_eq_folder_append (path : String) : ∃ rest, path = folder path ++ rest := by
  have hsuffix := (List.dropWhile_suffix isIdle).trans ((List.drop_suffix 1 _).trans
    (List.dropWhile_suffix isIdle (l := (split path.toList).reverse)))
  have hprefix := List.reverse_prefix.mpr hsuffix
  rw [List.reverse_reverse] at hprefix
  obtain ⟨rest, hrest⟩ := intercalate_prefix ['/'] hprefix
  rw [intercalate_split] at hrest
  refine ⟨String.ofList rest, String.toList_inj.mp ?_⟩
  rw [String.toList_append, String.toList_ofList, folder, String.toList_ofList, hrest]

end Path

namespace FileTree

variable {t : FileTree} {cwd q p : Place} {path : String} {parts : List String}
  {e : Option FileEntry}

/-- The beginning of a path is no worse as a path than the whole, but for being empty. -/
theorem unfit?_of_append {front rest : String} (h : unfit? (front ++ rest) = none) :
    unfit? front = none ∨ unfit? front = some .notFound := by
  obtain ⟨hnull, -, hshort⟩ := unfit?_eq_none_iff.mp h
  rw [String.toList_append, List.mem_append, not_or] at hnull
  rw [String.utf8ByteSize_append] at hshort
  by_cases hfront : front = ""
  · exact .inr (by simp [hfront, unfit?, String.contains_char_eq])
  · exact .inl (unfit?_eq_none_iff.mpr ⟨hnull.1, hfront, by omega⟩)

/-- Where nothing is the way does not end with a link, so it is the same if such a link is
followed. -/
theorem Leads.final_of_none {n : Nat} (h : Leads t false n q parts p none) :
    Leads t true n q parts p none := by
  generalize he : (none : Option FileEntry) = e at h
  induction h with
  | here => exact .here
  | dot hq _ ih => exact .dot hq (ih he)
  | up hq _ ih => exact .up hq (ih he)
  | down hq hn hl _ ih => exact .down hq hn hl (ih he)
  | link hq hn hl _ _ ih => exact .link hq hn hl (.inr rfl) (ih he)
  | stay => contradiction

/-- A folder that is there need not be made. -/
theorem ensureFolder_of_leadsToFolder (h : t.leadsToFolder q parts = true) :
    t.ensureFolder q parts = .ok t := by
  obtain ⟨n, hn, r, hlead⟩ := leadsToFolder_iff.mp h
  unfold ensureFolder
  split
  · next t₁ hm =>
    unfold makeFolder at hm
    split at hm
    · simp at hm
    · simp at hm
    · next r' hr' =>
      clear hm
      obtain ⟨m, hm', hnone⟩ := leads_of_followUpTo hr'
      have hfollow := hlead.followUpTo_eq hn
      rw [hnone.final_of_none.followUpTo_eq hm'] at hfollow
      simp at hfollow
  · simp [h]

theorem makeFoldersAbove_of_leadsToFolder {above : List String}
    (h : above ≠ [] → t.leadsToFolder q above.reverse = true) :
    t.makeFoldersAbove q above = (.ok (), t) := by
  cases above with
  | nil => rfl
  | cons part above => rw [makeFoldersAbove, ensureFolder_of_leadsToFolder (h (by simp))]

/-- The folders that something other than a folder stands in need not be made. -/
theorem makeFolders_of_locate (hl : t.locate cwd path = .ok (p, e)) (he : e ≠ some .folder) :
    t.makeFolders cwd path = (.ok (), t) := by
  have hmade : t.makeFoldersAbove (origin cwd path) (Path.parts path).dropLast.reverse =
      (.ok (), t) := by
    refine makeFoldersAbove_of_leadsToFolder fun hne => ?_
    rw [List.reverse_reverse]
    exact leadsToFolder_of_locate hl he (by simpa using hne)
  obtain ⟨rest, hrest⟩ := Path.exists_eq_folder_append path
  have hfit := (locate_eq_ok_iff.mp hl).1
  rw [hrest] at hfit
  unfold makeFolders
  rcases unfit?_of_append hfit with hu | hu
  · rw [hu]
    exact hmade
  · rw [hu]
    exact hmade

/-- A name in the working folder leads to its place there, unless a link has it. -/
theorem locate_name {name : String} (hfit : unfit? name = none)
    (habsolute : Path.isAbsolute name = false) (hsteps : steps name = [name]) (hn : IsName name)
    (hcwd : t.IsOpen cwd) (hlink : ∀ target, t.get? (cwd ++ [name]) ≠ some (.link target)) :
    t.locate cwd name = .ok (cwd ++ [name], t.get? (cwd ++ [name])) := by
  have hlead : Leads t true 0 cwd [name] (cwd ++ [name]) (t.get? (cwd ++ [name])) :=
    .down hcwd hn hlink .here
  have horigin : origin cwd name = cwd := by simp [origin, habsolute]
  refine locate_eq_ok_iff.mpr ⟨hfit, follow_eq_ok_iff.mpr ?_⟩
  rw [horigin, hsteps]
  exact ⟨0, Nat.zero_le _, hlead⟩

/-- What stands at a place takes any content, and again after that: nothing in a folder that may be
written to, or a file that may be read and written. -/
inductive Accepts (t : FileTree) (p : Place) : Option FileEntry → Prop
  | new (hroom : t.room = none) (hwrite : t.permits p.dropLast .write = true) : Accepts t p none
  | old (hroom : t.room = none) (hread : t.permits p .read = true)
      (hwrite : t.permits p .write = true) (content : ByteArray) :
      Accepts t p (some (.file content))

namespace Accepts

theorem ne_folder (h : t.Accepts p e) : e ≠ some .folder := by
  cases h <;> simp

theorem ne_link (h : t.Accepts p e) (target : String) : e ≠ some (.link target) := by
  cases h <;> simp

/-- A text is written, and what stands there then takes any content again. -/
theorem writeAt (h : t.Accepts p e) (he : e = t.get? p) (hp : p ≠ []) (content : ByteArray) :
    t.writeAt p content e = (.ok (), t.set p (.file content)) ∧
      (t.set p (.file content)).Accepts p (some (.file content)) := by
  have hroom := room_set t p (.file content)
  cases h with
  | new hr hwrite =>
    have husual : ∀ a : Permission, a ≠ .search → a.isIn (FileEntry.file content).usualMode := by
      intro a
      cases a <;> simp [Permission.isIn, Permission.bit, FileEntry.usualMode]
    exact ⟨by simp [FileTree.writeAt, fill, hwrite, hr],
      .old (hroom.trans hr) (permits_set_of_new hp he.symm (husual .read (by simp)))
        (permits_set_of_new hp he.symm (husual .write (by simp))) content⟩
  | old hr hread hwrite =>
    exact ⟨by simp [FileTree.writeAt, fill, hwrite, hr],
      .old (hroom.trans hr) (permits_set hread _ _) (permits_set hwrite _ _) content⟩

end Accepts

/-- Whether a file can be written at a path once its folders are made, and read and written again
after that. -/
def CanHold (t : FileTree) (cwd : Place) (path : String) : Prop :=
  ∃ t' p e, t.makeFolders cwd path = (.ok (), t') ∧ t'.locate cwd path = .ok (p, e) ∧
    t'.Accepts p e

theorem canHold_of_locate (hl : t.locate cwd path = .ok (p, e)) (ha : t.Accepts p e) :
    t.CanHold cwd path :=
  ⟨t, p, e, makeFolders_of_locate hl ha.ne_folder, hl, ha⟩

/-- What stands at a path at which a file can be written is such a file. -/
theorem CanHold.accepts {entry : FileEntry} (h : t.CanHold cwd path)
    (hl : t.locate cwd path = .ok (p, some entry)) : t.Accepts p (some entry) := by
  obtain ⟨t', p', e', hmade, hl', ha⟩ := h
  by_cases hfolder : entry = .folder
  · subst hfolder
    have hkept := (addsFolders_makeFolders t cwd path).locate (by simp) hl
    rw [hmade, hl'] at hkept
    cases hkept
    exact absurd rfl ha.ne_folder
  · rw [makeFolders_of_locate hl (by simpa using hfolder)] at hmade
    cases hmade
    rw [hl] at hl'
    cases hl'
    exact ha

/-- A text can be written where a file can be, and it stands there then, to be read and to be
written over. -/
theorem writeText_of_locate (text : String) (hl : t.locate cwd path = .ok (p, e))
    (ha : t.Accepts p e) :
    let t' := t.set p (.file text.toUTF8)
    t.writeText cwd path text = (.ok (), t') ∧ t'.find? cwd path = some (.file text.toUTF8) ∧
      t'.CanHold cwd path ∧ t'.readText cwd path = .ok text := by
  have hfit := (locate_eq_ok_iff.mp hl).1
  have hslash : path.toList.getLast? ≠ some '/' := fun hs => ha.ne_folder (folder_of_slash hs hl)
  have hset := locate_set_file hl ha.ne_folder ha.ne_link text.toUTF8
  obtain ⟨n, -, hlead⟩ := follow_eq_ok_iff.mp (locate_eq_ok_iff.mp hl).2
  have hp : p ≠ [] := by
    rintro rfl
    exact ha.ne_folder (hlead.get?_eq.trans (by simp [get?]))
  obtain ⟨hwritten, hagain⟩ := ha.writeAt hlead.get?_eq hp text.toUTF8
  refine ⟨?_, ?_, canHold_of_locate hset hagain, ?_⟩
  · simp only [writeText, write, hfit, beq_iff_eq, hslash, if_false, hl, hwritten]
  · simp only [find?, hset]
  · cases hagain with
    | old _ hread => exact readText_of_locate hset hread (fromUTF8?_toUTF8 text)

end FileTree

end Cutover
