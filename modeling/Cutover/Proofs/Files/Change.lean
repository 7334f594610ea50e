import Cutover.Files.Change
import Cutover.Proofs.Files.Leads

/-!
# What changes of files leave as it is

Making folders takes nothing away: a path that leads to a file still leads to it, whether all
folders could be made or not. Where they could not, the path they were made for leads to no file.
A text that has been written is read again where there is room for it.
-/
namespace Cutover.FileTree

variable {t t' t'' : FileTree} {cwd q p : Place} {path text : String} {parts : List String}
  {e : Option FileEntry}

/-- All that stands in one tree stands in the other one too, and no less may be done with it. -/
structure Extends (t t' : FileTree) : Prop where
  get : ∀ p e, t.get? p = some e → t'.get? p = some e
  permits : ∀ p e a, t.get? p = some e → t.permits p a = true → t'.permits p a = true

namespace Extends

theorem isOpen (h : Extends t t') (hq : t.IsOpen q) : t'.IsOpen q :=
  ⟨h.get q _ hq.folder, h.permits q _ _ hq.folder hq.search⟩

theorem congr {n : Nat} {entry : FileEntry} (h : Extends t t')
    (hk : ∀ target, entry ≠ .link target) (hl : Leads t true n q parts p (some entry)) :
    Leads t' true n q parts p (some entry) := by
  have hp := h.get p _ hl.get?_eq.symm
  rw [← hp]
  exact hl.congr (fun _ => h.isOpen) (fun r _ => h.get r _) (by simpa [hp] using hk)

end Extends

theorem follow_eq_ok_iff :
    t.follow q parts = .ok (p, e) ↔ ∃ n ≤ mostLinks, Leads t true n q parts p e :=
  ⟨leads_of_followUpTo, fun ⟨_, hn, h⟩ => h.followUpTo_eq hn⟩

theorem locate_eq_ok_iff :
    t.locate cwd path = .ok (p, e) ↔
      unfit? path = none ∧ t.follow (origin cwd path) (steps path) = .ok (p, e) := by
  unfold locate
  cases unfit? path <;> simp

theorem unfit?_eq_none_iff :
    unfit? path = none ↔ '\x00' ∉ path.toList ∧ path ≠ "" ∧ path.utf8ByteSize ≤ longestPath := by
  unfold unfit?
  rw [String.contains_char_eq]
  split
  · simp_all
  · split
    · simp_all
    · simp_all

theorem Extends.locate {entry : FileEntry} (h : Extends t t')
    (hk : ∀ target, entry ≠ .link target) (hl : t.locate cwd path = .ok (p, some entry)) :
    t'.locate cwd path = .ok (p, some entry) := by
  rw [locate_eq_ok_iff, follow_eq_ok_iff] at hl ⊢
  obtain ⟨hu, n, hn, hl⟩ := hl
  exact ⟨hu, n, hn, h.congr hk hl⟩

theorem get?_of_locate (hl : t.locate cwd path = .ok (p, e)) : t.get? p = e := by
  rw [locate_eq_ok_iff, follow_eq_ok_iff] at hl
  obtain ⟨-, _, -, hl⟩ := hl
  exact hl.get?_eq.symm

theorem locate_of_find? {entry : FileEntry} (h : t.find? cwd path = some entry) :
    ∃ p, t.locate cwd path = .ok (p, some entry) := by
  unfold find? at h
  split at h
  · next p e hl => exact ⟨p, h ▸ hl⟩
  · cases h

section folders

/-- What making folders does to a tree: it takes nothing away, and no room. -/
structure AddsFolders (t t' : FileTree) : Prop extends Extends t t' where
  room : t'.room = t.room

theorem AddsFolders.refl (t : FileTree) : AddsFolders t t :=
  ⟨⟨fun _ _ h => h, fun _ _ _ _ h => h⟩, rfl⟩

theorem AddsFolders.trans (h : AddsFolders t t') (h' : AddsFolders t' t'') : AddsFolders t t'' where
  get p e he := h'.get p e (h.get p e he)
  permits p e a he ha := h'.permits p e a (h.get p e he) (h.permits p e a he ha)
  room := h'.room.trans h.room

/-- What is put where nothing was hides nothing. -/
theorem extends_set (h : t.get? p = none) (entry : FileEntry) : Extends t (t.set p entry) where
  get q e he := by
    have hp : p ≠ [] := by
      rintro rfl
      simp [get?] at h
    have hq : q ≠ p := by
      rintro rfl
      simp [h] at he
    rw [get?_set_of_new hp h hq, he]
  permits _ _ _ _ ha := permits_set ha p entry

theorem addsFolders_set (h : t.get? p = none) : AddsFolders t (t.set p .folder) :=
  ⟨extends_set h .folder, room_set t p .folder⟩

theorem addsFolders_makeFolder (h : t.makeFolder q parts = .ok t') : AddsFolders t t' := by
  unfold makeFolder at h
  split at h
  · simp at h
  · simp at h
  · next p hp =>
    split at h
    · obtain ⟨n, -, hl⟩ := leads_of_followUpTo hp
      cases h
      exact addsFolders_set hl.get?_eq.symm
    · simp at h

theorem addsFolders_ensureFolder (h : t.ensureFolder q parts = .ok t') : AddsFolders t t' := by
  unfold ensureFolder at h
  split at h
  · next t₁ hm =>
    cases h
    exact addsFolders_makeFolder hm
  · split at h
    · cases h
      exact .refl t
    · simp at h

theorem addsFolders_makeFoldersAbove (above : List String) (t : FileTree) :
    AddsFolders t (t.makeFoldersAbove q above).2 := by
  induction above generalizing t with
  | nil => exact .refl t
  | cons part above ih =>
    rw [makeFoldersAbove]
    split
    · next t₁ h => exact addsFolders_ensureFolder h
    · have hr := ih t
      split
      · next e t₁ h => exact h ▸ hr
      · next t₁ h =>
        rw [h] at hr
        split
        · next t₂ h₂ => exact hr.trans (addsFolders_ensureFolder h₂)
        · exact hr
    · exact .refl t

theorem addsFolders_makeFolders (t : FileTree) (cwd : Place) (path : String) :
    AddsFolders t (t.makeFolders cwd path).2 := by
  unfold makeFolders
  split
  · exact addsFolders_makeFoldersAbove _ t
  · exact addsFolders_makeFoldersAbove _ t
  · exact .refl t

theorem leadsToFolder_of_ensureFolder {e : FileError} (h : t.ensureFolder q parts = .error e) :
    t.leadsToFolder q parts = false := by
  unfold ensureFolder at h
  split at h
  · simp at h
  · split at h
    · simp at h
    · next hf => simpa using hf

theorem leadsToFolder_iff :
    t.leadsToFolder q parts = true ↔
      ∃ n ≤ mostLinks, ∃ p, Leads t true n q parts p (some .folder) := by
  unfold leadsToFolder
  constructor
  · intro h
    split at h
    · next p hp =>
      obtain ⟨n, hn, hl⟩ := follow_eq_ok_iff.mp hp
      exact ⟨n, hn, p, hl⟩
    · simp at h
  · rintro ⟨n, hn, p, hl⟩
    rw [follow_eq_ok_iff.mpr ⟨n, hn, hl⟩]

/-- If not all folders could be made, the last of them is not there afterwards either. -/
theorem leadsToFolder_of_makeFoldersAbove {above : List String} {e : FileError}
    (h : t.makeFoldersAbove q above = (.error e, t')) :
    above ≠ [] ∧ t'.leadsToFolder q above.reverse = false := by
  induction above generalizing t t' e with
  | nil => simp [makeFoldersAbove] at h
  | cons part above ih =>
    refine ⟨by simp, ?_⟩
    rw [makeFoldersAbove] at h
    split at h
    · simp at h
    · next hm =>
      split at h
      · next e₁ t₁ hr =>
        cases h
        obtain ⟨hne, hl⟩ := ih hr
        rw [Bool.eq_false_iff] at hl ⊢
        refine fun hc => hl ?_
        obtain ⟨n, hn, p, hlead⟩ := leadsToFolder_iff.mp hc
        rw [List.reverse_cons] at hlead
        obtain ⟨k, m, r, rfl, hk, -⟩ := hlead.split (by simp)
        exact leadsToFolder_iff.mpr ⟨k, by omega, r, hk⟩
      · next t₁ hr =>
        split at h
        · simp at h
        · next e₂ he =>
          cases h
          exact leadsToFolder_of_ensureFolder he
    · next _ he =>
      cases h
      exact leadsToFolder_of_ensureFolder he

/-- The parts that lead somewhere are those that are followed, without the dots. -/
theorem parts_eq_filter_steps (h : path.toList.getLast? ≠ some '/') :
    Path.parts path = (steps path).filter (· ≠ ".") := by
  simp only [steps, Path.parts, beq_iff_eq, h, if_false, List.filter_map, List.filter_filter]
  congr 1
  apply List.filter_congr
  intro piece _
  have hd : String.ofList piece = String.ofList ['.'] ↔ piece = ['.'] := String.ofList_inj
  change String.ofList piece = "." ↔ piece = ['.'] at hd
  simp [Path.isIdle, hd, Bool.and_comm]

/-- A slash at the end leads to a folder only. -/
theorem folder_of_slash (h : path.toList.getLast? = some '/')
    (hl : t.locate cwd path = .ok (p, e)) : e = some .folder := by
  obtain ⟨-, hf⟩ := locate_eq_ok_iff.mp hl
  obtain ⟨n, -, hl⟩ := follow_eq_ok_iff.mp hf
  rw [steps, h] at hl
  exact hl.eq_folder_of_dot

/-- The folders that something other than a folder stands in are there. -/
theorem leadsToFolder_of_locate (hl : t.locate cwd path = .ok (p, e)) (he : e ≠ some .folder)
    (hne : (Path.parts path).dropLast ≠ []) :
    t.leadsToFolder (origin cwd path) (Path.parts path).dropLast = true := by
  have hslash : path.toList.getLast? ≠ some '/' := fun hs => he (folder_of_slash hs hl)
  obtain ⟨-, hf⟩ := locate_eq_ok_iff.mp hl
  obtain ⟨n, hn, hlead⟩ := follow_eq_ok_iff.mp hf
  rw [parts_eq_filter_steps hslash] at hne ⊢
  rcases List.eq_nil_or_concat (steps path) with hs | ⟨xs, last, hs⟩
  · simp [hs] at hne
  rw [List.concat_eq_append] at hs
  rw [hs] at hlead ⊢
  have hlast : last ≠ "." := by
    rintro rfl
    exact he hlead.eq_folder_of_dot
  obtain ⟨k, m, r, rfl, hk, -⟩ := hlead.split (by simp)
  have hparts : (xs ++ [last]).filter (· ≠ ".") = xs.filter (· ≠ ".") ++ [last] := by
    simp [hlast]
  rw [hparts, List.dropLast_concat]
  exact leadsToFolder_iff.mpr ⟨k, by omega, r, hk.filter_dots⟩

/-- If the folders of a path could not all be made, it leads to no file afterwards, or it did
before. -/
theorem locate_of_makeFolders {e : FileError} {content : ByteArray}
    (h : t.makeFolders cwd path = (.error e, t'))
    (hl : t'.locate cwd path = .ok (p, some (.file content))) :
    t.locate cwd path = .ok (p, some (.file content)) := by
  have hmade : t.makeFoldersAbove (origin cwd path) (Path.parts path).dropLast.reverse ≠
      (.error e, t') := by
    intro hm
    obtain ⟨hne, hno⟩ := leadsToFolder_of_makeFoldersAbove hm
    have hfolder := leadsToFolder_of_locate hl (by simp) (by simpa using hne)
    rw [List.reverse_reverse] at hno
    exact Bool.false_ne_true (hno.symm.trans hfolder)
  unfold makeFolders at h
  split at h
  · exact absurd h hmade
  · exact absurd h hmade
  · cases h
    exact hl

end folders

section texts

theorem fromUTF8?_toUTF8 (text : String) : String.fromUTF8? text.toUTF8 = some text :=
  dif_pos text.isValidUTF8

/-- A text that can be read is that of a file that may be read, or empty. -/
theorem readText_eq_ok (h : t.readText cwd path = .ok text) :
    text = "" ∨ ∃ p content, t.locate cwd path = .ok (p, some (.file content)) ∧
      t.permits p .read = true ∧ String.fromUTF8? content = some text := by
  unfold readText at h
  split at h
  · simp at h
  · simp at h
  · next p e hl =>
    split at h
    case isFalse => simp at h
    case isTrue hread =>
      cases e with
      | file content =>
        simp only [entryText] at h
        split at h
        · next text' ht =>
          cases h
          exact .inr ⟨p, content, hl, hread, ht⟩
        · simp at h
      | device d => cases d <;> simp_all [entryText]
      | folder | program | link => simp [entryText] at h
      | queue | stream => exact .inl (by simpa [entryText] using h.symm)

theorem readText_of_locate {content : ByteArray}
    (hl : t.locate cwd path = .ok (p, some (.file content))) (hread : t.permits p .read = true)
    (hc : String.fromUTF8? content = some text) : t.readText cwd path = .ok text := by
  simp [readText, hl, hread, entryText, hc]

/-- A file put where a path leads is where it leads. -/
theorem locate_set_file (hl : t.locate cwd path = .ok (p, e)) (hf : e ≠ some .folder)
    (hk : ∀ target, e ≠ some (.link target)) (content : ByteArray) :
    (t.set p (.file content)).locate cwd path = .ok (p, some (.file content)) := by
  rw [locate_eq_ok_iff, follow_eq_ok_iff] at hl ⊢
  obtain ⟨hu, n, hn, hl⟩ := hl
  have he := hl.get?_eq
  have hp : p ≠ [] := by
    rintro rfl
    exact hf (he.trans (by simp [get?]))
  have hs := t.get?_set_self p (.file content) hp
  -- neither a folder nor a link on the way is what is changed at its end
  have hsame : ∀ r, t.get? r ≠ t.get? p → (t.set p (.file content)).get? r = t.get? r :=
    fun r hne => t.get?_set_of_get?_ne _ (fun h => hne (h ▸ rfl)) hp hne
  refine ⟨hu, n, hn, ?_⟩
  rw [← hs]
  refine hl.congr (fun r hr => ⟨?_, permits_set hr.search _ _⟩) (fun r target hr => ?_)
    (by simp [hs])
  · exact (hsame r fun h => hf (he.trans (h.symm.trans hr.folder))).trans hr.folder
  · exact (hsame r fun h => hk target (he.trans (h.symm.trans hr))).trans hr

/-- What can be read after a text was written is this text, unless there is nothing behind what was
written to. -/
theorem of_readText_writeText (hroom : t.room = none)
    (hw : t.writeText cwd path text = (.ok (), t')) {text' : String}
    (hr : t'.readText cwd path = .ok text') : text' = text ∨ text' = "" := by
  have hfile : ∀ p e, t.locate cwd path = .ok (p, e) → e ≠ some .folder →
      (∀ target, e ≠ some (.link target)) → t.set p (.file text.toUTF8) = t' →
        text' = text ∨ text' = "" := by
    rintro p e hl hf hk rfl
    rcases readText_eq_ok hr with h | ⟨q, content, hl', -, hc⟩
    · exact .inr h
    rw [locate_set_file hl hf hk] at hl'
    cases hl'
    rw [fromUTF8?_toUTF8] at hc
    exact .inl (Option.some.inj hc).symm
  have hidle : ∀ p e, t.locate cwd path = .ok (p, some e) → entryText e = .ok "" → t = t' →
      text' = text ∨ text' = "" := by
    rintro p e hl he rfl
    rw [readText, hl] at hr
    dsimp only at hr
    split at hr
    · rw [he] at hr
      exact .inr (Except.ok.inj hr).symm
    · cases hr
  unfold writeText write at hw
  split at hw
  · simp at hw
  split at hw
  · simp at hw
  split at hw
  · simp at hw
  next p e hl =>
    cases e with
    | none =>
      simp only [writeAt, fill, hroom, Option.all_none, if_true] at hw
      split at hw
      · exact hfile p _ hl (by simp) (by simp) (congrArg Prod.snd hw)
      · simp at hw
    | some e =>
      cases hp : t.permits p .write with
      | false => cases e <;> simp [writeAt, hp] at hw
      | true =>
        cases e with
        | folder | link => simp [writeAt] at hw
        | file | program =>
          exact hfile p _ hl (by simp) (by simp) (by simpa [writeAt, hp, fill, hroom] using hw)
        | device d =>
          cases d with
          | terminal => simp [writeAt, hp] at hw
          | null | zero => exact hidle p _ hl rfl (by simpa [writeAt, hp] using hw)
          | full => exact hidle p _ hl rfl (by simpa [writeAt, hp] using congrArg Prod.snd hw)
        | queue | stream => exact hidle p _ hl rfl (by simpa [writeAt, hp] using hw)

/-- What is written to a file that can be read can be read there again. -/
theorem readText_of_writeText {content : ByteArray} (hroom : t.room = none)
    (hl : t.locate cwd path = .ok (p, some (.file content))) (hread : t.permits p .read = true)
    (hw : t.writeText cwd path text = (.ok (), t')) : t'.readText cwd path = .ok text := by
  have hslash : path.toList.getLast? ≠ some '/' := fun hs => by simpa using folder_of_slash hs hl
  have hset := locate_set_file hl (by simp) (by simp) text.toUTF8
  simp only [writeText, write, (locate_eq_ok_iff.mp hl).1, beq_iff_eq, hslash, if_false, hl,
    writeAt, fill, hroom, Option.all_none, if_true] at hw
  split at hw
  · simp at hw
  · obtain rfl := congrArg Prod.snd hw
    exact readText_of_locate hset (permits_set hread _ _) (fromUTF8?_toUTF8 text)

/-- Where no text can be written all is as it was, and no text stands there but in a file that may
only be read. -/
theorem of_writeText_error {fault : FileError} (hroom : t.room = none)
    (hw : t.writeText cwd path text = (.error fault, t')) :
    t' = t ∧ ∀ text', t.readText cwd path = .ok text' → text' = "" ∨
      ∃ p content, t.locate cwd path = .ok (p, some (.file content)) ∧
        t.permits p .read = true ∧ t.permits p .write = false := by
  have hsame : t' = t := by
    unfold writeText write at hw
    split at hw
    · cases hw; rfl
    split at hw
    · cases hw; rfl
    split at hw
    · cases hw; rfl
    next p e hl =>
      cases e with
      | none =>
        simp only [writeAt, fill, hroom, Option.all_none, if_true] at hw
        split at hw <;> simp_all
      | some e =>
        cases hp : t.permits p .write with
        | false => cases e <;> simp_all [writeAt]
        | true =>
          cases e with
          | file | program => simp [writeAt, hp, fill, hroom] at hw
          | device d => cases d <;> simp_all [writeAt]
          | _ => simp_all [writeAt]
  refine ⟨hsame, fun text' hr => ?_⟩
  rcases readText_eq_ok hr with he | ⟨p, content, hl, hread, -⟩
  · exact .inl he
  refine .inr ⟨p, content, hl, hread, Bool.eq_false_iff.mpr fun hwrite => ?_⟩
  have hslash : path.toList.getLast? ≠ some '/' := fun hs => by simpa using folder_of_slash hs hl
  simp [writeText, write, (locate_eq_ok_iff.mp hl).1, hslash, hl, writeAt, hwrite, fill, hroom]
    at hw

end texts

end Cutover.FileTree
