import Cutover.Proofs.Datum.Decode
import Cutover.Proofs.Files.Rewriting
import Cutover.Rollout.StateFile

/-!
# What state files tell

A set of domains is read back from the state file that was written for it. Where there is room for
it, marking a domain adds it to what the file tells or leaves that as it is, also where folders are
made for a file that cannot be written in the end.
-/
namespace Cutover

/-- The value of the one field of a record is found in a record that has the field once, or in a
list of one item. -/
theorem Datum.field_iff {d v : Datum} {name : String} :
    (∃ f, d.fields? .json [name] = some f ∧ f.find? name = some v) ↔
      d = .list [v] ∨ ∃ entries, d = .record entries ∧ entries.countP (·.1 == name) = 1 ∧
        entries.lookup name = some v := by
  have hpos : ∀ entries : List (String × Datum), entries.lookup name = some v →
      0 < entries.countP (·.1 == name) := by
    intro entries h
    obtain ⟨before, after, rfl, -⟩ := List.lookup_eq_some_iff.mp h
    simp only [List.countP_append, List.countP_cons_of_pos, BEq.rfl]
    omega
  cases d with
  | record entries =>
    simp only [Datum.fields?, List.all_cons, List.all_nil, Bool.and_true, decide_eq_true_eq,
      Option.ite_none_right_eq_some, Fields.find?]
    constructor
    · rintro ⟨f, ⟨hcount, hf⟩, hv⟩
      cases hf
      exact .inr ⟨entries, rfl, le_antisymm hcount (hpos entries hv), hv⟩
    · rintro (h | ⟨_, h, hcount, hv⟩)
      · cases h
      · cases h
        exact ⟨_, ⟨hcount.le, rfl⟩, hv⟩
  | list items =>
    cases items with
    | nil => simp [Datum.fields?, Fields.find?]
    | cons item items =>
      cases items with
      | nil => simp [Datum.fields?, Convention.json, Fields.find?]
      | cons => simp [Datum.fields?, Convention.json]
  | null | bool | int | real | str | garbled => simp [Datum.fields?]

namespace StateFile

variable {t t' : FileTree} {cwd : Place} {path text : String} {s : DomainSet} {d : Domain}

/-- The name of a state file leads to its place in an open root, unless a link has it. -/
theorem locate_name (hroot : t.IsOpen [])
    (hlink : ∀ target, t.get? ["state.json"] ≠ some (.link target)) :
    t.locate [] "state.json" = .ok (["state.json"], t.get? ["state.json"]) :=
  FileTree.locate_name (FileTree.unfit?_eq_none_iff.mpr (by decide)) (by decide) (by decide)
    ⟨by decide, by decide, by decide⟩ hroot hlink

theorem locate_empty : FileTree.empty.locate [] "state.json" = .ok (["state.json"], none) := by
  have hfree : FileTree.empty.get? ["state.json"] = none := by decide
  simpa [hfree] using locate_name (t := .empty) ⟨rfl, rfl⟩ (by simp [hfree])

/-- A set is read back from its own text. -/
theorem decode?_encode (s : DomainSet) : decode? (encode s) = some s := by
  have hnames : (Domain.all.map Domain.name).Nodup := by decide
  have hdomains := (Datum.Faithful.named Domain.mem_all hnames).list
  have hp : (Datum.record [("migrated", .list (s.toList.map fun d => .str d.name))]).isPlain :=
    Datum.isPlain_record.mpr (by simpa using hdomains.plain s.toList)
  have hlist := hdomains.reads s.toList fun _ _ => trivial
  simp [decode?, encode, Json.read?_render hp, Datum.fields?, Fields.required, Fields.find?, hlist,
    setOfList_toList]

/-- Whether a text is that of a state file that tells this set: the JSON of a record that has the
field once, or of a list in place of such a record, and the value of the field is a list of names of
domains. -/
def Spells (text : String) (s : DomainSet) : Prop :=
  ∃ d items ds, Json.read? text = some d ∧
    (d = .list [.list items] ∨ ∃ entries, d = .record entries ∧
      entries.countP (·.1 == "migrated") = 1 ∧ entries.lookup "migrated" = some (.list items)) ∧
    items.mapM (Datum.choice? .json Domain.all Domain.name) = some ds ∧
    s = Std.ExtTreeSet.ofList ds

theorem decode?_eq_some_iff : decode? text = some s ↔ Spells text s := by
  have hlist : ∀ {v : Datum} {ds : List Domain},
      Datum.listOf? (Datum.choice? .json Domain.all Domain.name) v = some ds ↔
        ∃ items, v = .list items ∧
          items.mapM (Datum.choice? .json Domain.all Domain.name) = some ds := by
    intro v ds
    cases v <;> simp [Datum.listOf?, Datum.items?]
  simp only [decode?, Spells, Fields.required, Option.bind_eq_bind, Option.bind_eq_some_iff,
    hlist, Option.pure_def, Option.some.injEq]
  constructor
  · rintro ⟨d, hd, f, hf, ds, ⟨v, hv, items, rfl, hds⟩, rfl⟩
    exact ⟨d, items, ds, hd, Datum.field_iff.mp ⟨f, hf, hv⟩, hds, rfl⟩
  · rintro ⟨d, items, ds, hd, hfield, hds, rfl⟩
    obtain ⟨f, hf, hv⟩ := Datum.field_iff.mpr hfield
    exact ⟨d, hd, f, hf, ds, ⟨_, hv, items, rfl, hds⟩, rfl⟩

theorem decode?_empty : decode? "" = none := by decide

/-- The domains that the state file tells. A file that cannot be read tells none. -/
def recorded (t : FileTree) (cwd : Place) (path : String) : DomainSet :=
  match migrated t cwd path with
  | .ok s => s
  | .error _ => ∅

theorem recorded_of_migrated (h : migrated t cwd path = .ok s) : recorded t cwd path = s := by
  simp [recorded, h]

theorem contains_of_readText (h : t.readText cwd path = .ok text) : t.contains cwd path = true := by
  unfold FileTree.readText at h
  split at h
  · simp at h
  · simp at h
  · next p e hl => simp [FileTree.contains, FileTree.find?, hl]

theorem migrated_of_readText (h : t.readText cwd path = .ok text) (hd : decode? text = some s) :
    migrated t cwd path = .ok s := by
  simp [migrated, contains_of_readText h, h, hd]

/-- The domains told by what stands where a state file is looked for: none where nothing is. -/
def told? : Option FileEntry → Option DomainSet
  | none => some ∅
  | some (.file content) => (String.fromUTF8? content).bind decode?
  | some _ => none

/-- Whether what stands where a state file is looked for tells this set. -/
inductive Tells : Option FileEntry → DomainSet → Prop
  | missing : Tells none ∅
  | spelled {content : ByteArray} {text' : String} {known : DomainSet}
      (hc : String.fromUTF8? content = some text') (h : Spells text' known) :
      Tells (some (.file content)) known

theorem told?_eq_some_iff {e : Option FileEntry} : told? e = some s ↔ Tells e s := by
  constructor
  · intro h
    cases e with
    | none =>
      cases h
      exact .missing
    | some e =>
      cases e with
      | file content =>
        obtain ⟨text, hc, hd⟩ := Option.bind_eq_some_iff.mp h
        exact .spelled hc (decode?_eq_some_iff.mp hd)
      | _ => cases h
  · rintro (_ | ⟨hc, hs⟩)
    · rfl
    · rw [told?, hc, Option.bind_some, decode?_eq_some_iff]
      exact hs

theorem told?_encode (s : DomainSet) : told? (some (.file (encode s).toUTF8)) = some s := by
  rw [told?, FileTree.fromUTF8?_toUTF8, Option.bind_some, decode?_encode]

/-- What comes of reading what stands where a state file is looked for. -/
def reading : Option FileEntry → Except Error DomainSet
  | none => .ok ∅
  | some e =>
    match FileTree.entryText e with
    | .error fault => .error (.file fault.message)
    | .ok text =>
      match decode? text with
      | some s => .ok s
      | none => .error .json

/-- Reading a state file that can be held depends on what stands at its path and on nothing else. -/
theorem migrated_eq_reading (h : t.CanHold cwd path) :
    migrated t cwd path = reading (t.find? cwd path) := by
  cases hf : t.find? cwd path with
  | none => simp [migrated, FileTree.contains, hf, reading]
  | some e =>
    obtain ⟨p, hl⟩ := FileTree.locate_of_find? hf
    cases h.accepts hl with
    | old _ hread =>
      simp only [migrated, FileTree.contains, hf, FileTree.readText, hl, hread, reading]
      rfl

theorem reading_of_told? {e : Option FileEntry} (h : told? e = some s) : reading e = .ok s := by
  cases e with
  | none =>
    cases h
    rfl
  | some e =>
    cases e with
    | file content =>
      obtain ⟨text, hc, hd⟩ := Option.bind_eq_some_iff.mp h
      simp [reading, FileTree.entryText, hc, hd]
    | _ => cases h

theorem told?_of_reading {e : Option FileEntry} (h : reading e = .ok s) : told? e = some s := by
  cases e with
  | none => simpa [reading, told?] using h
  | some e =>
    cases e with
    | file content =>
      cases hc : String.fromUTF8? content with
      | none => simp [reading, FileTree.entryText, hc] at h
      | some text =>
        cases hd : decode? text <;> simp_all [reading, FileTree.entryText, told?]
    | device d => cases d <;> simp [reading, FileTree.entryText, decode?_empty] at h
    | folder | program | link | queue | stream =>
      simp [reading, FileTree.entryText, decode?_empty] at h

/-- Where there is no text of a state file, nothing is recorded. -/
theorem recorded_of_not_readText
    (h : ∀ text s, t.readText cwd path = .ok text → decode? text ≠ some s) :
    recorded t cwd path = ∅ := by
  unfold recorded migrated
  split
  · next s' hm =>
    split at hm
    · split at hm
      · simp at hm
      · next text ht =>
        split at hm
        · next s hs => exact absurd hs (h text s ht)
        · simp at hm
    · simpa using hm.symm
  · rfl

/-- What can be read is the text of a file, or there is nothing to be read. -/
theorem of_migrated (h : migrated t cwd path = .ok s) :
    s = ∅ ∧ t.contains cwd path = false ∨
      ∃ p content text, t.locate cwd path = .ok (p, some (.file content)) ∧
        t.permits p .read = true ∧ String.fromUTF8? content = some text ∧
        decode? text = some s := by
  unfold migrated at h
  split at h
  · right
    split at h
    · simp at h
    · next text ht =>
      split at h
      · next s' hs =>
        cases h
        rcases FileTree.readText_eq_ok ht with rfl | ⟨p, content, hl, hread, hc⟩
        · simp [decode?_empty] at hs
        · exact ⟨p, content, text, hl, hread, hc, hs⟩
      · simp at h
  · next hc =>
    cases h
    exact .inl ⟨rfl, by simpa using hc⟩

/-- What is recorded stays recorded while folders are made, if the path led to it before. If it
led nowhere, nothing is recorded as long as no text of a state file can be read. -/
theorem recorded_makeFolders (h : migrated t cwd path = .ok s)
    (he : t.contains cwd path = false → ∀ text s',
      (t.makeFolders cwd path).2.readText cwd path = .ok text → decode? text ≠ some s') :
    recorded (t.makeFolders cwd path).2 cwd path = s := by
  have hextends := FileTree.addsFolders_makeFolders t cwd path
  rcases of_migrated h with ⟨rfl, hc⟩ | ⟨p, content, text, hl, hread, hc, hs⟩
  · exact recorded_of_not_readText (he hc)
  · have htext := FileTree.readText_of_locate (hextends.locate (by simp) hl)
      (hextends.permits p _ _ (FileTree.get?_of_locate hl) hread) hc
    exact recorded_of_migrated (migrated_of_readText htext hs)

/-- A tree with room for all that is written. Where nothing stands at the path of the state file
before its folders are made, and a file does afterwards, as the path goes up again from one of them,
this file may be written if it may be read. -/
structure Unhindered (cwd : Place) (path : String) (t : FileTree) : Prop where
  roomy : t.room = none
  writable : t.contains cwd path = false → ∀ p content,
    let made := (t.makeFolders cwd path).2
    made.locate cwd path = .ok (p, some (.file content)) →
      made.permits p .read = true → made.permits p .write = true

/-- Where nothing is in the way, marking a domain adds it to what is recorded, or leaves that as it
is. -/
theorem recorded_mark (hfree : Unhindered cwd path t) (d : Domain) :
    recorded (mark t cwd path d).2 cwd path = recorded t cwd path ∨
      recorded (mark t cwd path d).2 cwd path = (recorded t cwd path).insert d := by
  unfold mark
  split
  · exact .inl rfl
  next s hs =>
  rw [recorded_of_migrated hs]
  have hmade := recorded_makeFolders hs
  have hextends := FileTree.addsFolders_makeFolders t cwd path
  split
  · next e t₁ hm =>
    rw [hm] at hmade
    refine .inl (hmade fun hc text s' ht hd => ?_)
    rcases FileTree.readText_eq_ok ht with rfl | ⟨p, content, hl, -⟩
    · simp [decode?_empty] at hd
    · have hl' := FileTree.locate_of_makeFolders hm hl
      simp [FileTree.contains, FileTree.find?, hl'] at hc
  next t₁ hm =>
  have hwritable := hfree.writable
  simp only [hm] at hmade hextends hwritable
  have hroom₁ : t₁.room = none := hextends.room.trans hfree.roomy
  cases hw : t₁.writeText cwd path (encode (s.insert d)) with
  | mk written t₂ =>
    cases written with
    | error e =>
      obtain ⟨rfl, hnone⟩ := FileTree.of_writeText_error hroom₁ hw
      refine .inl (hmade fun hc text s' ht hd => ?_)
      rcases hnone text ht with rfl | ⟨p, content, hl, hread, hwrite⟩
      · simp [decode?_empty] at hd
      · simp [hwritable hc p content hl hread] at hwrite
    | ok =>
      rcases of_migrated hs with ⟨rfl, -⟩ | ⟨p, content, text, hl, hread, -⟩
      · -- nothing was recorded, so nothing can be lost
        cases hr : t₂.readText cwd path with
        | error e =>
          exact .inl (recorded_of_not_readText fun text s' ht => by simp [hr] at ht)
        | ok text =>
          rcases FileTree.of_readText_writeText hroom₁ hw hr with rfl | rfl
          · exact .inr (recorded_of_migrated (migrated_of_readText hr (decode?_encode _)))
          · refine .inl (recorded_of_not_readText fun text' s' ht hd => ?_)
            obtain rfl : "" = text' := by simpa [hr] using ht
            simp [decode?_empty] at hd
      · have hr := FileTree.readText_of_writeText hroom₁ (hextends.locate (by simp) hl)
          (hextends.permits p _ _ (FileTree.get?_of_locate hl) hread) hw
        exact .inr (recorded_of_migrated (migrated_of_readText hr (decode?_encode _)))

end StateFile

end Cutover
