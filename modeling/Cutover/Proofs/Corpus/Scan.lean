import Cutover.Corpus.Scan
import Cutover.Proofs.Corpus.Counting
import Cutover.Proofs.Files.Listing
import Cutover.Proofs.Text.ByteOrder

/-!
# What a scan finds

A scan of a folder with files and folders in it finds each file with the name of a script once, in
the order of the bytes of the names. The report has an entry for each of them, which depends on its
path and content alone.
-/
namespace Cutover

open Text (Increasing)

variable {name folder : String} {t t' : FileTree} {cwd p : Place}

/-- Whether a name is made of a stem, a dot and the ending sql, in whatever letter case. -/
def IsScript (name : String) : Prop :=
  ∃ stem ending : String, stem ≠ "" ∧ name = stem ++ "." ++ ending ∧ Text.asciiLower ending = "sql"

theorem isScriptName_iff : isScriptName name = true ↔ IsScript name := by
  have hextension : isScriptName name = true ↔
      ∃ ending, Path.extension? name = some ending ∧ Text.asciiLower ending = "sql" := by
    rw [isScriptName]
    cases Path.extension? name <;> simp
  simp only [hextension, Path.extension?_eq_some_iff, IsScript]
  constructor
  · rintro ⟨ending, ⟨-, stem, hstem, hname⟩, hsql⟩
    exact ⟨stem, ending, hstem, hname, hsql⟩
  · rintro ⟨stem, ending, hstem, hname, hsql⟩
    refine ⟨ending, ⟨fun hdot => ?_, stem, hstem, hname⟩, hsql⟩
    have hlower : '.'.toLower ∈ (Text.asciiLower ending).toList := by
      rw [Text.asciiLower, String.toList_ofList]
      exact List.mem_map_of_mem hdot
    rw [hsql] at hlower
    exact absurd hlower (by decide)

/-- What a report has for the file at a place: the analysis of its text, or that of an empty script
with the reason why there is no text. -/
inductive IsEntry (extractor : TableExtractor) (tools : ToolNames) (t : FileTree) (p : Place)
    (path : String) : Analysis → Prop
  | text {content : ByteArray} {sql : String} (hfile : t.get? p = some (.file content))
      (hread : t.permits p .read = true) (hsql : String.fromUTF8? content = some sql) :
      IsEntry extractor tools t p path (.ofScript extractor tools path sql)
  | garbled {content : ByteArray} (hfile : t.get? p = some (.file content))
      (hread : t.permits p .read = true) (hsql : String.fromUTF8? content = none) :
      IsEntry extractor tools t p path { Analysis.ofScript extractor tools path "" with
        error := some "stream did not contain valid UTF-8" }
  | denied {content : ByteArray} (hfile : t.get? p = some (.file content))
      (hread : t.permits p .read = false) :
      IsEntry extractor tools t p path { Analysis.ofScript extractor tools path "" with
        error := some "Permission denied (os error 13)" }

section IsEntry

variable {extractor : TableExtractor} {tools : ToolNames} {path : String} {a a' : Analysis}

theorem isEntry_ofFile (extractor : TableExtractor) (tools : ToolNames) {content : ByteArray}
    (hl : t.locate cwd path = .ok (p, some (.file content)))
    (hfile : t.get? p = some (.file content)) :
    IsEntry extractor tools t p path (Analysis.ofFile extractor tools t cwd path) := by
  unfold Analysis.ofFile
  cases hread : t.permits p .read with
  | false =>
    have hdenied : t.readText cwd path = .error .denied := by
      simp [FileTree.readText, hl, hread]
    rw [hdenied]
    exact .denied hfile hread
  | true =>
    cases hsql : String.fromUTF8? content with
    | none =>
      have hgarbled : t.readText cwd path = .error .notText := by
        simp [FileTree.readText, hl, hread, FileTree.entryText, hsql]
      rw [hgarbled]
      exact .garbled hfile hread hsql
    | some sql =>
      rw [FileTree.readText_of_locate hl hread hsql]
      exact .text hfile hread hsql

/-- The entry of a file is the same in trees with the same file, under the same permissions. -/
theorem IsEntry.unique (h : IsEntry extractor tools t p path a)
    (h' : IsEntry extractor tools t' p path a') (hsame : t'.get? p = t.get? p)
    (hpermits : t'.permits p .read = t.permits p .read) : a' = a := by
  cases h <;> cases h' <;> simp_all

end IsEntry

theorem increasing_scriptNames (h : t.Sound) : Increasing (scriptNames t cwd folder p) :=
  .mergeSort ((h.nodup_names p).filter _)

theorem mem_scriptNames :
    name ∈ scriptNames t cwd folder p ↔
      name ∈ t.names p ∧ IsScript name ∧ t.isFile cwd (Path.join folder name) := by
  rw [scriptNames, List.mem_mergeSort, List.mem_filter, Bool.and_eq_true, isScriptName_iff]

namespace FileTree

/-- Whether a path leads to the folder at `p` of a sound tree, which may be listed and searched,
with files and folders in it only. -/
structure IsCorpus (t : FileTree) (cwd : Place) (folder : String) (p : Place) : Prop where
  sound : t.Sound
  located : t.locate cwd folder = .ok (p, some .folder)
  list : t.permits p .read = true
  search : t.permits p .search = true
  plain : ∀ name e, t.get? (p ++ [name]) = some e → e = .folder ∨ ∃ content, e = .file content

/-- Whether the second tree has one more file than the first one. -/
structure AddsFile (t t' : FileTree) (q : Place) (content : ByteArray) : Prop where
  free : t.get? q = none
  added : t'.get? q = some (.file content)
  same : ∀ r, r ≠ q → t'.get? r = t.get? r
  permits : ∀ r a, r ≠ q → t'.permits r a = t.permits r a

theorem AddsFile.extends {q : Place} {content : ByteArray} (h : AddsFile t t' q content) :
    Extends t t' := by
  have hne : ∀ r e, t.get? r = some e → r ≠ q := by
    rintro r e he rfl
    simp [h.free] at he
  exact ⟨fun r e he => (h.same r (hne r e he)).trans he,
    fun r e a he ha => (h.permits r a (hne r e he)).trans ha⟩

theorem addsFile_set {q : Place} (hg : t.guarded = false) (hq : q ≠ []) (h : t.get? q = none)
    (content : ByteArray) : AddsFile t (t.set q (.file content)) q content where
  free := h
  added := t.get?_set_self q _ hq
  same r hr := get?_set_of_new hq h hr _
  permits r a _ := by simp [FileTree.permits, guarded_set, hg]

namespace IsCorpus

/-- A tree in which there are more files is still one with the corpus. -/
theorem of_extends (h : t.IsCorpus cwd folder p) (hs : t'.Sound) (he : Extends t t')
    (hplain : ∀ name e, t'.get? (p ++ [name]) = some e →
      t.get? (p ++ [name]) = some e ∨ e = .folder ∨ ∃ content, e = .file content) :
    t'.IsCorpus cwd folder p where
  sound := hs
  located := he.locate (by simp) h.located
  list := he.permits p _ _ (get?_of_locate h.located) h.list
  search := he.permits p _ _ (get?_of_locate h.located) h.search
  plain name e hname := (hplain name e hname).elim (h.plain name e) id

theorem of_set (h : t.IsCorpus cwd folder p) (hn : IsEntryName name)
    (hfree : t.get? (p ++ [name]) = none) {e : FileEntry}
    (he : e = .folder ∨ ∃ content, e = .file content) :
    (t.set (p ++ [name]) e).IsCorpus cwd folder p := by
  refine h.of_extends (h.sound.set hn e) (extends_set hfree e) fun n e' he' => ?_
  by_cases hname : n = name
  · rw [hname, t.get?_set_self _ e (by simp), Option.some.injEq] at he'
    exact .inr (he' ▸ he)
  · rw [get?_set_of_new (by simp) hfree (by simpa using hname)] at he'
    exact .inl he'

theorem of_addsFile (h : t.IsCorpus cwd folder p) (hs : t'.Sound) {content : ByteArray}
    (ha : AddsFile t t' (p ++ [name]) content) : t'.IsCorpus cwd folder p := by
  refine h.of_extends hs ha.extends fun n e he => ?_
  by_cases hn : n = name
  · rw [hn, ha.added] at he
    exact .inr (.inr ⟨content, (Option.some.inj he).symm⟩)
  · rw [ha.same _ (by simpa using hn)] at he
    exact .inl he

variable (h : t.IsCorpus cwd folder p)
include h

theorem locate_join (hn : t.get? (p ++ [name]) ≠ none)
    (hfit : (Path.join folder name).utf8ByteSize ≤ longestPath) :
    t.locate cwd (Path.join folder name) = .ok (p ++ [name], t.get? (p ++ [name])) := by
  refine FileTree.locate_join h.located h.search (h.sound.isEntryName hn) hfit
    fun target hlink => ?_
  rcases h.plain name _ hlink with he | ⟨content, he⟩ <;> cases he

/-- A file in the folder is found by its path, unless that is too long to be followed. -/
theorem isFile_join (hn : t.get? (p ++ [name]) ≠ none) :
    t.isFile cwd (Path.join folder name) ↔
      (Path.join folder name).utf8ByteSize ≤ longestPath ∧
        ∃ content, t.get? (p ++ [name]) = some (.file content) := by
  constructor
  · intro hfile
    have hfit : (Path.join folder name).utf8ByteSize ≤ longestPath := by
      by_contra hlong
      have hunfit : unfit? (Path.join folder name) ≠ none := fun hu =>
        hlong (unfit?_eq_none_iff.mp hu).2.2
      obtain ⟨e, he⟩ := Option.ne_none_iff_exists'.mp hunfit
      simp [isFile, find?, locate, he] at hfile
    simp only [isFile, find?, h.locate_join hn hfit] at hfile
    refine ⟨hfit, ?_⟩
    split at hfile
    · next content hc => exact ⟨content, hc⟩
    · cases hfile
  · rintro ⟨hfit, content, hc⟩
    simp only [isFile, find?, h.locate_join hn hfit, hc]

theorem mem_scriptNames_iff :
    name ∈ scriptNames t cwd folder p ↔
      IsScript name ∧ (Path.join folder name).utf8ByteSize ≤ longestPath ∧
        ∃ content, t.get? (p ++ [name]) = some (.file content) := by
  rw [mem_scriptNames, mem_names_iff]
  constructor
  · rintro ⟨hn, hscript, hfile⟩
    exact ⟨hscript, (h.isFile_join hn).mp hfile⟩
  · rintro ⟨hscript, hfit, content, hc⟩
    have hn : t.get? (p ++ [name]) ≠ none := by simp [hc]
    exact ⟨hn, hscript, (h.isFile_join hn).mpr ⟨hfit, content, hc⟩⟩

/-- The entry of a script is that of the file. -/
theorem isEntry (extractor : TableExtractor) (tools : ToolNames)
    (hn : name ∈ scriptNames t cwd folder p) :
    IsEntry extractor tools t (p ++ [name]) (Path.join folder name)
      (Analysis.ofFile extractor tools t cwd (Path.join folder name)) := by
  obtain ⟨-, hfit, content, hc⟩ := h.mem_scriptNames_iff.mp hn
  have hl := h.locate_join (by simp [hc]) hfit
  rw [hc] at hl
  exact isEntry_ofFile extractor tools hl hc

theorem scripts_eq :
    scripts t cwd folder = .ok ((scriptNames t cwd folder p).map (Path.join folder)) := by
  simp only [scripts, h.located, h.list, if_true]

theorem ofFolder_eq (extractor : TableExtractor) (tools : ToolNames) :
    Report.ofFolder extractor tools t cwd folder =
      .ok (Report.ofAnalyses tools ((scriptNames t cwd folder p).map fun n =>
        Analysis.ofFile extractor tools t cwd (Path.join folder n))) := by
  rw [Report.ofFolder, h.scripts_eq, Except.map, List.map_map]
  rfl

/-- What a scan finds is the same whatever the order in which the folder lists its names. -/
theorem scan_congr (hs : t'.Sound) (hsame : ∀ q, t'.get? q = t.get? q)
    (hpermits : ∀ q a, t'.permits q a = t.permits q a) (extractor : TableExtractor)
    (tools : ToolNames) :
    scripts t' cwd folder = scripts t cwd folder ∧
      Report.ofFolder extractor tools t' cwd folder =
        Report.ofFolder extractor tools t cwd folder := by
  have h' : t'.IsCorpus cwd folder p :=
    h.of_extends hs ⟨fun q e he => (hsame q).trans he, fun q e a _ ha => (hpermits q a).trans ha⟩
      fun n e he => .inl ((hsame _).symm.trans he)
  have hnames : scriptNames t' cwd folder p = scriptNames t cwd folder p := by
    refine (increasing_scriptNames hs).eq_of_mem_iff (increasing_scriptNames h.sound) fun n => ?_
    rw [h.mem_scriptNames_iff, h'.mem_scriptNames_iff, hsame]
  have hentries := List.map_congr_left fun n hn =>
    (h.isEntry extractor tools hn).unique (h'.isEntry extractor tools (hnames ▸ hn)) (hsame _)
      (hpermits _ _)
  rw [h.scripts_eq, h'.scripts_eq, h.ofFolder_eq, h'.ofFolder_eq, hnames, hentries]
  exact ⟨rfl, rfl⟩

/-- With one more script there is one more name. -/
theorem scriptNames_insert (h' : t'.IsCorpus cwd folder p) {content : ByteArray}
    (ha : AddsFile t t' (p ++ [name]) content) (hn : name ∈ scriptNames t' cwd folder p) :
    ∃ before after, scriptNames t cwd folder p = before ++ after ∧
      scriptNames t' cwd folder p = before ++ name :: after := by
  refine (increasing_scriptNames h.sound).exists_insert (increasing_scriptNames h'.sound) ?_
    fun n => ?_
  · rw [h.mem_scriptNames_iff, ha.free]
    simp
  · by_cases hname : n = name
    · simpa [hname] using hn
    · rw [h.mem_scriptNames_iff, h'.mem_scriptNames_iff, ha.same _ (by simpa using hname)]
      simp [hname]

/-- With one more script there is one more entry, and all others are as they were. -/
theorem ofFolder_insert (hs : t'.Sound) {content : ByteArray}
    (ha : AddsFile t t' (p ++ [name]) content) (hscript : IsScript name)
    (hfit : (Path.join folder name).utf8ByteSize ≤ longestPath) (extractor : TableExtractor)
    (tools : ToolNames) :
    ∃ before a after, IsEntry extractor tools t' (p ++ [name]) (Path.join folder name) a ∧
      Report.ofFolder extractor tools t cwd folder =
        .ok (Report.ofAnalyses tools (before ++ after)) ∧
      Report.ofFolder extractor tools t' cwd folder =
        .ok (Report.ofAnalyses tools (before ++ a :: after)) := by
  have h' := h.of_addsFile hs ha
  have hn : name ∈ scriptNames t' cwd folder p :=
    h'.mem_scriptNames_iff.mpr ⟨hscript, hfit, content, ha.added⟩
  obtain ⟨before, after, hold, hnew⟩ := h.scriptNames_insert h' ha hn
  -- under all other names the same stands in both trees
  have hentry : ∀ n ∈ before ++ after,
      Analysis.ofFile extractor tools t' cwd (Path.join folder n) =
        Analysis.ofFile extractor tools t cwd (Path.join folder n) := by
    intro n hmem
    rw [← hold] at hmem
    have hne : p ++ [n] ≠ p ++ [name] := by
      rintro heq
      obtain ⟨-, -, content', hc⟩ := h.mem_scriptNames_iff.mp hmem
      simp [heq, ha.free] at hc
    have hmem' : n ∈ scriptNames t' cwd folder p := by
      rw [hold] at hmem
      rw [hnew]
      simp only [List.mem_append, List.mem_cons] at hmem ⊢
      exact hmem.imp id .inr
    exact (h.isEntry extractor tools hmem).unique (h'.isEntry extractor tools hmem')
      (ha.same _ hne) (ha.permits _ _ hne)
  let entry (n : String) := Analysis.ofFile extractor tools t cwd (Path.join folder n)
  refine ⟨before.map entry, _, after.map entry, h'.isEntry extractor tools hn, ?_, ?_⟩
  · rw [h.ofFolder_eq, hold, List.map_append]
  · rw [h'.ofFolder_eq, hnew, List.map_append, List.map_cons,
      List.map_congr_left fun n hn => hentry n (List.mem_append_left _ hn),
      List.map_congr_left fun n hn => hentry n (List.mem_append_right _ hn)]

end IsCorpus

end FileTree

/-- A scan of a folder that may be listed and searched, with files and folders in it. The scripts
are the files with names of scripts whose paths are not too long to be followed, each once and in
the order of the bytes of their names. The report has one entry for each script in that order: the
analysis of its text or, where there is none to be read, that of an empty script with an error. Its
summary counts these entries. The order in which the folder lists its names does not matter. One
script more, and so one less, leaves all other entries as they are and changes the summary by its
own entry. -/
theorem Report.ofFolder_exact (h : t.IsCorpus cwd folder p) (extractor : TableExtractor)
    (tools : ToolNames) :
    ∃ (names : List String) (report : Report),
      scripts t cwd folder = .ok (names.map (Path.join folder)) ∧
      ofFolder extractor tools t cwd folder = .ok report ∧
      (names.map Text.bytes).Pairwise (· < ·) ∧
      (∀ n, n ∈ names ↔ IsScript n ∧ (Path.join folder n).utf8ByteSize ≤ 4095 ∧
        ∃ content, t.get? (p ++ [n]) = some (.file content)) ∧
      List.Forall₂ (fun n a => IsEntry extractor tools t (p ++ [n]) (Path.join folder n) a)
        names report.files ∧
      report.summary.Counts tools report.files ∧
      (∀ t', t'.Sound → (∀ q, t'.get? q = t.get? q) →
        (∀ q action, t'.permits q action = t.permits q action) →
          scripts t' cwd folder = scripts t cwd folder ∧
            ofFolder extractor tools t' cwd folder = .ok report) ∧
      ∀ t' n content, t'.Sound → FileTree.AddsFile t t' (p ++ [n]) content → IsScript n →
        (Path.join folder n).utf8ByteSize ≤ 4095 →
        ∃ before a after summary,
          IsEntry extractor tools t' (p ++ [n]) (Path.join folder n) a ∧
          report.files = before ++ after ∧
          ofFolder extractor tools t' cwd folder = .ok ⟨before ++ a :: after, summary⟩ ∧
          Summary.OneMore tools a report.summary summary := by
  refine ⟨scriptNames t cwd folder p, _, h.scripts_eq, h.ofFolder_eq extractor tools,
    (increasing_scriptNames h.sound).bytes, fun n => h.mem_scriptNames_iff, ?_,
    Summary.counts_ofAnalyses _ _, ?_, ?_⟩
  · rw [ofAnalyses, List.forall₂_map_right_iff, List.forall₂_same]
    exact fun n hn => h.isEntry extractor tools hn
  · intro t' hs hsame hpermits
    rw [← h.ofFolder_eq]
    exact h.scan_congr hs hsame hpermits extractor tools
  · intro t' n content hs ha hscript hfit
    obtain ⟨before, a, after, hentry, hold, hnew⟩ :=
      h.ofFolder_insert hs ha hscript hfit extractor tools
    have hreport := Except.ok.inj ((h.ofFolder_eq extractor tools).symm.trans hold)
    refine ⟨before, a, after, _, hentry, congrArg Report.files hreport, hnew, ?_⟩
    rw [hreport]
    simp only [Report.ofAnalyses, Summary.ofAnalyses_insert]
    exact Summary.oneMore_add _ _ _

namespace FileTree

/-- A tree with one folder. -/
def oneFolder : FileTree := FileTree.empty.set ["d"] .folder

theorem isCorpus_oneFolder : oneFolder.IsCorpus [] "d" ["d"] := by
  have hname : IsEntryName "d" :=
    ⟨⟨by decide, by decide, by decide⟩, by decide, by decide, by decide⟩
  have hlead : oneFolder.Leads true 0 [] ["d"] ["d"] (some .folder) :=
    .down ⟨rfl, rfl⟩ hname.toIsName (fun target h => by cases h) .here
  refine ⟨Sound.empty.set (q := []) hname .folder, ?_, rfl, rfl, fun n e he => ?_⟩
  · exact locate_eq_ok_iff.mpr ⟨unfit?_eq_none_iff.mpr (by decide),
      follow_eq_ok_iff.mpr ⟨0, by decide, hlead⟩⟩
  · have hnames : oneFolder.names ["d"] = [] := rfl
    have hn := mem_names_iff.mpr (Option.ne_none_iff_exists'.mpr ⟨e, he⟩)
    simp [hnames] at hn

end FileTree

/-- A file that holds no text is put beside a script and a folder with the name of one. -/
theorem Report.ofFolder_exact_garbled :
    let t := (FileTree.oneFolder.set ["d", "n.sql"] .folder).set ["d", "b.sql"]
      (.file "SELECT 1 FROM x".toUTF8)
    let t' := t.set ["d", "a.SQL"] (.file ⟨#[0xff]⟩)
    let readable := Analysis.ofScript .byKeyword {} "d/b.sql" "SELECT 1 FROM x"
    let garbled := { Analysis.ofScript .byKeyword {} "d/a.SQL" "" with
      error := some "stream did not contain valid UTF-8" }
    t.IsCorpus [] "d" ["d"] ∧ FileTree.AddsFile t t' ["d", "a.SQL"] ⟨#[0xff]⟩ ∧
      ∃ report before after summary, ofFolder .byKeyword {} t [] "d" = .ok report ∧
        report.files = [readable] ∧ [readable] = before ++ after ∧
        ofFolder .byKeyword {} t' [] "d" = .ok ⟨before ++ garbled :: after, summary⟩ ∧
        summary.totalFiles = 2 ∧ summary.unreadableFiles = 1 := by
  intro t t' readable garbled
  have hentry : ∀ n ∈ ["n.sql", "b.sql", "a.SQL"], FileTree.IsEntryName n := by
    intro n hn
    simp only [List.mem_cons, List.not_mem_nil, or_false] at hn
    rcases hn with rfl | rfl | rfl <;>
      exact ⟨⟨by decide, by decide, by decide⟩, by decide, by decide, by decide⟩
  have hc : t.IsCorpus [] "d" ["d"] :=
    (FileTree.isCorpus_oneFolder.of_set (hentry "n.sql" (by simp)) rfl (.inl rfl)).of_set
      (hentry "b.sql" (by simp)) rfl (.inr ⟨_, rfl⟩)
  have hadds : FileTree.AddsFile t t' ["d", "a.SQL"] ⟨#[0xff]⟩ :=
    FileTree.addsFile_set rfl (by simp) rfl _
  have hscript : t.get? ["d", "b.sql"] = some (.file "SELECT 1 FROM x".toUTF8) := rfl
  obtain ⟨names, report, -, hreport, hincreasing, hmem, hfiles, hcounts, -, hadd⟩ :=
    ofFolder_exact hc .byKeyword {}
  obtain rfl : names = ["b.sql"] := by
    have hne : ∀ {l m : List UInt8}, l < m → l ≠ m := by
      rintro l _ hlt rfl
      exact List.lt_irrefl l hlt
    have hnodup : names.Nodup := .of_map _ (hincreasing.imp hne)
    refine List.perm_singleton.mp ((List.perm_ext_iff_of_nodup hnodup (by simp)).mpr fun n => ?_)
    rw [hmem, List.mem_singleton]
    constructor
    · rintro ⟨-, -, content, hfile⟩
      have hnames : t.names ["d"] = ["b.sql", "n.sql"] := rfl
      have hn := FileTree.mem_names_iff.mpr (Option.ne_none_iff_exists'.mpr ⟨_, hfile⟩)
      simp only [hnames, List.mem_cons, List.not_mem_nil, or_false] at hn
      rcases hn with rfl | rfl
      · rfl
      · cases hfile
    · rintro rfl
      exact ⟨⟨"b", "sql", by decide, by decide, by decide⟩, by decide, _, hscript⟩
  have hreadable : report.files = [readable] := by
    obtain ⟨a, files, hentry, hnil, hone⟩ := List.forall₂_cons_left_iff.mp hfiles
    rw [hone, List.forall₂_nil_left_iff.mp hnil]
    exact congrArg (· :: []) ((IsEntry.text hscript rfl (FileTree.fromUTF8?_toUTF8 _)).unique hentry
      rfl rfl)
  obtain ⟨before, a, after, summary, hentry', hold, hnew, hmore⟩ := hadd t' "a.SQL" _
    (hc.sound.set (q := ["d"]) (hentry "a.SQL" (by simp)) _) hadds
    ⟨"a", "SQL", by decide, by decide, by decide⟩ (by decide)
  obtain rfl : garbled = a := hentry'.unique (.garbled hadds.added rfl (by decide)) rfl rfl
  refine ⟨hc, hadds, report, before, after, summary, hreport, hreadable, hreadable ▸ hold, hnew,
    ?_, ?_⟩
  · rw [hmore.totalFiles, hcounts.totalFiles, hreadable]
    rfl
  · rw [hmore.unreadableFiles, hcounts.unreadableFiles, hreadable]
    rfl

/-- The path of a folder with so many dots behind it. -/
def Path.dotted (folder : String) : Nat → String
  | 0 => folder
  | n + 1 => Path.join (dotted folder n) "."

/-- With dots behind it the path of a folder is longer and leads to the folder still. -/
theorem FileTree.IsCorpus.dotted (h : t.IsCorpus cwd folder p)
    (hslash : folder.toList.getLast? ≠ some '/') {n : Nat}
    (hfit : folder.utf8ByteSize + 2 * n ≤ longestPath) :
    t.IsCorpus cwd (Path.dotted folder n) p ∧
      ∀ name, (Path.join (Path.dotted folder n) name).utf8ByteSize =
        folder.utf8ByteSize + 2 * n + 1 + name.utf8ByteSize := by
  suffices t.IsCorpus cwd (Path.dotted folder n) p ∧
      (Path.dotted folder n).toList.getLast? ≠ some '/' ∧
      (Path.dotted folder n).utf8ByteSize = folder.utf8ByteSize + 2 * n by
    obtain ⟨hc, hlast, hsize⟩ := this
    have hne := (unfit?_eq_none_iff.mp (locate_eq_ok_iff.mp hc.located).1).2.1
    refine ⟨hc, fun name => ?_⟩
    rw [Path.join_of_noSlash hne hlast, String.utf8ByteSize_append, String.utf8ByteSize_append,
      hsize]
    rfl
  induction n with
  | zero => exact ⟨h, hslash, rfl⟩
  | succ n ih =>
    obtain ⟨hc, hlast, hsize⟩ := ih (by omega)
    have hne := (unfit?_eq_none_iff.mp (locate_eq_ok_iff.mp hc.located).1).2.1
    have hjoin := Path.join_of_noSlash hne hlast "."
    have hlonger : (Path.join (Path.dotted folder n) ".").utf8ByteSize =
        folder.utf8ByteSize + 2 * (n + 1) := by
      rw [hjoin, String.utf8ByteSize_append, String.utf8ByteSize_append, hsize]
      rfl
    refine ⟨⟨hc.sound, locate_join_dot hc.located hc.search (hlonger ▸ hfit), hc.list, hc.search,
      hc.plain⟩, ?_, hlonger⟩
    rw [Path.dotted, hjoin]
    simp

/-- Of two scripts in one folder, both of which may be read, the one with the longer name is left
out of the report where the path of the folder is as long as a path can be. -/
theorem Report.ofFolder_omits_long_path :
    let t := (FileTree.oneFolder.set ["d", "a.sql"] (.file "SELECT 1".toUTF8)).set ["d", "ab.sql"]
      (.file "SELECT 2".toUTF8)
    let folder := Path.dotted "d" 2044
    t.IsCorpus [] folder ["d"] ∧ IsScript "ab.sql" ∧
      t.get? ["d", "ab.sql"] = some (.file "SELECT 2".toUTF8) ∧
      t.permits ["d", "ab.sql"] .read = true ∧
      ∃ names : List String, scripts t [] folder = .ok (names.map (Path.join folder)) ∧
        "a.sql" ∈ names ∧ "ab.sql" ∉ names := by
  intro t folder
  have hentry : ∀ n ∈ ["a.sql", "ab.sql"], FileTree.IsEntryName n := by
    intro n hn
    simp only [List.mem_cons, List.not_mem_nil, or_false] at hn
    rcases hn with rfl | rfl <;>
      exact ⟨⟨by decide, by decide, by decide⟩, by decide, by decide, by decide⟩
  have hshort : t.IsCorpus [] "d" ["d"] :=
    (FileTree.isCorpus_oneFolder.of_set (hentry "a.sql" (by simp)) rfl (.inr ⟨_, rfl⟩)).of_set
      (hentry "ab.sql" (by simp)) rfl (.inr ⟨_, rfl⟩)
  obtain ⟨hc, hsize⟩ := hshort.dotted (n := 2044) (by decide) (by decide)
  refine ⟨hc, ⟨"ab", "sql", by decide, by decide, by decide⟩, rfl, rfl, _, hc.scripts_eq, ?_, ?_⟩
  · refine hc.mem_scriptNames_iff.mpr ⟨⟨"a", "sql", by decide, by decide, by decide⟩, ?_, _, rfl⟩
    rw [hsize]
    decide
  · intro hmem
    obtain ⟨-, hfit, -⟩ := hc.mem_scriptNames_iff.mp hmem
    rw [hsize] at hfit
    exact absurd hfit (by decide)

end Cutover
