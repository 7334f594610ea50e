import Cutover.Corpus.Scan
import Cutover.Proofs.Corpus.Summary
import Cutover.Proofs.Datum.Decode
import Cutover.Proofs.Files.Rewriting

/-!
# Reports are read as they were written

The text of a report tells all of it. It is read back if its numbers are not larger than a report
can hold, and no report with larger numbers is ever read.
-/
namespace Cutover

open Datum (Faithful)

theorem LoadKind.mem_all (k : LoadKind) : k ∈ all := by cases k <;> decide

theorem LoadKind.faithful :
    Faithful (fun k => .str (name k)) (Datum.named? all name) fun _ => True :=
  .named mem_all (by decide)

theorem TimeUnit.mem_all (u : TimeUnit) : u ∈ all := by cases u <;> decide

theorem TimeUnit.faithful :
    Faithful (fun u => .str (name u)) (Datum.named? all name) fun _ => True :=
  .named mem_all (by decide)

theorem Level.mem_all (l : Level) : l ∈ all := by cases l <;> decide

theorem Level.faithful :
    Faithful (fun l => .str (name l)) (Datum.named? all name) fun _ => True :=
  .named mem_all (by decide)

theorem Layer.faithful :
    Faithful (fun l => .str (name l)) (Datum.named? all name) fun _ => True :=
  .named mem_all (by decide)

theorem Domain.faithful :
    Faithful (fun d => .str (name d)) (Datum.named? all name) fun _ => True :=
  .named mem_all (by decide)

theorem Outcome.faithful :
    Faithful (fun o => .str (name o)) (Datum.named? all name) fun _ => True :=
  .named mem_all (by decide)

/-- How a script loads is told whole, with or without a kind and a recommendation. -/
theorem Incremental.faithful : Faithful toDatum ofDatum? fun _ => True where
  plain i := by
    cases hk : i.kind <;> cases hr : i.recommendation <;>
      simp [toDatum, Datum.fieldOf, Datum.isPlain, Datum.haveFieldsPlain, hk, hr]
  reads i _ := by
    obtain ⟨detected, kind, recommendation⟩ := i
    cases kind <;> cases recommendation <;>
      simp [toDatum, ofDatum?, Datum.fieldOf, Datum.fields?, Fields.required, Fields.orElse,
        Fields.find?, List.lookup_cons, Datum.bool?, Datum.text?, Datum.orNull?,
        LoadKind.faithful.reads]
  fits _ _ _ := trivial

/-- A word is never too large. -/
theorem UInt32.faithful : Faithful Datum.word Datum.word? fun _ => True where
  plain _ := rfl
  reads w _ := by
    have hle : w.toNat ≤ 4294967295 := Nat.le_of_lt_succ w.toNat_lt
    rw [Datum.word, Datum.word?, (Faithful.nat _).reads _ hle, Option.map_some, UInt32.ofNat_toNat]
  fits _ _ _ := trivial

theorem Complexity.faithful : Faithful toDatum ofDatum? fun _ => True where
  plain c := by simp [toDatum, Datum.isPlain, Datum.haveFieldsPlain, UInt32.faithful.plain]
  reads c _ := by
    have hfields : c.toDatum.fields? .json
        ["subqueries", "joins", "aggregations", "case_statements", "lines", "score", "level"] =
          some ⟨_, false⟩ := Datum.fields?_record (.refl _) (by decide)
    simp [ofDatum?, hfields, Fields.required, Fields.find?, List.lookup_cons,
      Level.faithful.reads c.level, UInt32.faithful.reads]
  fits _ _ _ := trivial

/-- A time range with an interval that is not too long for a report. -/
def TimeRange.Fits (t : TimeRange) : Prop := t.interval ≤ largestTotal

theorem TimeRange.faithful : Faithful toDatum ofDatum? Fits where
  plain t := by simp [toDatum, Datum.isPlain, Datum.haveFieldsPlain, Datum.nat]
  reads t ht := by
    have hfields : t.toDatum.fields? .json ["interval", "unit", "recommendation"] =
        some ⟨_, false⟩ := Datum.fields?_record (.refl _) (by decide)
    simp [ofDatum?, hfields, Fields.required, Fields.find?, List.lookup_cons, Datum.text?,
      (Faithful.nat largestTotal).reads _ ht, TimeUnit.faithful.reads]
  fits d t h := by
    simp only [ofDatum?, Option.bind_eq_bind, Option.bind_eq_some_iff, Option.pure_def,
      Option.some.injEq] at h
    obtain ⟨f, -, _, hinterval, _, -, _, -, rfl⟩ := h
    exact Fields.fits_of_required (.nat largestTotal) hinterval

theorem Dialect.faithful : Faithful toDatum ofDatum? fun _ => True where
  plain d := by
    simp [toDatum, Datum.isPlain, Datum.haveFieldsPlain, Faithful.texts.plain]
  reads d _ := by
    have hfields : d.toDatum.fields? .json ["mysql", "postgres", "generic"] =
        some ⟨_, false⟩ := Datum.fields?_record (.refl _) (by decide)
    simp [ofDatum?, hfields, Fields.required, Fields.find?, List.lookup_cons, Datum.bool?,
      Faithful.texts.reads]
  fits _ _ _ := trivial

theorem NameSet.faithful : Faithful toDatum ofDatum? fun _ => True where
  plain s := Faithful.texts.plain s.toList
  reads s _ := by
    rw [toDatum, ofDatum?, Faithful.texts.reads _ trivial, Option.map_some, setOfList_toList]
  fits _ _ _ := trivial

theorem Lineage.faithful : Faithful toDatum ofDatum? fun _ => True where
  plain l :=
    Datum.isPlain_record.mpr (List.forall_mem_map.mpr fun e _ => NameSet.faithful.plain e.2)
  reads l _ := by
    have hentries := mapM_map_eq_some (l := l.toList) (g := fun e => (e.1, NameSet.toDatum e.2))
      (f := fun e => (NameSet.ofDatum? e.2).map fun s => (e.1, s))
      fun e _ => by simp [NameSet.faithful.reads]
    simp only [toDatum, ofDatum?, Datum.entries?, Option.bind_eq_bind, Option.bind_some, hentries,
      Option.pure_def, mapOfList_toList]
  fits _ _ _ := trivial

theorem Tally.faithful {κ : Type} [Ord κ] [Std.TransOrd κ] [Std.LawfulEqOrd κ] {name : κ → String}
    {key : String → Option κ} (hkey : ∀ k, key (name k) = some k) :
    Faithful (toDatum name) (ofDatum? key) (AtMost largestTotal) where
  plain t := Datum.isPlain_record.mpr (List.forall_mem_map.mpr fun _ _ => rfl)
  reads t ht := by
    have hentries := mapM_map_eq_some (l := t.toList) (g := fun e => (name e.1, Datum.nat e.2))
      (f := fun e => (key e.1).bind fun k => (e.2.nat? largestTotal).bind fun n => some (k, n))
      fun e he => by
        have hn := ht e.1 e.2 (Std.ExtTreeMap.mem_toList_iff_getElem?_eq_some.mp he)
        simp [hkey, (Faithful.nat largestTotal).reads _ hn]
    simp only [toDatum, ofDatum?, Datum.entries?, Option.bind_eq_bind, Option.bind_some,
      Option.pure_def, hentries, mapOfList_toList]
  fits d t h := by
    simp only [ofDatum?, Option.bind_eq_bind, Option.bind_eq_some_iff, Option.pure_def,
      Option.some.injEq] at h
    obtain ⟨entries, -, items, hitems, rfl⟩ := h
    have hle : ∀ e ∈ items, e.2 ≤ largestTotal := forall_of_mapM (fun e item he => by
      simp only [Option.bind_eq_some_iff, Option.some.injEq] at he
      obtain ⟨k, -, n, hn, rfl⟩ := he
      exact (Faithful.nat largestTotal).fits _ _ hn) hitems
    rw [AtMost, Std.ExtTreeMap.ofList_eq_insertMany_empty]
    exact forall_getElem?_insertMany (by simp) hle

theorem Summary.faithful : Faithful toDatum ofDatum? (AtMost largestTotal) := by
  have htotal := Faithful.nat largestTotal
  have houtcomes : Faithful (Tally.toDatum Outcome.name)
      (Tally.ofDatum? fun s => Outcome.all.find? (·.name == s)) (Tally.AtMost largestTotal) :=
    Tally.faithful fun o => find?_name (by decide) o.mem_all
  have htools : Faithful (Tally.toDatum id) (Tally.ofDatum? some) (Tally.AtMost largestTotal) :=
    Tally.faithful fun _ => rfl
  have hdomains : Faithful (Tally.toDatum Domain.name)
      (Tally.ofDatum? fun s => Domain.all.find? (·.name == s)) (Tally.AtMost largestTotal) :=
    Tally.faithful fun d => find?_name (by decide) d.mem_all
  have hlayers : Faithful (Tally.toDatum Layer.name)
      (Tally.ofDatum? fun s => Layer.all.find? (·.name == s)) (Tally.AtMost largestTotal) :=
    Tally.faithful fun l => find?_name (by decide) l.mem_all
  constructor
  case plain =>
    intro s
    simp [toDatum, Datum.isPlain, Datum.haveFieldsPlain, Datum.nat, houtcomes.plain, htools.plain,
      hdomains.plain, hlayers.plain]
  case reads =>
    intro s hs
    have hfields : s.toDatum.fields? .json
        ["total_files", "unreadable_files", "outcomes", "tools", "domains", "layers"] =
          some ⟨_, false⟩ := Datum.fields?_record (.refl _) (by decide)
    simp [ofDatum?, hfields, Fields.required, Fields.find?, List.lookup_cons,
      htotal.reads _ hs.totalFiles, htotal.reads _ hs.unreadableFiles,
      houtcomes.reads _ hs.outcomes, htools.reads _ hs.tools, hdomains.reads _ hs.domains,
      hlayers.reads _ hs.layers]
  case fits =>
    intro d s h
    simp only [ofDatum?, Option.bind_eq_bind, Option.bind_eq_some_iff, Option.pure_def,
      Option.some.injEq] at h
    obtain ⟨f, -, _, h₁, _, h₂, _, h₃, _, h₄, _, h₅, _, h₆, rfl⟩ := h
    exact ⟨Fields.fits_of_required htotal h₁, Fields.fits_of_required htotal h₂,
      Fields.fits_of_required houtcomes h₃, Fields.fits_of_required htools h₄,
      Fields.fits_of_required hdomains h₅, Fields.fits_of_required hlayers h₆⟩

/-- Whether the interval of the time range, if there is one, is not too long for a report. -/
def Analysis.Fits (a : Analysis) : Prop := ∀ t ∈ a.timeRange, t.Fits

theorem Analysis.faithful : Faithful toDatum ofDatum? Fits := by
  have hrecord : ∀ t : TimeRange, t.toDatum ≠ .null := by simp [TimeRange.toDatum]
  have hrange := TimeRange.faithful.orNull hrecord
  constructor
  case plain =>
    intro a
    cases herror : a.error <;>
      simp [toDatum, Datum.isPlain, Datum.haveFieldsPlain, Datum.fieldOf, herror,
        NameSet.faithful.plain, Lineage.faithful.plain, Incremental.faithful.plain, hrange.plain,
        Complexity.faithful.plain, Dialect.faithful.plain]
  case reads =>
    intro a ha
    obtain ⟨f, hfields, hfind⟩ : ∃ f, a.toDatum.fields? .json
        ["file", "layer", "domain", "tables", "dependencies", "incremental", "time_range",
          "complexity", "dialect", "recommendation", "outcome", "error"] = some f ∧
            ∀ name, f.find? name = _ :=
      Datum.exists_fields? (by cases a.error <;> simp [Datum.fieldOf]) (by decide)
    have hfile := Fields.required_eq .text (a := a.file) trivial (hfind "file")
    have hlayer := Fields.required_eq Layer.faithful (a := a.layer) trivial (hfind "layer")
    have hdomain := Fields.required_eq Domain.faithful (a := a.domain) trivial (hfind "domain")
    have htables := Fields.required_eq NameSet.faithful (a := a.tables) trivial (hfind "tables")
    have hlineage := Fields.required_eq Lineage.faithful (a := a.lineage) trivial
      (hfind "dependencies")
    have hincremental := Fields.required_eq Incremental.faithful (a := a.incremental) trivial
      (hfind "incremental")
    have htime := Fields.nullable_eq TimeRange.faithful hrecord ha (hfind "time_range")
    have hcomplexity := Fields.required_eq Complexity.faithful (a := a.complexity) trivial
      (hfind "complexity")
    have hdialect := Fields.required_eq Dialect.faithful (a := a.dialect) trivial (hfind "dialect")
    have hadvice := Fields.required_eq .text (a := a.recommendation) trivial
      (hfind "recommendation")
    have houtcome := Fields.required_eq Outcome.faithful (a := a.outcome) trivial (hfind "outcome")
    have herror := Fields.orElse_eq .text (by simp) (o := a.error) (by simp)
      ((hfind "error").trans (by cases a.error <;> rfl))
    exact bind_of_eq_some hfields <| bind_of_eq_some hfile <| bind_of_eq_some hlayer <|
      bind_of_eq_some hdomain <| bind_of_eq_some htables <| bind_of_eq_some hlineage <|
      bind_of_eq_some hincremental <| bind_of_eq_some htime <| bind_of_eq_some hcomplexity <|
      bind_of_eq_some hdialect <| bind_of_eq_some hadvice <| bind_of_eq_some houtcome <|
      bind_of_eq_some herror rfl
  case fits =>
    intro d a h
    -- field by field, as twelve binds are too many for one simp
    obtain ⟨f, -, h⟩ := Option.bind_eq_some_iff.mp h
    obtain ⟨_, -, h⟩ := Option.bind_eq_some_iff.mp h
    obtain ⟨_, -, h⟩ := Option.bind_eq_some_iff.mp h
    obtain ⟨_, -, h⟩ := Option.bind_eq_some_iff.mp h
    obtain ⟨_, -, h⟩ := Option.bind_eq_some_iff.mp h
    obtain ⟨_, -, h⟩ := Option.bind_eq_some_iff.mp h
    obtain ⟨_, -, h⟩ := Option.bind_eq_some_iff.mp h
    obtain ⟨_, htime, h⟩ := Option.bind_eq_some_iff.mp h
    obtain ⟨_, -, h⟩ := Option.bind_eq_some_iff.mp h
    obtain ⟨_, -, h⟩ := Option.bind_eq_some_iff.mp h
    obtain ⟨_, -, h⟩ := Option.bind_eq_some_iff.mp h
    obtain ⟨_, -, h⟩ := Option.bind_eq_some_iff.mp h
    obtain ⟨_, -, h⟩ := Option.bind_eq_some_iff.mp h
    cases h
    exact Fields.fits_of_nullable TimeRange.faithful hrecord htime

structure Report.Fits (r : Report) : Prop where
  files : ∀ a ∈ r.files, a.Fits
  summary : r.summary.AtMost largestTotal

theorem Report.faithful : Faithful toDatum ofDatum? Fits := by
  have hfiles := Analysis.faithful.list
  constructor
  case plain =>
    intro r
    simp [toDatum, Datum.isPlain_record, hfiles.plain, Summary.faithful.plain]
  case reads =>
    intro r hr
    have hfields : r.toDatum.fields? .json ["files", "summary"] = some ⟨_, false⟩ :=
      Datum.fields?_record (.refl _) (by decide)
    simp [ofDatum?, hfields, Fields.required, Fields.find?, List.lookup_cons,
      hfiles.reads _ hr.files, Summary.faithful.reads _ hr.summary]
  case fits =>
    intro d r h
    simp only [ofDatum?, Option.bind_eq_bind, Option.bind_eq_some_iff, Option.pure_def,
      Option.some.injEq] at h
    obtain ⟨f, -, _, h₁, _, h₂, rfl⟩ := h
    exact ⟨Fields.fits_of_required hfiles h₁, Fields.fits_of_required Summary.faithful h₂⟩

namespace Report

variable {r : Report} {text : String}

theorem read?_render_eq (r : Report) : read? r.render = ofDatum? r.toDatum := by
  rw [read?, render, Json.read?_render (faithful.plain r), Option.bind_some]

theorem fits_of_read? (h : read? text = some r) : r.Fits := by
  obtain ⟨d, -, hd⟩ := Option.bind_eq_some_iff.mp h
  exact faithful.fits d r hd

/-- A report is written where a file can be, and its text is then there to be read. -/
theorem exists_save {t : FileTree} {cwd p : Place} {path : String} {e : Option FileEntry}
    (hl : t.locate cwd path = .ok (p, e)) (ha : t.Accepts p e) (r : Report) :
    ∃ t', r.save t cwd path = (.ok (), t') ∧ t'.readText cwd path = .ok r.render := by
  obtain ⟨hwrite, -, -, hread⟩ := FileTree.writeText_of_locate r.render hl ha
  refine ⟨_, ?_, hread⟩
  rw [save, hwrite]
  rfl

end Report

/-- A window is never too long for a report: a longer one counts as the longest. -/
theorem Window.le_largest_of_readAt {s : List Char} {w : Nat × TimeUnit}
    (h : Window.readAt s = some w) : w.1 ≤ largestTotal := by
  simp only [readAt, Option.bind_eq_bind, Option.bind_eq_some_iff, Option.some.injEq] at h
  obtain ⟨_, -, _, -, _, -, _, -, ⟨interval, _⟩, hinterval, _, -, _, -, _, -, rfl⟩ := h
  rw [readInterval] at hinterval
  split at hinterval
  · cases hinterval
    exact Nat.min_le_right _ _
  · cases hinterval

theorem Window.exists_readAt_of_first? {s : List Char} {w : Nat × TimeUnit}
    (h : Window.first? s = some w) : ∃ s', Window.readAt s' = some w := by
  induction s with
  | nil => simp [Window.first?] at h
  | cons c s ih =>
    rw [Window.first?] at h
    cases hread : Window.readAt (c :: s) with
    | none => exact ih (by simpa [hread] using h)
    | some w' => exact ⟨c :: s, by simpa [hread] using h⟩

theorem TimeRange.fits_of_ofScript? (sql : String) : ∀ t ∈ ofScript? sql, t.Fits := by
  intro t ht
  obtain ⟨w, hw, rfl⟩ := Option.map_eq_some_iff.mp ht
  obtain ⟨s, hs⟩ := Window.exists_readAt_of_first? hw
  exact Window.le_largest_of_readAt hs

theorem Analysis.timeRange_ofFile_fits (extractor : TableExtractor) (tools : ToolNames)
    (t : FileTree) (cwd : Place) (path : String) :
    ∀ w ∈ (ofFile extractor tools t cwd path).timeRange, w.Fits := by
  unfold ofFile
  split
  · next sql _ => exact TimeRange.fits_of_ofScript? sql
  · exact TimeRange.fits_of_ofScript? ""

namespace Report

variable {r : Report} {extractor : TableExtractor} {tools : ToolNames} {t : FileTree} {cwd : Place}
  {folder : String}

/-- The report on a folder has an analysis for each script and the summary of them. -/
theorem exists_paths_of_ofFolder (h : ofFolder extractor tools t cwd folder = .ok r) :
    ∃ paths : List String,
      r = ofAnalyses tools (paths.map (Analysis.ofFile extractor tools t cwd)) := by
  unfold ofFolder at h
  cases hs : scripts t cwd folder with
  | error e => simp [hs, Except.map] at h
  | ok paths =>
    rw [hs] at h
    exact ⟨paths, (Except.ok.inj h).symm⟩

/-- It fits if there are not too many scripts. -/
theorem fits_of_ofFolder (h : ofFolder extractor tools t cwd folder = .ok r)
    (hfiles : r.files.length ≤ largestTotal) : r.Fits := by
  obtain ⟨paths, rfl⟩ := exists_paths_of_ofFolder h
  refine ⟨fun a ha => ?_, (Summary.atMost_ofAnalyses tools _).mono hfiles⟩
  obtain ⟨path, -, rfl⟩ := List.mem_map.mp ha
  exact Analysis.timeRange_ofFile_fits extractor tools t cwd path

/-- What is written of a report is read as that report exactly if its numbers are not too large, and
it stands in the file that it is saved to. So a text that is read as a report is read as the same
report again when it is written anew, and the second writing gives the text of the first. The
summary of the analyses that are read of the report on a folder is the one that stands in it. -/
theorem round_trip (r : Report) :
    (read? r.render = some r ↔ r.Fits) ∧
    (∀ (t : FileTree) (cwd p : Place) (path : String) (e : Option FileEntry), r.Fits →
      t.locate cwd path = .ok (p, e) → t.Accepts p e →
      ∃ t' text, r.save t cwd path = (.ok (), t') ∧ t'.readText cwd path = .ok text ∧
        read? text = some r) ∧
    (∀ text, read? text = some r →
      read? r.render = some r ∧ (read? r.render).map render = some r.render) ∧
    (∀ (extractor : TableExtractor) (tools : ToolNames) (t : FileTree) (cwd : Place)
      (folder : String), ofFolder extractor tools t cwd folder = .ok r →
      r.files.length ≤ largestTotal →
      ∃ r', read? r.render = some r' ∧ Summary.ofAnalyses tools r'.files = r.summary) := by
  have hreads : read? r.render = some r ↔ r.Fits := by
    rw [read?_render_eq, faithful.reads_iff]
  refine ⟨hreads, ?_, ?_, ?_⟩
  · intro t cwd p path e hr hl ha
    obtain ⟨t', hsave, htext⟩ := exists_save hl ha r
    exact ⟨t', r.render, hsave, htext, hreads.mpr hr⟩
  · intro text h
    have hagain := hreads.mpr (fits_of_read? h)
    exact ⟨hagain, by rw [hagain, Option.map_some]⟩
  · intro extractor tools t cwd folder h hfiles
    have hagain := hreads.mpr (fits_of_ofFolder h hfiles)
    obtain ⟨paths, rfl⟩ := exists_paths_of_ofFolder h
    exact ⟨_, hagain, rfl⟩

/-- A report with control characters and other signs, with the largest numbers, and with analyses
that do not go together with each other or with the summary. -/
theorem round_trip_odd :
    let names : NameSet := .ofList ["b", "\t", "\x00\"\\\n \u00e9\u4e2d"]
    let a : Analysis :=
      { file := "\x00\"\\\n \u00e9\u4e2d", layer := .dwd, domain := .cost, tables := names,
        lineage := .ofList [("", names)], incremental := ⟨false, some .merge, none⟩,
        timeRange := some ⟨largestTotal, .day, ""⟩,
        complexity := ⟨4294967295, 0, 1, 2, 0, 0, .low⟩, dialect := ⟨["x", "x"], [], true⟩,
        recommendation := "", outcome := .incremental, error := some "\x7f" }
    let b : Analysis :=
      { a with timeRange := none, error := none, incremental := ⟨true, none, some "\x1b"⟩ }
    let outcomes : Tally Outcome := .ofList [(Outcome.incremental, largestTotal)]
    let tools : Tally String := .ofList [("", 0)]
    let r : Report := ⟨[a, b, a], ⟨largestTotal, 7, outcomes, tools, ∅, ∅⟩⟩
    r.Fits ∧ read? r.render = some r := by
  intro names a b outcomes tools r
  have htally : ∀ {κ : Type} [Ord κ] [Std.TransOrd κ] (k : κ) {n : Nat}, n ≤ largestTotal →
      Tally.AtMost largestTotal (.ofList [(k, n)]) := by
    intro κ _ _ k n hn
    rw [Tally.AtMost, Std.ExtTreeMap.ofList_eq_insertMany_empty]
    exact forall_getElem?_insertMany (by simp) (by simpa using hn)
  have ha : a.Fits := by simp [a, Analysis.Fits, TimeRange.Fits]
  have hb : b.Fits := by simp [b, Analysis.Fits]
  have hfits : r.Fits := by
    refine ⟨by simpa [r] using ⟨ha, hb, ha⟩, ⟨Nat.le_refl _, by decide, htally _ (Nat.le_refl _),
      htally _ (Nat.zero_le _), ?_, ?_⟩⟩ <;> simp [r, Tally.AtMost]
  exact ⟨hfits, (round_trip r).1.mpr hfits⟩

end Report

end Cutover
