import Cutover.Proofs.Script.Tables

/-!
# Lineage and tables

The targets of a script and its tables are found by two scans that know nothing of each other. They
agree since before the INTO of an insert stands INSERT or IGNORE, so that the INTO is no operand of
a word that a table is named after: its own operand is found as a table too. The reserved words are
left out of the tables only.
-/
namespace Cutover

open Text

/-- The words that the INTO of an insert stands behind. -/
def insertWords : List String := ["INSERT", "IGNORE"]

def intoWords : List String := ["INTO"]

theorem keywords_insert : Keywords insertWords := ⟨by decide, by decide, by decide⟩

theorem keywords_into : Keywords intoWords := ⟨by decide, by decide, by decide⟩

/-- Whether an occurrence is the INTO of an insert, with its operand. -/
structure Text.Occurrence.IsTarget {text : List Char} (o : Occurrence text) : Prop where
  into : o.IsOf intoWords
  operand : o.operand ≠ []
  behind : ∃ p : Occurrence text, p.IsOf insertWords ∧ p.Precedes o

/-- The INTO of an insert is no operand of FROM, JOIN or INTO, so it counts. -/
theorem Text.Occurrence.IsTarget.counts {text : List Char} {o : Occurrence text}
    (h : o.IsTarget) : o.Counts referenceWords := by
  obtain ⟨p, hp, hprecedes⟩ := h.behind
  refine counts_iff.mpr ⟨h.into.mono (by decide), h.operand, fun q hq hcounts => ?_⟩
  have hof := (counts_iff.mp hcounts).1
  have hstart := hprecedes.start_eq keywords_insert hp keywords_reference hof hq
  exact not_isOf_of_start_eq keywords_insert hp keywords_reference (by decide) hstart hof

namespace Inserted

variable {text front s name rest : List Char} {n stop : Nat}

/-- What is read of INTO and a name behind one of the words is the INTO of an insert. -/
theorem exists_isTarget_of_read {w : String} (hw : w ∈ insertWords) (ht : front ++ s = text)
    (hf : front.getLast?.any isWord = false)
    (h : readPhrase [.letters w, .gap, .letters "INTO", .gap, .name true] s = some (name, rest)) :
    ∃ o : Occurrence text, o.IsTarget ∧ o.operand = name := by
  have hphrase : readPhrase [.letters w, .gap, .letters "INTO", .gap, .name true] s =
      readPhrase [.anyOf [w], .gap, .anyOf intoWords, .gap, .name true] s := by
    simp only [readPhrase, read_letters, intoWords]
  rw [hphrase] at h
  obtain ⟨p, o, -, hp, hprecedes, ho, hne, -, rfl⟩ :=
    (readPhrase_guarded_iff (keywords_insert.singleton hw) keywords_into ht hf).mp h
  exact ⟨o, ⟨ho, hne, p, hp.mono (by simpa using hw), hprecedes⟩, rfl⟩

/-- The name that a match reports is the operand of the INTO of an insert. -/
theorem exists_isTarget (h : inserted.matchAt? text n = some (name, stop)) :
    ∃ o : Occurrence text, o.IsTarget ∧ o.operand = name := by
  obtain ⟨hf, rest, hread, -⟩ := (Pattern.matchAt?_eq_some_iff rfl).mp h
  have ht := List.take_append_drop n text
  obtain ⟨ps, hps, hread⟩ := List.exists_of_findSome?_eq_some hread
  simp only [inserted, List.mem_cons, List.not_mem_nil, or_false] at hps
  rcases hps with rfl | rfl
  · -- behind INSERT the phrase with IGNORE goes on like the one without it
    rw [readPhrase, read_letters, ← readPhrase] at hread
    have hinsert : Keywords ["INSERT"] := keywords_insert.singleton (by decide)
    obtain ⟨front, s, ht, hf, hread⟩ := exists_behind_keyword hinsert ht hread
    exact exists_isTarget_of_read (w := "IGNORE") (by decide) ht hf hread
  · exact exists_isTarget_of_read (w := "INSERT") (by decide) ht hf hread

theorem readAt_nil (before : Option Char) : inserted.readAt before [] = none := by
  cases before.any isWord <;> simp [Pattern.readAt, inserted, readPhrase, Piece.read, readFolded]

end Inserted

namespace TableExtractor

variable {sql t : String}

/-- The lineage has the targets as keys, each with all other tables. -/
theorem getElem?_lineage (e : TableExtractor) (sql t : String) :
    (e.lineage sql)[t]? = if t ∈ e.targets sql then some ((e.tables sql).erase t) else none := by
  split
  · next h =>
    have hdistinct : (e.targets sql).toList.Pairwise fun a b => ¬compare a b = .eq :=
      Std.ExtTreeSet.distinct_toList
    refine Std.ExtTreeMap.getElem?_ofList_of_mem Std.ReflCmp.compare_self ?_ ?_
    · exact List.pairwise_map.mpr hdistinct
    · exact List.mem_map.mpr ⟨t, Std.ExtTreeSet.mem_toList.mpr h, rfl⟩
  · next h =>
    refine Std.ExtTreeMap.getElem?_ofList_of_contains_eq_false ?_
    simpa [Function.comp_def, Std.ExtTreeSet.mem_toList] using h

/-- Of each target the INTO counts among the words that a table is named after. -/
theorem exists_counts_of_mem_targets (h : t ∈ byKeyword.targets sql) :
    ∃ o : Occurrence sql.toList, o.name = t ∧ o.Counts referenceWords := by
  simp only [byKeyword, Std.ExtTreeSet.mem_ofList, List.contains_iff_mem, mem_namesOf_iff] at h
  obtain ⟨name, hmem, -, rfl⟩ := h
  obtain ⟨n, stop, -, hmatch⟩ := (Pattern.mem_matches_iff Inserted.readAt_nil).mp hmem
  obtain ⟨o, ho, rfl⟩ := Inserted.exists_isTarget hmatch
  exact ⟨o, rfl, ho.counts⟩

/-- A target is a table unless its name is a reserved word. -/
theorem mem_tables_iff_of_mem_targets (h : t ∈ byKeyword.targets sql) :
    t ∈ byKeyword.tables sql ↔ t ∉ reserved := by
  obtain ⟨o, hname, hcounts⟩ := exists_counts_of_mem_targets h
  rw [mem_tables_iff, and_iff_left ⟨o, hname, .inl hcounts⟩]

/-- The lineage of a script tells of its targets and its tables and of nothing else: each target
has as its sources all tables but itself. A target is a table as well, unless it is one of the
reserved words, which name targets but no tables. -/
theorem lineage_agrees (sql : String) :
    let tables := byKeyword.tables sql
    let targets := byKeyword.targets sql
    let lineage := byKeyword.lineage sql
    (∀ t, t ∈ lineage ↔ t ∈ targets) ∧
    (∀ t sources, lineage[t]? = some sources →
      t ∉ sources ∧ (∀ s ∈ sources, s ∈ tables) ∧ ∀ s ∈ tables, s ≠ t → s ∈ sources) ∧
    targets ∩ tables = targets \ .ofList ["select", "set", "values", "where"] := by
  intro tables targets lineage
  refine ⟨fun t => ?_, fun t sources h => ?_, ?_⟩
  · rw [Std.ExtTreeMap.mem_iff_isSome_getElem?, getElem?_lineage]
    split
    · next h => simpa using h
    · next h => simpa using h
  · rw [getElem?_lineage] at h
    split at h
    · obtain rfl := Option.some.inj h
      have hmem : ∀ s, s ∈ tables.erase t ↔ t ≠ s ∧ s ∈ tables := by simp
      exact ⟨fun hself => ((hmem t).mp hself).1 rfl, fun s hs => ((hmem s).mp hs).2,
        fun s hs hne => (hmem s).mpr ⟨hne.symm, hs⟩⟩
    · cases h
  · refine Std.ExtTreeSet.ext_mem fun t => ?_
    rw [Std.ExtTreeSet.mem_inter_iff, Std.ExtTreeSet.mem_diff_iff]
    refine and_congr_right fun ht => ?_
    rw [mem_tables_iff_of_mem_targets ht, Std.ExtTreeSet.mem_ofList, List.contains_iff_mem]
    rfl

end TableExtractor

end Cutover
