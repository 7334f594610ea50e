import Cutover.Corpus.Summary
import Mathlib.Algebra.BigOperators.Group.List.Lemmas
import Mathlib.Algebra.GroupWithZero.Nat
import Mathlib.Data.List.Dedup
import Mathlib.Tactic.Common

/-!
# What a summary counts

A tally that is filled one by one gives for each kind how often it was met, and has no other kinds.
That alone determines it, so the order does not matter, and tallies can be put together.
-/
namespace Cutover

namespace Tally

section Entries

variable {κ ι : Type} [Ord κ] [Std.TransOrd κ] {t : Tally κ}

/-- All numbers added up. -/
def total (t : Tally κ) : Nat := (t.toList.map (·.2)).sum

/-- `n` more of a kind. -/
def more (t : Tally κ) (k : κ) (n : Nat) : Tally κ := t.alter k fun m => some (m.getD 0 + n)

theorem count_eq_more (t : Tally κ) (k : κ) : t.count k = t.more k 1 := rfl

/-- The tally with further numbers added, where a kind may come several times. -/
def addAll (t : Tally κ) (es : List (κ × Nat)) : Tally κ := es.foldl (fun t e => t.more e.1 e.2) t

/-- Two tallies added kind by kind. -/
def plus (t u : Tally κ) : Tally κ := t.addAll u.toList

/-- The tally with each kind replaced by its image. The numbers of kinds with one image are added
up. -/
def image [Ord ι] [Std.TransOrd ι] (f : κ → ι) (t : Tally κ) : Tally ι :=
  addAll ∅ (t.toList.map fun e => (f e.1, e.2))

variable [Std.LawfulEqOrd κ]

theorem mem_more {k k' : κ} {n : Nat} : k' ∈ t.more k n ↔ k' = k ∨ k' ∈ t := by
  rw [more, Std.ExtTreeMap.mem_alter]
  by_cases h : k = k'
  · simp [h]
  · simp [h, Ne.symm h]

theorem mem_addAll {es : List (κ × Nat)} {k : κ} :
    k ∈ t.addAll es ↔ k ∈ t ∨ k ∈ es.map (·.1) := by
  induction es generalizing t with
  | nil => simp [addAll]
  | cons e es ih =>
    rw [addAll, List.foldl_cons, ← addAll, ih, mem_more, List.map_cons, List.mem_cons]
    tauto

/-- The entries of a tally are its kinds with their numbers. -/
theorem toList_eq (t : Tally κ) : t.toList = t.keys.map fun k => (k, t.getD k 0) := by
  rw [← Std.ExtTreeMap.map_fst_toList_eq_keys, List.map_map]
  refine (List.map_id _).symm.trans (List.map_congr_left fun e he => ?_)
  have hnumber := Std.ExtTreeMap.mem_toList_iff_getElem?_eq_some.mp he
  simp [Std.ExtTreeMap.getD_eq_getD_getElem?, hnumber]

end Entries

variable {κ ι : Type} [Ord κ] [Std.TransOrd κ] [Std.LawfulEqOrd κ] [DecidableEq κ]
  {t u : Tally κ} {ks ks' : List κ}

/-- What a list of numbers has for a kind. -/
def share (k : κ) (es : List (κ × Nat)) : Nat := ((es.filter (·.1 = k)).map (·.2)).sum

theorem getD_more (t : Tally κ) (k k' : κ) (n : Nat) :
    (t.more k n).getD k' 0 = t.getD k' 0 + if k = k' then n else 0 := by
  rw [more, Std.ExtTreeMap.getD_alter]
  simp only [Std.LawfulEqOrd.compare_eq_iff_eq]
  split
  · next h => rw [h, Option.getD_some, Std.ExtTreeMap.getD_eq_getD_getElem?]
  · rfl

theorem getD_addAll (t : Tally κ) (es : List (κ × Nat)) (k : κ) :
    (t.addAll es).getD k 0 = t.getD k 0 + share k es := by
  induction es generalizing t with
  | nil => simp [addAll, share]
  | cons e es ih =>
    rw [addAll, List.foldl_cons, ← addAll, ih, getD_more]
    by_cases h : e.1 = k
    · simp [share, h, Nat.add_assoc]
    · simp [share, h]

/-- What a kind comes to in a sum of tallies. -/
theorem plus_spec (t u : Tally κ) (k : κ) :
    (k ∈ t.plus u ↔ k ∈ t ∨ k ∈ u) ∧ (t.plus u).getD k 0 = t.getD k 0 + u.getD k 0 := by
  constructor
  · rw [plus, mem_addAll, Std.ExtTreeMap.map_fst_toList_eq_keys, Std.ExtTreeMap.mem_keys]
  · -- a kind has one entry in the second tally, or none
    have hkeys : u.keys.filter (· = k) = List.replicate (u.keys.count k) k := List.filter_eq k
    have hshare : share k u.toList = ((u.keys.filter (· = k)).map (u.getD · 0)).sum := by
      rw [share, toList_eq, List.filter_map, List.map_map]
      rfl
    rw [plus, getD_addAll, hshare, hkeys]
    by_cases hk : k ∈ u
    · rw [List.count_eq_one_of_mem Std.ExtTreeMap.nodup_keys (Std.ExtTreeMap.mem_keys.mpr hk)]
      simp
    · simp [Std.ExtTreeMap.getD_eq_fallback hk]

omit [DecidableEq κ] in
/-- What a kind comes to in an image: the numbers of all kinds with this image. -/
theorem image_spec [Ord ι] [Std.TransOrd ι] [Std.LawfulEqOrd ι] [DecidableEq ι] (f : κ → ι)
    (t : Tally κ) (i : ι) :
    (i ∈ t.image f ↔ ∃ k ∈ t, f k = i) ∧
      (t.image f).getD i 0 = ((t.keys.filter (f · = i)).map (t.getD · 0)).sum := by
  constructor
  · simp [image, mem_addAll, toList_eq, Std.ExtTreeMap.mem_keys]
  · rw [image, getD_addAll, Std.ExtTreeMap.getD_empty, Nat.zero_add, share, toList_eq, List.map_map,
      List.filter_map, List.map_map]
    rfl

/-- Whether the second tally has one more of a kind, and otherwise what the first one has. -/
structure OneMore (k : κ) (t u : Tally κ) : Prop where
  mem_iff : ∀ k', k' ∈ u ↔ k' = k ∨ k' ∈ t
  getD_eq : ∀ k', u.getD k' 0 = t.getD k' 0 + if k' = k then 1 else 0

theorem oneMore_count (t : Tally κ) (k : κ) : OneMore k t (t.count k) where
  mem_iff k' := by rw [count_eq_more, mem_more]
  getD_eq k' := by simp only [count_eq_more, getD_more, eq_comm]

/-- Whether the kinds of a tally are those of a list, each with the number of its places there. -/
structure Counts (t : Tally κ) (ks : List κ) : Prop where
  mem_iff : ∀ k, k ∈ t ↔ k ∈ ks
  getD_eq : ∀ k, t.getD k 0 = ks.count k

namespace Counts

omit [Std.LawfulEqOrd κ] in
theorem nil : Counts (∅ : Tally κ) [] where
  mem_iff k := by simp
  getD_eq k := by simp

theorem snoc (h : t.Counts ks) (k : κ) : (t.count k).Counts (ks ++ [k]) where
  mem_iff k' := by
    rw [List.mem_append, List.mem_singleton, ← h.mem_iff, or_comm, count_eq_more, mem_more]
  getD_eq k' := by
    rw [List.count_append, ← h.getD_eq, List.count_singleton, count_eq_more, getD_more]
    simp

/-- The numbers in a list determine the tally, and the order of the list does not matter. -/
theorem unique (h : t.Counts ks) (h' : u.Counts ks') (hp : ks.Perm ks') : t = u := by
  refine Std.ExtTreeMap.ext_getElem? fun k => ?_
  have hmem : t[k]?.isSome = u[k]?.isSome := by
    rw [Bool.eq_iff_iff, ← Std.ExtTreeMap.mem_iff_isSome_getElem?,
      ← Std.ExtTreeMap.mem_iff_isSome_getElem?, h.mem_iff, h'.mem_iff, hp.mem_iff]
  have hnumber : t[k]?.getD 0 = u[k]?.getD 0 := by
    rw [← Std.ExtTreeMap.getD_eq_getD_getElem?, ← Std.ExtTreeMap.getD_eq_getD_getElem?, h.getD_eq,
      h'.getD_eq, hp.count_eq]
  cases ht : t[k]? <;> cases hu : u[k]? <;> simp_all

theorem keys_perm (h : t.Counts ks) : t.keys.Perm ks.dedup := by
  rw [List.perm_ext_iff_of_nodup Std.ExtTreeMap.nodup_keys (List.nodup_dedup ks)]
  intro k
  rw [Std.ExtTreeMap.mem_keys, h.mem_iff, List.mem_dedup]

/-- The numbers of some of the kinds add up to that of their places in the list. -/
theorem sum_filter (h : t.Counts ks) (p : κ → Bool) :
    ((t.keys.filter p).map (t.getD · 0)).sum = ks.countP p := by
  simp only [h.getD_eq]
  rw [((h.keys_perm.filter p).map _).sum_eq, List.sum_map_count_dedup_filter_eq_countP]

theorem total_eq (h : t.Counts ks) : t.total = ks.length := by
  have hall := h.sum_filter fun _ => true
  rw [List.countP_true, List.filter_true] at hall
  rw [total, toList_eq, List.map_map, ← hall]
  rfl

theorem plus (h : t.Counts ks) (h' : u.Counts ks') : (t.plus u).Counts (ks ++ ks') where
  mem_iff k := by rw [(plus_spec t u k).1, h.mem_iff, h'.mem_iff, List.mem_append]
  getD_eq k := by rw [(plus_spec t u k).2, h.getD_eq, h'.getD_eq, List.count_append]

theorem image [Ord ι] [Std.TransOrd ι] [Std.LawfulEqOrd ι] [DecidableEq ι] (h : t.Counts ks)
    (f : κ → ι) : (t.image f).Counts (ks.map f) where
  mem_iff i := by simp only [(image_spec f t i).1, h.mem_iff, List.mem_map]
  getD_eq i := by
    rw [(image_spec f t i).2, h.sum_filter, List.count_eq_countP, List.countP_map]
    rfl

end Counts

end Tally

attribute [ext] Summary

namespace Summary

variable {tools : ToolNames} {s s' : Summary} {files files' : List Analysis}

/-- Whether a summary gives the number of the analyses, that of those with an error, and how many of
them there are of each outcome, tool, domain and layer. -/
structure Counts (tools : ToolNames) (s : Summary) (files : List Analysis) : Prop where
  totalFiles : s.totalFiles = files.length
  unreadableFiles : s.unreadableFiles = files.countP (·.error.isSome)
  outcomes : s.outcomes.Counts (files.map (·.outcome))
  tools : s.tools.Counts (files.map (·.outcome.tool tools))
  domains : s.domains.Counts (files.map (·.domain))
  layers : s.layers.Counts (files.map (·.layer))

/-- Two summaries added number by number. -/
def plus (s s' : Summary) : Summary where
  totalFiles := s.totalFiles + s'.totalFiles
  unreadableFiles := s.unreadableFiles + s'.unreadableFiles
  outcomes := s.outcomes.plus s'.outcomes
  tools := s.tools.plus s'.tools
  domains := s.domains.plus s'.domains
  layers := s.layers.plus s'.layers

theorem counts_empty : empty.Counts tools [] :=
  ⟨rfl, rfl, .nil, .nil, .nil, .nil⟩

namespace Counts

theorem add (h : s.Counts tools files) (a : Analysis) :
    (s.add tools a).Counts tools (files ++ [a]) where
  totalFiles := by simp [Summary.add, h.totalFiles]
  unreadableFiles := by
    rw [List.countP_append, List.countP_singleton, ← h.unreadableFiles]
    rfl
  outcomes := by
    rw [List.map_append]
    exact h.outcomes.snoc _
  tools := by
    rw [List.map_append]
    exact h.tools.snoc _
  domains := by
    rw [List.map_append]
    exact h.domains.snoc _
  layers := by
    rw [List.map_append]
    exact h.layers.snoc _

/-- What is added to a summary is counted on top of what it counts already. -/
theorem foldl (h : s.Counts tools files) (further : List Analysis) :
    (further.foldl (Summary.add tools) s).Counts tools (files ++ further) := by
  induction further generalizing s files with
  | nil => simpa using h
  | cons a further ih =>
    have hrest := ih (h.add a)
    rwa [List.append_assoc, List.singleton_append] at hrest

theorem unique (h : s.Counts tools files) (h' : s'.Counts tools files')
    (hp : files.Perm files') : s = s' := by
  ext1
  · rw [h.totalFiles, h'.totalFiles, hp.length_eq]
  · rw [h.unreadableFiles, h'.unreadableFiles, hp.countP_eq]
  · exact h.outcomes.unique h'.outcomes (hp.map _)
  · exact h.tools.unique h'.tools (hp.map _)
  · exact h.domains.unique h'.domains (hp.map _)
  · exact h.layers.unique h'.layers (hp.map _)

theorem plus (h : s.Counts tools files) (h' : s'.Counts tools files') :
    (s.plus s').Counts tools (files ++ files') := by
  constructor <;> simp only [Summary.plus, List.map_append, List.length_append, List.countP_append]
  · rw [h.totalFiles, h'.totalFiles]
  · rw [h.unreadableFiles, h'.unreadableFiles]
  · exact h.outcomes.plus h'.outcomes
  · exact h.tools.plus h'.tools
  · exact h.domains.plus h'.domains
  · exact h.layers.plus h'.layers

/-- Each analysis has one outcome, one tool, one domain and one layer. -/
theorem totals (h : s.Counts tools files) :
    s.outcomes.total = s.totalFiles ∧ s.tools.total = s.totalFiles ∧
      s.domains.total = s.totalFiles ∧ s.layers.total = s.totalFiles := by
  simp only [h.outcomes.total_eq, h.tools.total_eq, h.domains.total_eq, h.layers.total_eq,
    List.length_map, h.totalFiles, and_self]

end Counts

theorem counts_ofAnalyses (tools : ToolNames) (files : List Analysis) :
    (ofAnalyses tools files).Counts tools files := counts_empty.foldl files

theorem ofAnalyses_perm (tools : ToolNames) (h : files.Perm files') :
    ofAnalyses tools files = ofAnalyses tools files' :=
  (counts_ofAnalyses tools files).unique (counts_ofAnalyses tools files') h

/-- Whether the second summary counts one analysis more than the first one. -/
structure OneMore (tools : ToolNames) (a : Analysis) (s s' : Summary) : Prop where
  totalFiles : s'.totalFiles = s.totalFiles + 1
  unreadableFiles : s'.unreadableFiles = s.unreadableFiles + if a.error.isSome then 1 else 0
  outcomes : Tally.OneMore a.outcome s.outcomes s'.outcomes
  tools : Tally.OneMore (a.outcome.tool tools) s.tools s'.tools
  domains : Tally.OneMore a.domain s.domains s'.domains
  layers : Tally.OneMore a.layer s.layers s'.layers

theorem oneMore_add (tools : ToolNames) (s : Summary) (a : Analysis) :
    OneMore tools a s (s.add tools a) where
  totalFiles := rfl
  unreadableFiles := rfl
  outcomes := Tally.oneMore_count _ _
  tools := Tally.oneMore_count _ _
  domains := Tally.oneMore_count _ _
  layers := Tally.oneMore_count _ _

/-- One more analysis, wherever it stands in the list. -/
theorem ofAnalyses_insert (tools : ToolNames) (before after : List Analysis) (a : Analysis) :
    ofAnalyses tools (before ++ a :: after) = (ofAnalyses tools (before ++ after)).add tools a := by
  have hperm : (before ++ a :: after).Perm (before ++ after ++ [a]) :=
    List.perm_middle.trans (List.perm_append_singleton a _).symm
  rw [ofAnalyses_perm tools hperm, ofAnalyses, List.foldl_concat]
  rfl

/-- The summary of a list of analyses, whatever the tools are called, gives for each outcome, domain
and layer how many of the analyses have it, and no others. Its tools are those of its outcomes, and
the numbers of outcomes with one tool are added up. The numbers of each kind add up to that of the
analyses. The order of the list does not matter, and the summaries of two lists add up to that of
both. -/
theorem ofAnalyses_partition (tools : ToolNames) (files : List Analysis) :
    let s := ofAnalyses tools files
    s.Counts tools files ∧
    s.tools = s.outcomes.image (Outcome.tool tools) ∧
    (s.outcomes.total = s.totalFiles ∧ s.tools.total = s.totalFiles ∧
      s.domains.total = s.totalFiles ∧ s.layers.total = s.totalFiles) ∧
    (∀ files', files.Perm files' → ofAnalyses tools files' = s) ∧
    ∀ files', ofAnalyses tools (files ++ files') = s.plus (ofAnalyses tools files') := by
  intro s
  have hs : s.Counts tools files := counts_ofAnalyses tools files
  refine ⟨hs, ?_, hs.totals, fun files' hp => (ofAnalyses_perm tools hp).symm, fun files' => ?_⟩
  · have himage := hs.outcomes.image (Outcome.tool tools)
    rw [List.map_map] at himage
    exact hs.tools.unique himage (.refl _)
  · have hboth := hs.plus (counts_ofAnalyses tools files')
    exact (counts_ofAnalyses tools (files ++ files')).unique hboth (.refl _)

/-- Three analyses in two orders, with two outcomes that lead to one tool. -/
theorem ofAnalyses_partition_one_tool :
    let tools : ToolNames := ⟨"dbt", "dbt"⟩
    let a : Analysis :=
      { Analysis.unreadable .byKeyword tools "a.sql" "denied" with outcome := .highComplexity }
    let b : Analysis := { a with layer := .dwd, outcome := .incremental, error := none }
    [a, b, a].Perm [b, a, a] ∧ ofAnalyses tools [b, a, a] = ofAnalyses tools [a, b, a] ∧
      (ofAnalyses tools [a, b, a]).tools.getD "dbt" 0 = 3 ∧
      (ofAnalyses tools [a, b, a]).outcomes.getD .incremental 0 = 1 ∧
      (ofAnalyses tools [a, b, a]).unreadableFiles = 2 := by
  intro tools a b
  have hp : [a, b, a].Perm [b, a, a] := .swap b a [a]
  obtain ⟨hs, -, -, hperm, -⟩ := ofAnalyses_partition tools [a, b, a]
  refine ⟨hp, hperm _ hp, ?_, ?_, ?_⟩
  · rw [hs.tools.getD_eq]
    rfl
  · rw [hs.outcomes.getD_eq]
    rfl
  · rw [hs.unreadableFiles]
    rfl

end Summary

end Cutover
