import Cutover.Proofs.Script.Joining
import Cutover.Proofs.Script.Joins
import Cutover.Proofs.Text.LetterCase
import Cutover.Proofs.Text.Trim
import Mathlib.Algebra.BigOperators.Group.List.Basic
import Mathlib.Algebra.GroupWithZero.Nat
import Mathlib.Tactic.Common

/-!
# What adds to the complexity of a script

Nothing that is counted reaches over a semicolon, so the counts of statements add up, in whatever
order they stand. A subquery behind a text adds itself, and with it a call where the text ends in
the name of an aggregate function: the parenthesis of the subquery then opens the call as well.
-/
namespace Cutover

open Text

section Statements

/-- A character that no piece takes parts what is counted. -/
theorem Text.Pattern.count_append {p : Pattern} {c : Char} {a b whole : String}
    (hspares : p.spares c = true) (href : p.refuses c = true) (hc : isWord c = false)
    (hwhole : whole.toList = a.toList ++ c :: b.toList) :
    p.count whole = p.count a + p.count b := by
  have hcut : p.CutAt a.toList (c :: b.toList) := cutAt_of_spares hspares _ _
  rw [count, hcut.matches_append hwhole href hc, List.length_append]
  rfl

/-- A higher score is no lower level. -/
theorem Level.idxOf_ofScore_le {m n : UInt32} (h : m ≤ n) :
    all.idxOf (ofScore m) ≤ all.idxOf (ofScore n) := by
  unfold ofScore
  split
  · next hm => rw [if_pos (UInt32.lt_of_lt_of_le hm h)]
  · split
    · next hm =>
      split
      · decide
      · rw [if_pos (UInt32.lt_of_lt_of_le hm h)]
    · exact Nat.zero_le _

namespace Complexity

section Weight

variable {sql a b whole : String}

/-- What the constructs of a script weigh together, however many they are. -/
def weight (sql : String) : Nat :=
  3 * subquery.count sql + 2 * join.count sql + aggregation.count sql + caseWord.count sql

/-- The score is the weight, as far as a word can hold it. -/
theorem score_eq (sql : String) : (ofScript sql).score = .ofNat (weight sql) := by
  simp only [ofScript, ofCounts, weight, UInt32.ofNat_add, UInt32.ofNat_mul]
  rfl

theorem level_eq (sql : String) : (ofScript sql).level = Level.ofScore (ofScript sql).score := rfl

theorem idxOf_level_le (h : (ofScript a).score.toNat ≤ (ofScript b).score.toNat) :
    Level.all.idxOf (ofScript a).level ≤ Level.all.idxOf (ofScript b).level := by
  rw [level_eq, level_eq]
  exact Level.idxOf_ofScore_le (UInt32.le_iff_toNat_le.mpr h)

/-- Whether the counts of the constructs and the score are what they would be as numbers. -/
structure IsExact (sql : String) : Prop where
  subqueries : (ofScript sql).subqueries.toNat = subquery.count sql
  joins : (ofScript sql).joins.toNat = join.count sql
  aggregations : (ofScript sql).aggregations.toNat = aggregation.count sql
  caseStatements : (ofScript sql).caseStatements.toNat = caseWord.count sql
  score : (ofScript sql).score.toNat = weight sql

/-- No construct weighs less than one, so all numbers fit into words if the weight does. -/
theorem isExact_of_weight_lt (h : weight sql < 2 ^ 32) : IsExact sql := by
  have hsum := h
  rw [weight] at hsum
  exact
    { subqueries := UInt32.toNat_ofNat_of_lt' (by rw [UInt32.size]; omega)
      joins := UInt32.toNat_ofNat_of_lt' (by rw [UInt32.size]; omega)
      aggregations := UInt32.toNat_ofNat_of_lt' (by rw [UInt32.size]; omega)
      caseStatements := UInt32.toNat_ofNat_of_lt' (by rw [UInt32.size]; omega)
      score := by rw [score_eq]; exact UInt32.toNat_ofNat_of_lt' h }

/-- Where the counts add up, the weights do. -/
theorem weight_of_counts
    (h : ∀ p ∈ [subquery, join, aggregation, caseWord], p.count whole = p.count a + p.count b) :
    weight whole = weight a + weight b := by
  simp only [List.forall_mem_cons] at h
  obtain ⟨hsubqueries, hjoins, haggregations, hcases, -⟩ := h
  rw [weight, hsubqueries, hjoins, haggregations, hcases, weight, weight]
  omega

end Weight

variable (a b : String)

theorem count_statements {p : Pattern} (hp : p ∈ [subquery, join, aggregation, caseWord]) :
    p.count (a ++ ";" ++ b) = p.count a + p.count b := by
  have hall : ∀ p ∈ [subquery, join, aggregation, caseWord],
      p.spares ';' = true ∧ p.refuses ';' = true := by decide
  exact Pattern.count_append (hall p hp).1 (hall p hp).2 (by decide) (by simp)

theorem count_breaks_statements : (a ++ ";" ++ b).toList.count '\n' =
    a.toList.count '\n' + b.toList.count '\n' := by
  have hsemicolon : ";".toList.count '\n' = 0 := by decide
  simp only [String.toList_append, List.count_append, hsemicolon, Nat.add_zero]

theorem lines_statements :
    (ofScript (a ++ ";" ++ b)).lines = (ofScript a).lines + (ofScript b).lines - 1 := by
  simp only [ofScript, ofCounts, count_breaks_statements, UInt32.ofNat_add]
  grind

theorem weight_semicolon : weight (a ++ ";" ++ b) = weight a + weight b :=
  weight_of_counts fun _ hp => count_statements a b hp

/-- The weight of statements is the sum of their weights. -/
theorem weight_intercalate (statements : List String) :
    weight (";".intercalate statements) = (statements.map weight).sum := by
  induction statements with
  | nil => decide
  | cons x statements ih =>
    cases statements with
    | nil => simp
    | cons y statements =>
      rw [String.intercalate_cons_cons, weight_semicolon, ih, List.map_cons (l := y :: statements),
        List.sum_cons]

/-- The order of statements makes no difference to their weight. -/
theorem weight_perm {statements others : List String} (h : others.Perm statements) :
    weight (";".intercalate others) = weight (";".intercalate statements) := by
  rw [weight_intercalate, weight_intercalate]
  exact (h.map _).sum_eq

/-- Counts and scores of statements add up if the sum of the scores is a number of 32 bits; so a
statement more is no lower level. Lines add up as words do, and as numbers if there are not too many
for a word. The order of statements makes no difference. -/
theorem statements_compose :
    (∀ a b : String, weight (a ++ ";" ++ b) < 2 ^ 32 →
      let whole := ofScript (a ++ ";" ++ b)
      whole.subqueries.toNat = (ofScript a).subqueries.toNat + (ofScript b).subqueries.toNat ∧
      whole.joins.toNat = (ofScript a).joins.toNat + (ofScript b).joins.toNat ∧
      whole.aggregations.toNat =
        (ofScript a).aggregations.toNat + (ofScript b).aggregations.toNat ∧
      whole.caseStatements.toNat =
        (ofScript a).caseStatements.toNat + (ofScript b).caseStatements.toNat ∧
      whole.score.toNat = (ofScript a).score.toNat + (ofScript b).score.toNat ∧
      Level.all.idxOf (ofScript a).level ≤ Level.all.idxOf whole.level ∧
      Level.all.idxOf (ofScript b).level ≤ Level.all.idxOf whole.level) ∧
    (∀ a b : String,
      (ofScript (a ++ ";" ++ b)).lines = (ofScript a).lines + (ofScript b).lines - 1 ∧
      ((a ++ ";" ++ b).toList.count '\n' + 1 < 2 ^ 32 → (ofScript (a ++ ";" ++ b)).lines.toNat =
        (ofScript a).lines.toNat + (ofScript b).lines.toNat - 1) ∧
      (ofScript (b ++ ";" ++ a)).score = (ofScript (a ++ ";" ++ b)).score ∧
      (ofScript (b ++ ";" ++ a)).level = (ofScript (a ++ ";" ++ b)).level) ∧
    ∀ statements others : List String, others.Perm statements →
      (ofScript (";".intercalate others)).score =
        (ofScript (";".intercalate statements)).score ∧
      (ofScript (";".intercalate others)).level =
        (ofScript (";".intercalate statements)).level := by
  refine ⟨fun a b hbound => ?_, fun a b => ?_, fun statements others h => ?_⟩
  · intro whole
    have hweight := weight_semicolon a b
    have hwhole := isExact_of_weight_lt hbound
    have ha : IsExact a := isExact_of_weight_lt (by omega)
    have hb : IsExact b := isExact_of_weight_lt (by omega)
    have hscore : whole.score.toNat = (ofScript a).score.toNat + (ofScript b).score.toNat := by
      rw [hwhole.score, ha.score, hb.score, hweight]
    refine ⟨?_, ?_, ?_, ?_, hscore, ?_, ?_⟩
    · rw [hwhole.subqueries, ha.subqueries, hb.subqueries]
      exact count_statements a b (by simp)
    · rw [hwhole.joins, ha.joins, hb.joins]
      exact count_statements a b (by simp)
    · rw [hwhole.aggregations, ha.aggregations, hb.aggregations]
      exact count_statements a b (by simp)
    · rw [hwhole.caseStatements, ha.caseStatements, hb.caseStatements]
      exact count_statements a b (by simp)
    · exact idxOf_level_le ((Nat.le_add_right _ _).trans_eq hscore.symm)
    · exact idxOf_level_le ((Nat.le_add_left _ _).trans_eq hscore.symm)
  · have hswap : (ofScript (b ++ ";" ++ a)).score = (ofScript (a ++ ";" ++ b)).score := by
      rw [score_eq, score_eq, weight_semicolon, weight_semicolon, Nat.add_comm]
    refine ⟨lines_statements a b, fun hlines => ?_, hswap, by rw [level_eq, level_eq, hswap]⟩
    have hexact : ∀ sql : String, sql.toList.count '\n' + 1 < 2 ^ 32 →
        (ofScript sql).lines.toNat = sql.toList.count '\n' + 1 :=
      fun sql h => UInt32.toNat_ofNat_of_lt' h
    have hbreaks := count_breaks_statements a b
    rw [hexact _ hlines, hexact a (by omega), hexact b (by omega)]
    omega
  · rw [level_eq, level_eq, score_eq, score_eq, weight_perm h]
    exact ⟨rfl, rfl⟩

theorem statements_compose_reordered :
    let first := "INSERT INTO t (SELECT SUM(x) FROM (SELECT 1"
    let rest := "\nLEFT OUTER JOIN a JOIN b;case when (SELECT COUNT(*)"
    let statements := [first, "\nLEFT OUTER JOIN a JOIN b", "case when (SELECT COUNT(*)"]
    weight (first ++ ";" ++ rest) < 2 ^ 32 ∧
      (ofScript (first ++ ";" ++ rest)).score.toNat = 7 + 9 ∧
      (first ++ ";" ++ rest).toList.count '\n' + 1 < 2 ^ 32 ∧
      (ofScript (first ++ ";" ++ rest)).lines.toNat = 1 + 2 - 1 ∧
      statements.reverse.Perm statements ∧
      (ofScript (";".intercalate statements.reverse)).score = 16 ∧
      (ofScript (";".intercalate statements.reverse)).level = .medium := by
  intro first rest statements
  have hweight : weight (first ++ ";" ++ rest) < 2 ^ 32 := by decide +kernel
  have hbreaks : (first ++ ";" ++ rest).toList.count '\n' + 1 < 2 ^ 32 := by decide +kernel
  have hparts : (ofScript first).score.toNat = 7 ∧ (ofScript rest).score.toNat = 9 ∧
      (ofScript first).lines.toNat = 1 ∧ (ofScript rest).lines.toNat = 2 := by decide +kernel
  obtain ⟨hfirst, hrest, hline, hlines⟩ := hparts
  have hperm : statements.reverse.Perm statements := by decide +kernel
  have hscore : (ofScript (";".intercalate statements)).score = 16 := by decide +kernel
  have hlevel : (ofScript (";".intercalate statements)).level = .medium := by
    rw [level_eq, hscore]
    decide
  obtain ⟨hadd, hwords, horder⟩ := statements_compose
  obtain ⟨-, -, -, -, hsum, -⟩ := hadd first rest hweight
  have hsame := horder statements statements.reverse hperm
  exact ⟨hweight, by rw [hsum, hfirst, hrest], hbreaks,
    by rw [(hwords first rest).2.1 hbreaks, hline, hlines], hperm, hsame.1.trans hscore,
    hsame.2.trans hlevel⟩

end Complexity

end Statements

section Calls

variable {text r t word gap : List Char} {n : Nat}

/-- The names of the aggregate functions. -/
def aggregates : List String := ["SUM", "COUNT", "AVG", "MAX", "MIN"]

theorem keywords_aggregates : Keywords aggregates := ⟨by decide, by decide, by decide⟩

theorem phrases_aggregation :
    aggregation.phrases = [[.anyOf aggregates, .loose, .letters "("]] := rfl

theorem fold_eq_open_iff {c : Char} : fold c = '(' ↔ c = '(' := by
  have hlower := apply_toLower (f := fun c => decide (c = '(')) (by decide) c
  constructor
  · intro h
    unfold fold at h
    split at h
    · cases h
    · split at h
      · cases h
      · simpa [h] using hlower
  · rintro rfl
    decide

/-- What stands where a call is found: the name of the function, maybe white space, and the
parenthesis, behind which `rest` goes on. -/
def OpensCall (s rest : List Char) : Prop :=
  ∃ word gap, s = word ++ (gap ++ '(' :: rest) ∧ Spells aggregates word ∧
    ∀ c ∈ gap, isBlank c = true

theorem findSome?_aggregation_iff {s name rest : List Char} :
    aggregation.phrases.findSome? (readPhrase · s) = some (name, rest) ↔
      name = [] ∧ OpensCall s rest := by
  have hopen : ∀ s : List Char, (∃ x, s = x ++ rest ∧ x.map fold = "(".toList.map fold) ↔
      s = '(' :: rest := by
    intro s
    constructor
    · rintro ⟨x, rfl, hx⟩
      obtain ⟨c, rfl, hc⟩ := List.map_eq_singleton_iff.mp hx
      rw [fold_eq_open_iff.mp hc, List.singleton_append]
    · rintro rfl
      exact ⟨['('], rfl, rfl⟩
  simp only [phrases_aggregation, List.findSome?_singleton, readPhrase_cons_iff,
    readPhrase_singleton, read_anyOf_iff keywords_aggregates, read_loose_iff, read_letters_iff,
    hopen, OpensCall]
  constructor
  · rintro ⟨_, _, _, ⟨rfl, word, rfl, hword⟩, ⟨_, _, _, ⟨rfl, gap, rfl, hgap, -⟩, ⟨rfl, rfl⟩, rfl⟩,
      rfl⟩
    exact ⟨rfl, word, gap, rfl, hword, hgap⟩
  · rintro ⟨rfl, word, gap, rfl, hword, hgap⟩
    have hstop : ('(' :: rest).head?.any isBlank = false := rfl
    exact ⟨[], _, [], ⟨rfl, word, rfl, hword⟩, ⟨[], _, [], ⟨rfl, gap, rfl, hgap, hstop⟩,
      ⟨rfl, rfl⟩, rfl⟩, rfl⟩

theorem refuses_aggregation {c : Char} (h : isNameChar c = false) :
    aggregation.refuses c = true := by
  rw [Pattern.refuses, phrases_aggregation]
  simp [Piece.refuses_anyOf keywords_aggregates h]

/-- The matches of calls are apart. -/
theorem apart_aggregation : aggregation.Apart := by
  refine Pattern.apart_of_run rfl fun s name rest h => ?_
  obtain ⟨-, word, gap, rfl, hword, hgap⟩ := findSome?_aggregation_iff.mp h
  refine ⟨word, gap ++ ['('], hword.ne_nil keywords_aggregates, by simp,
    fun c hc => isWord_of_isNameChar (hword.isNameChar keywords_aggregates c hc), fun c hc => ?_⟩
  refine refuses_aggregation ?_
  rcases List.mem_append.mp hc with hc | hc
  · exact isNameChar_eq_false_of_isBlank (hgap c hc)
  · rw [List.mem_singleton.mp hc]
    decide

/-- Where calls are found. -/
theorem readsAt_aggregation_iff : aggregation.ReadsAt text n ↔
    (text.take n).getLast?.any isWord = false ∧ ∃ rest, OpensCall (text.drop n) rest := by
  have hat : aggregation.atWord = true := rfl
  rw [Pattern.ReadsAt, Option.isSome_iff_exists]
  simp only [Prod.exists, Pattern.matchAt?_eq_some_iff hat, findSome?_aggregation_iff]
  constructor
  · rintro ⟨-, -, hbefore, rest, ⟨-, h⟩, -⟩
    exact ⟨hbefore, rest, h⟩
  · rintro ⟨hbefore, rest, h⟩
    exact ⟨[], _, hbefore, rest, ⟨rfl, h⟩, rfl⟩

/-- A parenthesis behind a text and a space opens a call that the text has begun. -/
theorem exists_opensCall_append_iff : (∃ rest, OpensCall (r ++ ' ' :: '(' :: t) rest) ↔
    (∃ rest, OpensCall r rest) ∨
      ∃ word gap, r = word ++ gap ∧ Spells aggregates word ∧ ∀ c ∈ gap, isBlank c = true := by
  constructor
  · rintro ⟨rest, word, gap, hs, hword, hgap⟩
    rw [← List.append_assoc] at hs
    rcases List.append_eq_append_iff.mp hs with ⟨u, hr, hu⟩ | ⟨u, rfl, hu⟩
    · -- the parenthesis of the call stands behind the text, so it is the one behind the space
      cases u with
      | nil => cases hu
      | cons x u =>
        obtain rfl : ' ' = x := (List.cons.inj hu).1
        rcases List.append_eq_append_iff.mp hr with ⟨v, rfl, hv⟩ | ⟨v, hw, hv⟩
        · exact .inr ⟨word, v, rfl, hword, fun c hc => hgap c (by simp [hv, hc])⟩
        · cases v with
          | nil =>
            rw [List.append_nil] at hw
            exact .inr ⟨word, [], by simp [hw], hword, by simp⟩
          | cons y v =>
            obtain rfl : ' ' = y := (List.cons.inj hv).1
            have hname := hword.isNameChar keywords_aggregates ' ' (by simp [hw])
            exact absurd hname (by decide)
    · cases u with
      | nil => cases hu
      | cons x u =>
        obtain rfl : '(' = x := (List.cons.inj hu).1
        exact .inl ⟨u, word, gap, by simp, hword, hgap⟩
  · rintro (⟨rest, word, gap, rfl, hword, hgap⟩ | ⟨word, gap, rfl, hword, hgap⟩)
    · exact ⟨rest ++ ' ' :: '(' :: t, word, gap, by simp, hword, hgap⟩
    · refine ⟨t, word, gap ++ [' '], by simp, hword, fun c hc => ?_⟩
      rcases List.mem_append.mp hc with hc | hc
      · exact hgap c hc
      · rw [List.mem_singleton.mp hc]
        decide

end Calls

section Ending

variable {text front word : List Char} {n : Nat}

/-- Whether a text ends in the name of an aggregate function, white space behind it aside, with no
word character before the name. -/
def EndsInAggregate (text : String) : Prop :=
  ∃ front word, trimEnd text.toList = front ++ word ∧ front.getLast?.any isWord = false ∧
    Spells aggregates word

theorem endsInAggregate_iff (text : String) :
    EndsInAggregate text ↔ Spells aggregates (lastWord text.toList) := by
  constructor
  · rintro ⟨front, word, htrim, hf, hword⟩
    rwa [lastWord_of_trimEnd htrim hf (hword.isNameChar keywords_aggregates)]
  · intro h
    refine ⟨((trimEnd text.toList).reverse.dropWhile isWord).reverse, _, ?_, ?_, h⟩
    · rw [lastWord, ← List.reverse_append, List.takeWhile_append_dropWhile, List.reverse_reverse]
    · rw [List.getLast?_reverse]
      exact (takeWhile_dropWhile_iff.mp ⟨rfl, rfl⟩).2.2

instance (text : String) : Decidable (EndsInAggregate text) :=
  decidable_of_iff _ (endsInAggregate_iff text).symm

/-- Whether a call is begun at a position with nothing but its name, up to the end of the text. -/
def BeginsCall (text : List Char) (n : Nat) : Prop :=
  (text.take n).getLast?.any isWord = false ∧
    ∃ word gap, text.drop n = word ++ gap ∧ Spells aggregates word ∧ ∀ c ∈ gap, isBlank c = true

theorem BeginsCall.lt_length (h : BeginsCall text n) : n < text.length := by
  obtain ⟨-, word, gap, hdrop, hword, -⟩ := h
  have hne : text.drop n ≠ [] := by simp [hdrop, hword.ne_nil keywords_aggregates]
  simpa using hne

/-- A call that is only begun is not found: there is no parenthesis. -/
theorem BeginsCall.not_readsAt (h : BeginsCall text n) : ¬aggregation.ReadsAt text n := by
  obtain ⟨-, word, gap, hdrop, hword, hgap⟩ := h
  rw [readsAt_aggregation_iff, hdrop]
  rintro ⟨-, rest, word', gap', hs, -⟩
  have hopen : '(' ∈ word ++ gap := by simp [hs]
  rcases List.mem_append.mp hopen with hmem | hmem
  · exact absurd (hword.isNameChar keywords_aggregates _ hmem) (by decide)
  · exact absurd (hgap _ hmem) (by decide)

/-- Only the name in which the text ends begins a call without opening it. -/
theorem beginsCall_iff (h : trimEnd text = front ++ word) (hf : front.getLast?.any isWord = false)
    (hword : Spells aggregates word) : BeginsCall text n ↔ n = front.length := by
  constructor
  · rintro ⟨hn, word', gap, hdrop, hword', hgap⟩
    have hne := hword'.ne_nil keywords_aggregates
    have hname := hword'.isNameChar keywords_aggregates
    have htext : text.take n ++ (word' ++ gap) = text := hdrop ▸ List.take_append_drop n text
    have htrim : trimEnd text = text.take n ++ word' :=
      (congrArg trimEnd htext.symm).trans (trimEnd_word hne hname hgap)
    obtain rfl : word' = word := (lastWord_of_trimEnd htrim hn hname).symm.trans
      (lastWord_of_trimEnd h hf (hword.isNameChar keywords_aggregates))
    have hlength := congrArg List.length hdrop
    have hpos := List.length_pos_iff.mpr hne
    simp only [List.length_drop, List.length_append] at hlength
    rw [← List.append_cancel_right (htrim.symm.trans h), List.length_take]
    omega
  · rintro rfl
    obtain ⟨gap, htext, hgap⟩ := exists_trimEnd text
    rw [h, List.append_assoc] at htext
    refine ⟨?_, word, gap, ?_, hword, hgap⟩
    · rwa [htext, List.take_left' rfl]
    · rw [htext, List.drop_left' rfl]

end Ending

section Subquery

variable (base : String)

theorem toList_open : (base ++ " (SELECT").toList = base.toList ++ ' ' :: "(SELECT".toList := by
  simp

theorem count_subquery_open : subquery.count (base ++ " (SELECT") = subquery.count base + 1 :=
  Pattern.count_append (by decide) (by decide) (by decide) (toList_open base)

theorem count_caseWord_open : caseWord.count (base ++ " (SELECT") = caseWord.count base :=
  Pattern.count_append (by decide) (by decide) (by decide) (toList_open base)

/-- A LEFT before the parenthesis makes no join of it, since none is made without the word. -/
theorem count_join_open : join.count (base ++ " (SELECT") = join.count base := by
  rw [count_join, count_join]
  exact Pattern.count_append (by decide) (by decide) (by decide) (toList_open base)

/-- No call begins in the text that is added. -/
theorem count_readsAt_open (text : List Char) :
    Nat.count (fun n => aggregation.ReadsAt (text ++ ' ' :: "(SELECT".toList) (text.length + n))
      (' ' :: "(SELECT".toList).length = 0 := by
  have hnone : ∀ n < (' ' :: "(SELECT".toList).length,
      aggregation.phrases.findSome? (readPhrase · ((' ' :: "(SELECT".toList).drop n)) = none := by
    decide
  refine Nat.count_iff_forall_not.mpr fun n hn h => ?_
  obtain ⟨-, rest, hopens⟩ := readsAt_aggregation_iff.mp h
  rw [← List.drop_drop, List.drop_left' rfl] at hopens
  have hread := findSome?_aggregation_iff.mpr ⟨rfl, hopens⟩
  rw [hnone n hn] at hread
  cases hread

/-- Before the text that is added calls are found where they were, and where one was begun. -/
theorem readsAt_open_iff {text : List Char} {n : Nat} (hn : n ≤ text.length) :
    aggregation.ReadsAt (text ++ ' ' :: "(SELECT".toList) n ↔
      aggregation.ReadsAt text n ∨ BeginsCall text n := by
  have hadded : "(SELECT".toList = '(' :: "SELECT".toList := by decide
  rw [readsAt_aggregation_iff, readsAt_aggregation_iff, List.take_append_of_le_length hn,
    List.drop_append_of_le_length hn, hadded, exists_opensCall_append_iff, BeginsCall, and_or_left]

theorem count_aggregation_open : aggregation.count (base ++ " (SELECT") =
    aggregation.count base + if EndsInAggregate base then 1 else 0 := by
  rw [apart_aggregation.count_eq, apart_aggregation.count_eq, toList_open, List.length_append,
    Nat.count_add, count_readsAt_open, Nat.add_zero]
  split
  · next h =>
    obtain ⟨front, word, htrim, hf, hword⟩ := h
    have hbegins := fun n => beginsCall_iff (n := n) htrim hf hword
    have hlast : BeginsCall base.toList front.length := (hbegins front.length).mpr rfl
    refine count_insert hlast.lt_length hlast.not_readsAt fun n hn => ?_
    rw [readsAt_open_iff hn.le, hbegins]
  · next h =>
    refine count_congr fun n hn => ?_
    rw [readsAt_open_iff hn.le, or_iff_left]
    rintro ⟨hf, word, gap, hdrop, hword, hgap⟩
    refine h ⟨base.toList.take n, word, ?_, hf, hword⟩
    rw [← trimEnd_word (hword.ne_nil keywords_aggregates) (hword.isNameChar keywords_aggregates)
      hgap, ← hdrop, List.take_append_drop]

theorem count_breaks_open :
    (base ++ " (SELECT").toList.count '\n' = base.toList.count '\n' := by
  simp

theorem Complexity.weight_open : weight (base ++ " (SELECT") =
    weight base + if EndsInAggregate base then 4 else 3 := by
  rw [weight, count_subquery_open, count_join_open, count_aggregation_open, count_caseWord_open,
    weight]
  split <;> omega

/-- A subquery behind a text counts once, and nothing else is counted with it but a call whose name
the text ends in. -/
theorem Complexity.subquery_appended (h : weight (base ++ " (SELECT") < 2 ^ 32) :
    (ofScript (base ++ " (SELECT")).subqueries.toNat = (ofScript base).subqueries.toNat + 1 ∧
    (ofScript (base ++ " (SELECT")).joins = (ofScript base).joins ∧
    (ofScript (base ++ " (SELECT")).caseStatements = (ofScript base).caseStatements ∧
    (ofScript (base ++ " (SELECT")).lines = (ofScript base).lines ∧
    (ofScript (base ++ " (SELECT")).aggregations.toNat =
      (ofScript base).aggregations.toNat + (if EndsInAggregate base then 1 else 0) ∧
    (ofScript (base ++ " (SELECT")).score.toNat =
      (ofScript base).score.toNat + if EndsInAggregate base then 4 else 3 := by
  have hweight := weight_open base
  have hwhole := isExact_of_weight_lt h
  have hbase : IsExact base := isExact_of_weight_lt (by omega)
  refine ⟨?_, ?_, ?_, ?_, ?_, ?_⟩
  · rw [hwhole.subqueries, hbase.subqueries, count_subquery_open]
  · exact congrArg UInt32.ofNat (count_join_open base)
  · exact congrArg UInt32.ofNat (count_caseWord_open base)
  · exact congrArg (fun n => UInt32.ofNat (n + 1)) (count_breaks_open base)
  · rw [hwhole.aggregations, hbase.aggregations, count_aggregation_open]
  · rw [hwhole.score, hbase.score, hweight]

/-- A name in other letters that are the same up to case, and one with a word character before it.
-/
theorem Complexity.subquery_appended_folded :
    weight ("SELECT \u017fum\n" ++ " (SELECT") < 2 ^ 32 ∧
      (ofScript ("SELECT \u017fum\n" ++ " (SELECT")).score.toNat = 0 + 4 ∧
      (ofScript ("SELECT checksum" ++ " (SELECT")).score.toNat = 0 + 3 := by
  have hcall : weight ("SELECT \u017fum\n" ++ " (SELECT") < 2 ^ 32 := by decide +kernel
  have hplain : weight ("SELECT checksum" ++ " (SELECT") < 2 ^ 32 := by decide +kernel
  have hends : EndsInAggregate "SELECT \u017fum\n" ∧ ¬EndsInAggregate "SELECT checksum" := by
    decide +kernel
  have hscores : (ofScript "SELECT \u017fum\n").score.toNat = 0 ∧
      (ofScript "SELECT checksum").score.toNat = 0 := by decide +kernel
  obtain ⟨-, -, -, -, -, hscore⟩ := subquery_appended "SELECT \u017fum\n" hcall
  obtain ⟨-, -, -, -, -, hscore'⟩ := subquery_appended "SELECT checksum" hplain
  rw [if_pos hends.1, hscores.1] at hscore
  rw [if_neg hends.2, hscores.2] at hscore'
  exact ⟨hcall, hscore, hscore'⟩

end Subquery

end Cutover
