import Cutover.Proofs.Script.Complexity
import Cutover.Proofs.Script.Window
import Cutover.Script.Analysis
import Mathlib.Data.List.Nodup
import Mathlib.Tactic.Common

/-!
# Findings of two statements

Everything that is looked for in a script is looked for within one statement: a semicolon at the
end of a line is part of none of it. So what is found in two statements is what is found in either,
and a statement more never makes a script look simpler.
-/
namespace Cutover

open Text

theorem toList_lines (a b : String) :
    (a ++ ";\n" ++ b).toList = a.toList ++ ';' :: ("\n" ++ b).toList := by
  simp

section Patterns

/-- Whether the piece is not read across a semicolon at the end of a line. -/
def Text.Piece.staysInStatement : Piece → Bool
  | .later w => !w.toList.isEmpty &&
      w.toList.all fun l => !sameLetter l ';' && !sameLetter l '\n'
  | p => p.spares ';'

theorem Text.Piece.stopsAt_of_staysInStatement {p : Piece} (h : p.staysInStatement = true)
    (s : List Char) : p.StopsAt (';' :: '\n' :: s) := by
  cases p with
  | later w =>
    simp only [staysInStatement, Bool.and_eq_true, Bool.not_eq_true', List.all_eq_true,
      List.isEmpty_eq_false_iff] at h
    obtain ⟨hne, hletters⟩ := h
    exact stopsAt_later (fun l hl => (hletters l hl).1) (fun l hl => (hletters l hl).2) hne s
  | _ => exact stopsAt_of_spares (by simpa only [staysInStatement] using h) ('\n' :: s)

namespace Text.Pattern

/-- Whether no match of the pattern begins with the end of a statement or reaches over it. -/
def staysInStatement (p : Pattern) : Bool :=
  p.refuses ';' && p.refuses '\n' && p.phrases.all (·.all (·.staysInStatement))

variable {p : Pattern} (h : p.staysInStatement = true) (a b : String)

include h

theorem cutAt_statement : p.CutAt a.toList (';' :: ("\n" ++ b).toList) := by
  have hline : ("\n" ++ b).toList = '\n' :: b.toList := by simp
  simp only [staysInStatement, Bool.and_eq_true, List.all_eq_true] at h
  rw [hline]
  exact cutAt_of_stopsAt
    (fun ps hps x hx => Piece.stopsAt_of_staysInStatement (h.2 ps hps x hx) _) _

theorem matches_statements : p.matches (a ++ ";\n" ++ b) = p.matches a ++ p.matches b := by
  have hcut := cutAt_statement h a b
  simp only [staysInStatement, Bool.and_eq_true] at h
  have hline : p.matches ("\n" ++ b) = p.matches "" ++ p.matches b :=
    cutAt_nil.matches_append (by simp) h.1.2 (by decide)
  rw [hcut.matches_append (toList_lines a b) h.1.1 (by decide), hline]
  rfl

theorem found_statements : p.found (a ++ ";\n" ++ b) = (p.found a || p.found b) := by
  have hcut := cutAt_statement h a b
  simp only [staysInStatement, Bool.and_eq_true] at h
  have hline : p.found ("\n" ++ b) = (p.found "" || p.found b) :=
    cutAt_nil.found_append (by simp) h.1.2 (by decide)
  rw [hcut.found_append (toList_lines a b) h.1.1 (by decide), hline]
  rfl

end Text.Pattern

end Patterns

section Order

/-- Something that either of two searches looks for is there if one of them finds something. -/
theorem any_eq_or {α : Type} {l : List α} {p q r : α → Bool}
    (h : ∀ x ∈ l, r x = (p x || q x)) : l.any r = (l.any p || l.any q) := by
  rw [Bool.eq_iff_iff, Bool.or_eq_true, List.any_eq_true, List.any_eq_true, List.any_eq_true]
  constructor
  · rintro ⟨x, hx, hr⟩
    rw [h x hx, Bool.or_eq_true] at hr
    exact hr.imp (fun hp => ⟨x, hx, hp⟩) fun hq => ⟨x, hx, hq⟩
  · rintro (⟨x, hx, hp⟩ | ⟨x, hx, hq⟩)
    · exact ⟨x, hx, by rw [h x hx, hp, Bool.true_or]⟩
    · exact ⟨x, hx, by rw [h x hx, hq, Bool.or_true]⟩

variable {α γ : Type} [DecidableEq γ]

/-- The one of two findings that comes first in an order. -/
def firstOf (order : List γ) (x y : γ) : Option γ := order.find? fun z => z = x ∨ z = y

/-- What is found first of all that either of two searches looks for is the first of what each of
them finds. -/
theorem firstOf_find? {f : α → γ} {e : γ} {l : List α} (hl : (l.map f ++ [e]).Nodup)
    {p q r : α → Bool} (h : ∀ x ∈ l, r x = (p x || q x)) :
    firstOf (l.map f ++ [e]) ((l.find? p).elim e f) ((l.find? q).elim e f) =
      some ((l.find? r).elim e f) := by
  have hmem : ∀ (p : α → Bool) (l : List α), (l.find? p).elim e f ∈ l.map f ++ [e] := by
    intro p l
    cases hx : l.find? p with
    | none => simp
    | some x => simpa using .inl ⟨x, List.mem_of_find?_eq_some hx, rfl⟩
  induction l with
  | nil => simp [firstOf]
  | cons x l ih =>
    obtain ⟨hx, hrest⟩ := List.nodup_cons.mp hl
    obtain ⟨hr, htail⟩ := List.forall_mem_cons.mp h
    have hne : ∀ p, f x ≠ (l.find? p).elim e f := fun p he => hx (he ▸ hmem p l)
    have hnext := ih hrest htail
    simp only [firstOf] at hnext ⊢
    cases hp : p x with
    | true => simp [hr, hp]
    | false =>
      cases hq : q x with
      | true => simp [hr, hp, hq]
      | false =>
        -- what neither search takes is not what one of them finds further on
        simp only [List.map_cons, List.cons_append, List.find?_cons, hr, hp, hq, hne, Bool.or_self,
          or_self, decide_false]
        exact hnext

end Order

section Findings

variable (a b : String)

theorem LoadKind.staysInStatement (k : LoadKind) : k.pattern.staysInStatement = true := by
  cases k <;> decide

/-- The idiom of two statements is the one of either that is tried first. -/
theorem LoadKind.detect?_statements :
    firstOf (all.map some ++ [none]) (detect? a) (detect? b) =
      some (detect? (a ++ ";\n" ++ b)) := by
  have helim : ∀ k : Option LoadKind, k.elim none some = k := by rintro (_ | _) <;> rfl
  have hfirst := firstOf_find? (f := some) (e := none) (l := all) (by decide)
    fun k _ => Pattern.found_statements k.staysInStatement a b
  simpa only [helim, detect?] using hfirst

theorem LoadKind.isSome_detect?_statements :
    (detect? (a ++ ";\n" ++ b)).isSome = ((detect? a).isSome || (detect? b).isSome) := by
  have hsome : ∀ sql, (detect? sql).isSome = all.any (·.pattern.found sql) := by
    intro sql
    rw [detect?, List.isSome_find?]
  rw [hsome, hsome, hsome]
  exact any_eq_or fun k _ => Pattern.found_statements k.staysInStatement a b

/-- Of constructs with different labels, a label is reported if its own construct is found. -/
theorem mem_constructsIn_iff {constructs : List Construct}
    (hlabels : (constructs.map (·.label)).Nodup) {k : Construct} (hk : k ∈ constructs)
    {sql : String} : k.label ∈ constructsIn constructs sql ↔ k.pattern.found sql = true := by
  simp only [constructsIn, List.mem_map, List.mem_filter]
  constructor
  · rintro ⟨k', ⟨hk', hfound⟩, hlabel⟩
    rwa [← List.inj_on_of_nodup_map hlabels hk' hk hlabel]
  · exact fun hfound => ⟨k, ⟨hk, hfound⟩, rfl⟩

/-- Of constructs with different labels, those found in two statements are those found in either. -/
theorem constructsIn_statements {constructs : List Construct}
    (hstays : ∀ k ∈ constructs, k.pattern.staysInStatement = true)
    (hlabels : (constructs.map (·.label)).Nodup) :
    constructsIn constructs (a ++ ";\n" ++ b) = (constructs.map (·.label)).filter fun label =>
      label ∈ constructsIn constructs a ∨ label ∈ constructsIn constructs b := by
  rw [List.filter_map, constructsIn]
  refine congrArg _ (List.filter_congr fun k hk => ?_)
  simp [mem_constructsIn_iff hlabels hk, Pattern.found_statements (hstays k hk)]

theorem Dialect.mysql_statements :
    (ofScript (a ++ ";\n" ++ b)).mysql = (mysqlConstructs.map (·.label)).filter fun label =>
      label ∈ (ofScript a).mysql ∨ label ∈ (ofScript b).mysql :=
  constructsIn_statements a b (by decide) (by decide)

theorem Dialect.postgres_statements :
    (ofScript (a ++ ";\n" ++ b)).postgres = (postgresConstructs.map (·.label)).filter fun label =>
      label ∈ (ofScript a).postgres ∨ label ∈ (ofScript b).postgres :=
  constructsIn_statements a b (by decide) (by decide)

theorem isEmpty_constructsIn (constructs : List Construct) (sql : String) :
    (constructsIn constructs sql).isEmpty = !constructs.any (·.pattern.found sql) := by
  rw [Bool.eq_iff_iff]
  simp [constructsIn]

theorem isEmpty_constructsIn_statements {constructs : List Construct}
    (hstays : ∀ k ∈ constructs, k.pattern.staysInStatement = true) :
    (constructsIn constructs (a ++ ";\n" ++ b)).isEmpty =
      ((constructsIn constructs a).isEmpty && (constructsIn constructs b).isEmpty) := by
  have hany : constructs.any (·.pattern.found (a ++ ";\n" ++ b)) =
      (constructs.any (·.pattern.found a) || constructs.any (·.pattern.found b)) :=
    any_eq_or fun k hk => Pattern.found_statements (hstays k hk) a b
  simp only [isEmpty_constructsIn, hany, Bool.not_or]

theorem Dialect.generic_statements :
    (ofScript (a ++ ";\n" ++ b)).generic = ((ofScript a).generic && (ofScript b).generic) := by
  have hmysql : ∀ k ∈ mysqlConstructs, k.pattern.staysInStatement = true := by decide
  have hpostgres : ∀ k ∈ postgresConstructs, k.pattern.staysInStatement = true := by decide
  simp only [ofScript, isEmpty_constructsIn_statements a b hmysql,
    isEmpty_constructsIn_statements a b hpostgres]
  ac_rfl

/-- A word that the end of a statement is no part of stands in one of two statements. -/
theorem occursIn_lower_statements {word : List Char}
    (hword : word ≠ [] ∧ ';' ∉ word ∧ '\n' ∉ word) :
    occursIn word (lower (a ++ ";\n" ++ b).toList) =
      (occursIn word (lower a.toList) || occursIn word (lower b.toList)) := by
  obtain ⟨hne, hsemicolon, hline⟩ := hword
  have hend : lower ";\n".toList = [';', '\n'] := by decide
  have hlower : lower (a ++ ";\n" ++ b).toList =
      lower a.toList ++ ';' :: ([] ++ '\n' :: lower b.toList) := by
    rw [String.toList_append, String.toList_append, lower_append, lower_append, hend,
      List.append_assoc]
    rfl
  have hnil : occursIn word [] = false := by simpa [occursIn] using hne
  rw [hlower, occursIn_append_cons hsemicolon hne, occursIn_append_cons hline hne, hnil,
    Bool.false_or]

/-- The domain of two statements is the one of either that is tried first. -/
theorem Domain.ofScript_statements :
    firstOf (keywords.map (·.1) ++ [.common]) (ofScript a) (ofScript b) =
      some (ofScript (a ++ ";\n" ++ b)) := by
  have helim : ∀ sql, ofScript sql = (keywords.find? fun k =>
      k.2.any fun w => occursIn w.toList (lower sql.toList)).elim common (·.1) := by
    intro sql
    rw [ofScript]
    cases keywords.find? fun k => k.2.any fun w => occursIn w.toList (lower sql.toList) <;> rfl
  have hwords : ∀ k ∈ keywords, ∀ w ∈ k.2, w.toList ≠ [] ∧ ';' ∉ w.toList ∧ '\n' ∉ w.toList := by
    decide
  rw [helim, helim, helim]
  refine firstOf_find? (by decide) fun k hk => ?_
  exact any_eq_or fun w hw => occursIn_lower_statements a b (hwords k hk w hw)

theorem Complexity.weight_statements : weight (a ++ ";\n" ++ b) = weight a + weight b := by
  have hall : ∀ p ∈ [subquery, join, aggregation, caseWord], p.staysInStatement = true := by
    decide
  refine weight_of_counts fun p hp => ?_
  rw [Pattern.count, Pattern.matches_statements (hall p hp), List.length_append]
  rfl

/-- A statement more is no lower score, as long as the score fits into a word. -/
theorem Complexity.score_le_statements {a b : String} (h : weight (a ++ ";\n" ++ b) < 2 ^ 32) :
    (ofScript a).score ≤ (ofScript (a ++ ";\n" ++ b)).score ∧
      (ofScript b).score ≤ (ofScript (a ++ ";\n" ++ b)).score := by
  have hweight := weight_statements a b
  have hwhole := (isExact_of_weight_lt h).score
  have ha : IsExact a := isExact_of_weight_lt (by omega)
  have hb : IsExact b := isExact_of_weight_lt (by omega)
  rw [UInt32.le_iff_toNat_le, UInt32.le_iff_toNat_le, hwhole, ha.score, hb.score]
  omega

end Findings

section Recommendation

theorem Level.ofScore_eq_high_iff {score : UInt32} : ofScore score = .high ↔ 20 < score := by
  unfold ofScore
  split
  · simp_all
  · split <;> simp_all

/-- A finding more, or a harder script, is never a reason further down. -/
theorem Outcome.recommend_le {i i' g g' : Bool} {l l' : Level} (hi : i = true → i' = true)
    (hl : l = .high → l' = .high) (hg : g' = true → g = true) :
    all.idxOf (recommend i' l' g') ≤ all.idxOf (recommend i l g) := by
  -- the order of reasons is a table of finitely many cases
  revert hi hl hg
  cases i <;> cases i' <;> cases g <;> cases g' <;> cases l <;> cases l' <;> decide

/-- What is recommended for a script with more findings is no reason further down. -/
theorem Analysis.outcome_le {e : TableExtractor} {tools : ToolNames} {file file' sql sql' : String}
    (hkind : (LoadKind.detect? sql).isSome = true → (LoadKind.detect? sql').isSome = true)
    (hscore : (Complexity.ofScript sql).score ≤ (Complexity.ofScript sql').score)
    (hgeneric : (Dialect.ofScript sql').generic = true → (Dialect.ofScript sql).generic = true) :
    Outcome.all.idxOf (ofScript e tools file' sql').outcome ≤
      Outcome.all.idxOf (ofScript e tools file sql).outcome := by
  refine Outcome.recommend_le hkind (fun hhigh => ?_) hgeneric
  have hhard := Level.ofScore_eq_high_iff.mp hhigh
  exact Level.ofScore_eq_high_iff.mpr (UInt32.lt_of_lt_of_le hhard hscore)

/-- Of two statements everything that is found in either is found, the first in each order where
only one can be told, and unless their score is too large for a word, what is recommended for both
is no reason further down than what is recommended for either. -/
theorem Analysis.findings_compose (a b : String) :
    firstOf [some .mysqlUpsert, some .postgresUpsert, some .merge, some .timeFilter, none]
      (LoadKind.detect? a) (LoadKind.detect? b) = some (LoadKind.detect? (a ++ ";\n" ++ b)) ∧
    ((Dialect.ofScript (a ++ ";\n" ++ b)).mysql =
      (mysqlConstructs.map (·.label)).filter fun label =>
        label ∈ (Dialect.ofScript a).mysql ∨ label ∈ (Dialect.ofScript b).mysql) ∧
    ((Dialect.ofScript (a ++ ";\n" ++ b)).postgres =
      (postgresConstructs.map (·.label)).filter fun label =>
        label ∈ (Dialect.ofScript a).postgres ∨ label ∈ (Dialect.ofScript b).postgres) ∧
    (Dialect.ofScript (a ++ ";\n" ++ b)).generic =
      ((Dialect.ofScript a).generic && (Dialect.ofScript b).generic) ∧
    firstOf (Domain.keywords.map (·.1) ++ [.common]) (Domain.ofScript a) (Domain.ofScript b) =
      some (Domain.ofScript (a ++ ";\n" ++ b)) ∧
    (TimeRange.ofScript? (a ++ ";\n" ++ b) =
      (TimeRange.ofScript? a).orElse fun _ => TimeRange.ofScript? b) ∧
    ∀ (e : TableExtractor) (tools : ToolNames) (file first second : String),
      Complexity.weight (a ++ ";\n" ++ b) < 2 ^ 32 →
      Outcome.all.idxOf (ofScript e tools file (a ++ ";\n" ++ b)).outcome ≤
        Outcome.all.idxOf (ofScript e tools first a).outcome ∧
      Outcome.all.idxOf (ofScript e tools file (a ++ ";\n" ++ b)).outcome ≤
        Outcome.all.idxOf (ofScript e tools second b).outcome := by
  have hkind := LoadKind.isSome_detect?_statements a b
  have hgeneric := Dialect.generic_statements a b
  refine ⟨LoadKind.detect?_statements a b, Dialect.mysql_statements a b,
    Dialect.postgres_statements a b, hgeneric, Domain.ofScript_statements a b,
    TimeRange.ofScript?_statements a b, fun e tools file first second hbound => ⟨?_, ?_⟩⟩
  · refine outcome_le (fun h => ?_) (Complexity.score_le_statements hbound).1 fun h => ?_
    · rw [hkind, h, Bool.true_or]
    · exact (Bool.and_eq_true_iff.mp (hgeneric ▸ h)).1
  · refine outcome_le (fun h => ?_) (Complexity.score_le_statements hbound).2 fun h => ?_
    · rw [hkind, h, Bool.or_true]
    · exact (Bool.and_eq_true_iff.mp (hgeneric ▸ h)).2

/-- A plain query before a merge that belongs to a domain and looks back three months. -/
theorem Analysis.findings_compose_merge :
    let a := "SELECT * FROM t JOIN u"
    let b := "MERGE INTO stock_report WHERE d >= DATE_SUB(CURDATE(), INTERVAL 3 MONTH)"
    Complexity.weight (a ++ ";\n" ++ b) < 2 ^ 32 ∧
      LoadKind.detect? (a ++ ";\n" ++ b) = some .merge ∧
      Outcome.all.idxOf (ofScript .byKeyword {} "" (a ++ ";\n" ++ b)).outcome ≤
        Outcome.all.idxOf Outcome.incremental := by
  intro a b
  have hbound : Complexity.weight (a ++ ";\n" ++ b) < 2 ^ 32 := by decide +kernel
  have hfirst : LoadKind.detect? a = none ∧ LoadKind.detect? b = some .merge := by decide +kernel
  have houtcome : (ofScript .byKeyword {} "" b).outcome = .incremental := by decide +kernel
  obtain ⟨hkind, -, -, -, -, -, hreason⟩ := findings_compose a b
  rw [hfirst.1, hfirst.2] at hkind
  have hlater := (hreason .byKeyword {} "" "" "" hbound).2
  rw [houtcome] at hlater
  exact ⟨hbound, (Option.some.inj hkind).symm, hlater⟩

end Recommendation

end Cutover
