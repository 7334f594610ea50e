import Cutover.Proofs.Script.FirstWindow
import Cutover.Proofs.Script.Statements
import Cutover.Proofs.Text.Match

/-!
# Findings that agree

Some constructs are looked for more than once: an upsert is an idiom of incremental loading and a
construct of a dialect, and a look-back window is made of two functions of MySQL. Each search has
its own pattern or reader. What they find in one script never contradicts each other, and a plain
script is one in which none of them finds anything.
-/
namespace Cutover

open Text

section Words

/-- Fixed letters are found in a text if they stand in it up to case. -/
theorem Text.Pattern.found_letters_iff {word : String} (hne : word.toList ≠ []) {text : String} :
    (⟨false, [[.letters word]]⟩ : Pattern).found text = true ↔
      word.toList.map fold <:+: text.toList.map fold := by
  have hread : ∀ before s, (⟨false, [[.letters word]]⟩ : Pattern).readAt before s =
      (readFolded word.toList s).map ([], ·) := by
    intro before s
    rw [readAt, if_neg (by simp), List.findSome?_singleton, readPhrase_singleton, Piece.read]
  have hnil : ∀ before, (⟨false, [[.letters word]]⟩ : Pattern).readAt before [] = none := by
    intro before
    obtain ⟨l, letters, hword⟩ := List.exists_cons_of_ne_nil hne
    rw [hread, hword, readFolded, Option.map_none]
  simp only [found_iff hnil, hread, Option.isSome_map, Option.isSome_iff_exists,
    readFolded_eq_some_iff]
  constructor
  · rintro ⟨front, _, htext, rest, x, rfl, hx⟩
    exact ⟨front.map fold, rest.map fold, by simp [htext, hx]⟩
  · rintro ⟨before, behind, htext⟩
    rw [List.append_assoc] at htext
    obtain ⟨front, s, hfront, -, hs⟩ := List.map_eq_append_iff.mp htext.symm
    obtain ⟨x, rest, rfl, hx, -⟩ := List.map_eq_append_iff.mp hs
    exact ⟨front, x ++ rest, hfront, rest, x, rfl, hx⟩

end Words

section Idioms

/-- What is found first satisfies the condition, and nothing that stands before it does. -/
theorem find?_eq_some_iff_takeWhile {α : Type} [DecidableEq α] {l : List α} {p : α → Bool} {x : α}
    (hx : x ∈ l) :
    l.find? p = some x ↔ p x = true ∧ ∀ y ∈ l.takeWhile (· ≠ x), p y = false := by
  induction l with
  | nil => simp at hx
  | cons y l ih =>
    by_cases hy : y = x
    · subst hy
      have hfirst : p y = false → l.find? p ≠ some y := fun hp he => by
        simp [List.find?_some he] at hp
      cases hp : p y <;> simp [hp, hfirst]
    · have hrest := ih ((List.mem_cons.mp hx).resolve_left (Ne.symm hy))
      cases hp : p y <;> simp_all

variable {sql : String}

/-- An idiom is told if it is found and none that is tried before it. -/
theorem LoadKind.detect?_eq_some_iff {k : LoadKind} : detect? sql = some k ↔
    k.pattern.found sql = true ∧ ∀ j ∈ all.takeWhile (· ≠ k), j.pattern.found sql = false :=
  find?_eq_some_iff_takeWhile (by cases k <;> decide)

theorem LoadKind.detect?_eq_mysqlUpsert_iff :
    detect? sql = some .mysqlUpsert ↔ mysqlUpsert.pattern.found sql = true := by
  have hnone : all.takeWhile (· ≠ mysqlUpsert) = [] := by decide
  rw [detect?_eq_some_iff, hnone]
  simp

theorem LoadKind.detect?_eq_postgresUpsert_iff : detect? sql = some .postgresUpsert ↔
    postgresUpsert.pattern.found sql = true ∧ detect? sql ≠ some .mysqlUpsert := by
  have hone : all.takeWhile (· ≠ postgresUpsert) = [mysqlUpsert] := by decide
  rw [detect?_eq_some_iff, hone, Ne, detect?_eq_mysqlUpsert_iff]
  simp

@[simp] theorem Incremental.kind_ofKind (kind : Option LoadKind) (tool : String) :
    (ofKind kind tool).kind = kind := by
  cases kind <;> rfl

@[simp] theorem Incremental.detected_ofKind (kind : Option LoadKind) (tool : String) :
    (ofKind kind tool).detected = kind.isSome := by
  cases kind <;> rfl

end Idioms

section Constructs

variable {sql : String}

theorem Dialect.mem_mysql_iff {k : Construct} (hk : k ∈ mysqlConstructs) :
    k.label ∈ (ofScript sql).mysql ↔ k.pattern.found sql = true :=
  mem_constructsIn_iff (by decide) hk

theorem Dialect.mem_postgres_iff {k : Construct} (hk : k ∈ postgresConstructs) :
    k.label ∈ (ofScript sql).postgres ↔ k.pattern.found sql = true :=
  mem_constructsIn_iff (by decide) hk

theorem Dialect.generic_iff :
    (ofScript sql).generic = true ↔ (ofScript sql).mysql = [] ∧ (ofScript sql).postgres = [] := by
  simp [ofScript]

/-- Where there is a window, there is the beginning of one. -/
theorem Window.anchor_infix_of_first? {s : List Char} {w : Nat × TimeUnit}
    (h : first? s = some w) : anchor <:+: s.map Char.toLower := by
  obtain ⟨n, hread, -⟩ := first?_eq_some_iff.mp h
  have hrest : (s.drop n).map Char.toLower <:+: s.map Char.toLower :=
    (List.drop_suffix n s).isInfix.map Char.toLower
  exact (anchor_prefix_of_readAt hread).isInfix.trans hrest

/-- A function of MySQL whose letters stand in the beginning of a window is reported of each script
with a window. -/
theorem TimeRange.mem_mysql {range : TimeRange} (h : ofScript? sql = some range)
    (label word : String) (hk : ⟨label, ⟨false, [[.letters word]]⟩⟩ ∈ mysqlConstructs)
    (hne : word.toList ≠ []) (hword : word.toList.map fold <:+: Window.anchor.map fold) :
    label ∈ (Dialect.ofScript sql).mysql := by
  obtain ⟨w, hw, -⟩ := Option.map_eq_some_iff.mp h
  have hanchor := (Window.anchor_infix_of_first? hw).map fold
  simp only [List.map_map, Function.comp_def, fold_toLower] at hanchor
  have hfound := (Pattern.found_letters_iff hne).mpr (hword.trans hanchor)
  exact (Dialect.mem_mysql_iff hk).mpr hfound

/-- A window is made of two functions of MySQL. -/
theorem TimeRange.functions_mem_mysql {range : TimeRange} (h : ofScript? sql = some range) :
    "CURDATE()" ∈ (Dialect.ofScript sql).mysql ∧ "DATE_SUB()" ∈ (Dialect.ofScript sql).mysql :=
  ⟨mem_mysql h "CURDATE()" "CURDATE()" (by simp [mysqlConstructs]) (by decide)
      (by decide +kernel),
    mem_mysql h "DATE_SUB()" "DATE_SUB(" (by simp [mysqlConstructs]) (by decide)
      (by decide +kernel)⟩

/-- The upserts are looked for among the constructs of the dialects as they are among the idioms. -/
theorem LoadKind.upserts_mem_constructs :
    ⟨"ON DUPLICATE KEY UPDATE", mysqlUpsert.pattern⟩ ∈ mysqlConstructs ∧
      ⟨"ON CONFLICT", postgresUpsert.pattern⟩ ∈ postgresConstructs := by
  simp [mysqlConstructs, postgresConstructs, pattern]

theorem LoadKind.detect?_eq_mysqlUpsert_iff_mem : detect? sql = some .mysqlUpsert ↔
    "ON DUPLICATE KEY UPDATE" ∈ (Dialect.ofScript sql).mysql :=
  detect?_eq_mysqlUpsert_iff.trans (Dialect.mem_mysql_iff upserts_mem_constructs.1).symm

theorem LoadKind.detect?_eq_postgresUpsert_iff_mem : detect? sql = some .postgresUpsert ↔
    "ON CONFLICT" ∈ (Dialect.ofScript sql).postgres ∧ detect? sql ≠ some .mysqlUpsert :=
  detect?_eq_postgresUpsert_iff.trans
    (and_congr_left fun _ => (Dialect.mem_postgres_iff upserts_mem_constructs.2).symm)

end Constructs

section Agreement

theorem Outcome.recommend_eq_simpleTransform_iff {i g : Bool} {l : Level} :
    recommend i l g = .simpleTransform ↔ i = false ∧ g = true ∧ l ≠ .high := by
  cases i <;> cases g <;> cases l <;> decide

theorem Analysis.simpleTransform_iff (e : TableExtractor) (tools : ToolNames)
    (file sql : String) : (ofScript e tools file sql).outcome = .simpleTransform ↔
      LoadKind.detect? sql = none ∧ (Dialect.ofScript sql).generic = true ∧
        (Complexity.ofScript sql).score ≤ 20 := by
  have hlevel : (Complexity.ofScript sql).level ≠ .high ↔ (Complexity.ofScript sql).score ≤ 20 :=
    Level.ofScore_eq_high_iff.not.trans UInt32.not_lt
  rw [ofScript, Outcome.recommend_eq_simpleTransform_iff, hlevel, Option.isSome_eq_false_iff,
    Option.isNone_iff_eq_none]

/-- The findings of one analysis agree. A window comes with the two functions of MySQL that it is
made of, an upsert of either kind with the construct of its dialect, and a script is plain just if
it loads nothing incrementally, keeps to what both systems know and is not complex; it then has no
window. -/
theorem Analysis.facets_agree (e : TableExtractor) (tools : ToolNames) (file sql : String) :
    let a := ofScript e tools file sql
    (∀ range, a.timeRange = some range →
      "CURDATE()" ∈ a.dialect.mysql ∧ "DATE_SUB()" ∈ a.dialect.mysql) ∧
    (a.incremental.kind = some .mysqlUpsert ↔ "ON DUPLICATE KEY UPDATE" ∈ a.dialect.mysql) ∧
    (a.incremental.kind = some .postgresUpsert ↔
      "ON CONFLICT" ∈ a.dialect.postgres ∧ a.incremental.kind ≠ some .mysqlUpsert) ∧
    (a.outcome = .simpleTransform ↔ a.incremental.detected = false ∧ a.dialect.mysql = [] ∧
      a.dialect.postgres = [] ∧ a.complexity.score ≤ 20) ∧
    (a.outcome = .simpleTransform → a.timeRange = none) := by
  intro a
  have hwindow : ∀ range, a.timeRange = some range →
      "CURDATE()" ∈ a.dialect.mysql ∧ "DATE_SUB()" ∈ a.dialect.mysql :=
    fun _ h => TimeRange.functions_mem_mysql h
  have hkind : a.incremental.kind = LoadKind.detect? sql := Incremental.kind_ofKind _ _
  have hdetected : a.incremental.detected = (LoadKind.detect? sql).isSome :=
    Incremental.detected_ofKind _ _
  have hplain : a.outcome = .simpleTransform ↔ a.incremental.detected = false ∧
      a.dialect.mysql = [] ∧ a.dialect.postgres = [] ∧ a.complexity.score ≤ 20 := by
    rw [simpleTransform_iff, Dialect.generic_iff, hdetected, Option.isSome_eq_false_iff,
      Option.isNone_iff_eq_none, and_assoc]
    rfl
  refine ⟨hwindow, ?_, ?_, hplain, fun h => ?_⟩
  · rw [hkind]
    exact LoadKind.detect?_eq_mysqlUpsert_iff_mem
  · rw [hkind]
    exact LoadKind.detect?_eq_postgresUpsert_iff_mem
  · refine Option.eq_none_iff_forall_ne_some.mpr fun range hrange => ?_
    have hmysql := (hwindow range hrange).1
    rw [(hplain.mp h).2.1] at hmysql
    cases hmysql

end Agreement

end Cutover
