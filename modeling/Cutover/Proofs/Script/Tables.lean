import Cutover.Proofs.Text.Occurrence
import Cutover.Script.Tables

/-!
# Which names are tables

The tables of a script are the operands of its keywords, told by where the keywords stand: those
after FROM, JOIN and INTO, and those after an UPDATE that no KEY or DO stands before. A keyword
that is itself the operand of one that was read is passed over with it.
-/
namespace Cutover

open Text

/-- The words that a table is named after. -/
def referenceWords : List String := ["FROM", "JOIN", "INTO"]

def updateWords : List String := ["UPDATE"]

/-- The words before an UPDATE that belongs to an upsert clause. -/
def guardWords : List String := ["KEY", "DO"]

theorem keywords_reference : Keywords referenceWords := ⟨by decide, by decide, by decide⟩

theorem keywords_update : Keywords updateWords := ⟨by decide, by decide, by decide⟩

theorem keywords_guard : Keywords guardWords := ⟨by decide, by decide, by decide⟩

namespace Text.Occurrence

variable {text : List Char} {o p q : Occurrence text}

/-- Where a guard stands no UPDATE does. -/
theorem not_isOf_update (hp : p.IsOf guardWords) (h : p.start = q.start) :
    ¬q.IsOf updateWords :=
  not_isOf_of_start_eq keywords_guard hp keywords_update (by decide) h

/-- Whether an occurrence does not stand where an UPDATE that counts has its operand. -/
def IsFree (o : Occurrence text) : Prop :=
  ∀ q : Occurrence text, q.Precedes o → ¬q.Counts updateWords

/-- Whether a guard stands before the place, and is not the operand of an UPDATE that counts. -/
def IsGuarded (o : Occurrence text) : Prop :=
  ∃ p : Occurrence text, p.IsOf guardWords ∧ p.Precedes o ∧ p.IsFree

theorem counts_update_iff :
    o.Counts updateWords ↔ o.IsOf updateWords ∧ o.operand ≠ [] ∧ o.IsFree := counts_iff

/-- Behind a guard no UPDATE has its operand. -/
theorem Precedes.isFree (h : p.Precedes o) (hp : p.IsOf guardWords) : o.IsFree := by
  intro q hq hcounts
  have hupdate := (counts_update_iff.mp hcounts).1
  exact not_isOf_update hp (h.start_eq keywords_guard hp keywords_update hupdate hq) hupdate

theorem IsGuarded.congr (h : q.IsGuarded) (hstart : q.start = o.start) : o.IsGuarded := by
  obtain ⟨p, hp, hprecedes, hfree⟩ := h
  have hbefore : o.before = q.before := by rw [← o.take_start, ← q.take_start, hstart]
  exact ⟨p, hp, hbefore.trans hprecedes, hfree⟩

end Text.Occurrence

namespace Updated

variable {text name : List Char} {n m stop : Nat} {o p q : Occurrence text}

theorem phrases_eq (s : List Char) : updated.phrases.findSome? (readPhrase · s) =
    (readPhrase [.anyOf guardWords, .gap, .anyOf updateWords, .gap, .name false] s).or
      (readPhrase [.anyOf updateWords, .gap, .name true] s) := by
  have hguarded : readPhrase [.anyOf ["KEY", "DO"], .gap, .letters "UPDATE", .gap, .name false] s =
      readPhrase [.anyOf guardWords, .gap, .anyOf updateWords, .gap, .name false] s := by
    simp only [readPhrase, read_letters, guardWords, updateWords]
  have hplain : readPhrase [.letters "UPDATE", .gap, .name true] s =
      readPhrase [.anyOf updateWords, .gap, .name true] s := by
    simp only [readPhrase, read_letters, updateWords]
  rw [updated, List.findSome?_cons, hguarded, List.findSome?_singleton, hplain]
  cases readPhrase [.anyOf guardWords, .gap, .anyOf updateWords, .gap, .name false] s <;> rfl

/-- A match is an UPDATE with an operand, or such an UPDATE together with a guard before it. -/
theorem matchAt?_iff : updated.matchAt? text n = some (name, stop) ↔
    (∃ q : Occurrence text, q.IsOf updateWords ∧ q.operand ≠ [] ∧ q.start = n ∧
      q.operand = name ∧ q.stop = stop) ∨
    ∃ p q : Occurrence text, p.IsOf guardWords ∧ p.Precedes q ∧ q.IsOf updateWords ∧
      q.operand ≠ [] ∧ p.start = n ∧ name = [] ∧ q.stop = stop := by
  rw [Pattern.matchAt?_eq_some_iff rfl]
  simp only [phrases_eq, Option.or_eq_some_iff]
  constructor
  · rintro ⟨hf, rest, hr | ⟨-, hr⟩, rfl⟩
    · obtain ⟨p, q, hb, hp, hprecedes, hq, hne, rfl, rfl⟩ := (readPhrase_guarded_iff keywords_guard
        keywords_update (List.take_append_drop n text) hf).mp hr
      exact .inr ⟨p, q, hp, hprecedes, hq, hne,
        (Occurrence.before_eq_take_iff (hp.ne_nil keywords_guard)).mp hb, rfl, rfl⟩
    · obtain ⟨q, hb, hq, hne, rfl, rfl⟩ := (readPhrase_operand_iff keywords_update
        (List.take_append_drop n text) hf).mp hr
      exact .inl ⟨q, hq, hne,
        (Occurrence.before_eq_take_iff (hq.ne_nil keywords_update)).mp hb, rfl, rfl⟩
  · rintro (⟨q, hq, hne, rfl, rfl, rfl⟩ | ⟨p, q, hp, hprecedes, hq, hne, rfl, rfl, rfl⟩)
    · have hf : (text.take q.start).getLast?.any isWord = false := q.take_start ▸ q.begins
      refine ⟨hf, q.after, .inr ⟨?_, ?_⟩, rfl⟩
      · refine Option.eq_none_iff_forall_not_mem.mpr fun r hr => ?_
        obtain ⟨p, x, hb, hp, -⟩ := (readPhrase_guarded_iff keywords_guard keywords_update
          (List.take_append_drop q.start text) hf).mp hr
        have hstart := (Occurrence.before_eq_take_iff (hp.ne_nil keywords_guard)).mp hb
        exact Occurrence.not_isOf_update hp hstart hq
      · exact (readPhrase_operand_iff keywords_update (List.take_append_drop q.start text) hf).mpr
          ⟨q, q.take_start.symm, hq, hne, rfl, rfl⟩
    · have hf : (text.take p.start).getLast?.any isWord = false := p.take_start ▸ p.begins
      exact ⟨hf, q.after, .inl ((readPhrase_guarded_iff keywords_guard keywords_update
        (List.take_append_drop p.start text) hf).mpr
          ⟨p, q, p.take_start.symm, hp, hprecedes, hq, hne, rfl, rfl⟩), rfl⟩

/-- What is known of the matches that begin at a position: an UPDATE is matched if it does not stand
as an operand and has no guard, and a guard of one if it does not stand as an operand. -/
structure Told (text : List Char) (n : Nat) : Prop where
  plain : ∀ q : Occurrence text, q.start = n → q.IsOf updateWords → q.operand ≠ [] →
    (updated.BeginsAt text n ↔ q.IsFree ∧ ¬q.IsGuarded)
  guarded : ∀ p q : Occurrence text, p.start = n → p.IsOf guardWords → p.Precedes q →
    q.IsOf updateWords → q.operand ≠ [] → (updated.BeginsAt text n ↔ p.IsFree)

/-- An UPDATE that counts is matched, alone or with its guard. -/
theorem exists_match (h : ∀ m < n, Told text m) (hq : q.Counts updateWords) (hlt : q.start < n) :
    ∃ m < n, updated.BeginsAt text m ∧ ∃ name, updated.matchAt? text m = some (name, q.stop) := by
  obtain ⟨hof, hne, hfree⟩ := Occurrence.counts_update_iff.mp hq
  by_cases hguarded : q.IsGuarded
  · obtain ⟨p, hp, hprecedes, hpfree⟩ := hguarded
    have hplt : p.start < n := hprecedes.start_lt.trans hlt
    exact ⟨p.start, hplt, ((h p.start hplt).guarded p q rfl hp hprecedes hof hne).mpr hpfree, [],
      matchAt?_iff.mpr (.inr ⟨p, q, hp, hprecedes, hof, hne, rfl, rfl, rfl⟩)⟩
  · exact ⟨q.start, hlt, ((h q.start hlt).plain q rfl hof hne).mpr ⟨hfree, hguarded⟩, q.operand,
      matchAt?_iff.mpr (.inl ⟨q, hof, hne, rfl, rfl, rfl⟩)⟩

/-- What is matched ends with an UPDATE that counts, and begins with it or with its guard. -/
theorem exists_counts (h : Told text m) (hb : updated.BeginsAt text m)
    (hm : updated.matchAt? text m = some (name, stop)) :
    ∃ q : Occurrence text, q.Counts updateWords ∧ q.stop = stop ∧
      (q.start = m ∨ ∃ p : Occurrence text, p.start = m ∧ p.IsOf guardWords ∧ p.Precedes q ∧
        p.IsFree) := by
  rcases matchAt?_iff.mp hm with
    ⟨q, hq, hne, hstart, -, hstop⟩ | ⟨p, q, hp, hprecedes, hq, hne, hstart, -, hstop⟩
  · have hfree := ((h.plain q hstart hq hne).mp hb).1
    exact ⟨q, Occurrence.counts_update_iff.mpr ⟨hq, hne, hfree⟩, hstop, .inl hstart⟩
  · have hfree := (h.guarded p q hstart hp hprecedes hq hne).mp hb
    exact ⟨q, Occurrence.counts_update_iff.mpr ⟨hq, hne, hprecedes.isFree hp⟩, hstop,
      .inr ⟨p, hstart, hp, hprecedes, hfree⟩⟩

/-- A match that covers the start of a keyword has it as its operand, or as its UPDATE behind a
guard. -/
theorem exists_covering {words : List String} (hw : Keywords words) (ho : o.IsOf words)
    (h : Told text m) (hb : updated.BeginsAt text m)
    (hm : updated.matchAt? text m = some (name, stop)) (hlt : m < o.start)
    (hstop : o.start < stop) :
    ∃ q : Occurrence text, q.Counts updateWords ∧
      (q.Precedes o ∨ q.start = o.start ∧ q.IsGuarded) := by
  obtain ⟨q, hq, rfl, hbegin⟩ := exists_counts h hb hm
  have hof := (Occurrence.counts_update_iff.mp hq).1
  refine ⟨q, hq, ?_⟩
  rcases Nat.lt_trichotomy q.start o.start with hqo | hqo | hqo
  · exact .inl (Occurrence.precedes_of_overlap keywords_update hof hw ho hqo hstop)
  · rcases hbegin with rfl | ⟨p, rfl, hp, hprecedes, hfree⟩
    · omega
    · exact .inr ⟨hqo, p, hp, hprecedes, hfree⟩
  · rcases hbegin with rfl | ⟨p, rfl, hp, hprecedes, -⟩
    · omega
    · -- the guard would cover the keyword, and so have it where the UPDATE stands
      have hover := hqo.trans (hprecedes.lt_stop keywords_update hof)
      have hprecedes' := Occurrence.precedes_of_overlap keywords_guard hp hw ho hlt hover
      have hsame : o.start = q.start := congrArg List.length (hprecedes'.trans hprecedes.symm)
      omega

section Step

variable (ih : ∀ m < n, Told text m)

include ih

/-- No UPDATE that counts has its operand where a match begins. -/
theorem isFree_of_beginsAt {words : List String} (hw : Keywords words) (ho : o.IsOf words)
    (hn : o.start = n) (hb : updated.BeginsAt text n) : o.IsFree := by
  subst hn
  intro q hprecedes hq
  obtain ⟨m, hm, hbegins, name, hmatch⟩ := exists_match ih hq hprecedes.start_lt
  have hend := (Pattern.beginsAt_iff.mp hb).2 m hm hbegins _ hmatch
  exact absurd (hprecedes.lt_stop hw ho) (Nat.not_lt.mpr hend)

theorem plain_iff (hn : q.start = n) (hq : q.IsOf updateWords) (hne : q.operand ≠ []) :
    updated.BeginsAt text n ↔ q.IsFree ∧ ¬q.IsGuarded := by
  constructor
  · intro hb
    refine ⟨isFree_of_beginsAt ih keywords_update hq hn hb, ?_⟩
    rintro ⟨p, hp, hprecedes, hfree⟩
    subst hn
    have hbegins := ((ih p.start hprecedes.start_lt).guarded p q rfl hp hprecedes hq hne).mpr hfree
    have hend := (Pattern.beginsAt_iff.mp hb).2 p.start hprecedes.start_lt hbegins _
      (matchAt?_iff.mpr (.inr ⟨p, q, hp, hprecedes, hq, hne, rfl, rfl, rfl⟩))
    have hgap := List.length_pos_iff.mpr q.gap_ne_nil
    rw [q.stop_eq] at hend
    omega
  · rintro ⟨hfree, hguarded⟩
    have hmatch := matchAt?_iff.mpr (.inl ⟨q, hq, hne, hn, rfl, rfl⟩)
    refine Pattern.beginsAt_iff.mpr ⟨by rw [hmatch]; rfl, fun m hm hb r hr => ?_⟩
    by_contra hover
    obtain ⟨x, hx, hprecedes | ⟨hstart, hx'⟩⟩ := exists_covering keywords_update hq (ih m hm) hb hr
      (by omega) (by omega)
    · exact hfree x hprecedes hx
    · exact hguarded (hx'.congr hstart)

theorem guarded_iff (hn : p.start = n) (hp : p.IsOf guardWords) (hprecedes : p.Precedes q)
    (hq : q.IsOf updateWords) (hne : q.operand ≠ []) : updated.BeginsAt text n ↔ p.IsFree := by
  constructor
  · exact isFree_of_beginsAt ih keywords_guard hp hn
  · intro hfree
    have hmatch := matchAt?_iff.mpr (.inr ⟨p, q, hp, hprecedes, hq, hne, hn, rfl, rfl⟩)
    refine Pattern.beginsAt_iff.mpr ⟨by rw [hmatch]; rfl, fun m hm hb r hr => ?_⟩
    by_contra hover
    obtain ⟨x, hx, hbefore | ⟨hstart, -⟩⟩ := exists_covering keywords_guard hp (ih m hm) hb hr
      (by omega) (by omega)
    · exact hfree x hbefore hx
    · exact Occurrence.not_isOf_update hp hstart.symm (Occurrence.counts_update_iff.mp hx).1

end Step

theorem told (text : List Char) (n : Nat) : Told text n := by
  induction n using Nat.strong_induction_on with
  | _ n ih => exact ⟨fun _ => plain_iff ih, fun _ _ => guarded_iff ih⟩

/-- The names found after UPDATE are the operands of those that count and have no guard. -/
theorem mem_matches_iff {text : String} (hname : name ≠ []) : name ∈ updated.matches text ↔
    ∃ q : Occurrence text.toList, q.Counts updateWords ∧ ¬q.IsGuarded ∧ q.operand = name := by
  have hnil : ∀ before, updated.readAt before [] = none := by
    intro before
    rw [Pattern.readAt, phrases_eq, readPhrase_anyOf_nil keywords_guard,
      readPhrase_anyOf_nil keywords_update]
    split <;> rfl
  rw [Pattern.mem_matches_iff hnil]
  constructor
  · rintro ⟨n, stop, hbegins, hm⟩
    rcases matchAt?_iff.mp hm with
      ⟨q, hq, hne, rfl, rfl, -⟩ | ⟨p, q, -, -, -, -, -, hempty, -⟩
    · obtain ⟨hfree, hguarded⟩ := ((told _ _).plain q rfl hq hne).mp hbegins
      exact ⟨q, Occurrence.counts_update_iff.mpr ⟨hq, hne, hfree⟩, hguarded, rfl⟩
    · exact absurd hempty hname
  · rintro ⟨q, hcounts, hguarded, rfl⟩
    obtain ⟨hq, hne, hfree⟩ := Occurrence.counts_update_iff.mp hcounts
    exact ⟨q.start, q.stop, ((told _ _).plain q rfl hq hne).mpr ⟨hfree, hguarded⟩,
      matchAt?_iff.mpr (.inl ⟨q, hq, hne, rfl, rfl, rfl⟩)⟩

end Updated

section Tables

variable {sql t : String}

theorem mem_namesOf_iff {p : Pattern} : t ∈ namesOf p sql ↔
    ∃ name ∈ p.matches sql, name ≠ [] ∧ asciiLower (String.ofList name) = t := by
  simp [namesOf, asciiLower, and_assoc]

theorem mem_namesOf_reference_iff : t ∈ namesOf reference sql ↔
    ∃ o : Occurrence sql.toList, o.Counts referenceWords ∧ o.name = t := by
  have href : reference = Pattern.keyword referenceWords := rfl
  rw [mem_namesOf_iff, href]
  constructor
  · rintro ⟨name, hmem, -, rfl⟩
    obtain ⟨o, ho, rfl⟩ := (Pattern.mem_matches_keyword_iff keywords_reference).mp hmem
    exact ⟨o, ho, rfl⟩
  · rintro ⟨o, ho, rfl⟩
    exact ⟨o.operand, (Pattern.mem_matches_keyword_iff keywords_reference).mpr ⟨o, ho, rfl⟩,
      (Occurrence.counts_iff.mp ho).2.1, rfl⟩

theorem mem_namesOf_updated_iff : t ∈ namesOf updated sql ↔
    ∃ o : Occurrence sql.toList, o.Counts updateWords ∧ ¬o.IsGuarded ∧ o.name = t := by
  rw [mem_namesOf_iff]
  constructor
  · rintro ⟨name, hmem, hne, rfl⟩
    obtain ⟨o, ho, hguarded, rfl⟩ := (Updated.mem_matches_iff hne).mp hmem
    exact ⟨o, ho, hguarded, rfl⟩
  · rintro ⟨o, ho, hguarded, rfl⟩
    have hne := (Occurrence.counts_iff.mp ho).2.1
    exact ⟨o.operand, (Updated.mem_matches_iff hne).mpr ⟨o, ho, hguarded, rfl⟩, hne, rfl⟩

/-- The tables of a script are the names after FROM, JOIN and INTO and those after an UPDATE
without a guard, where the keyword counts, the reserved words left out. -/
theorem mem_tables_iff : t ∈ TableExtractor.byKeyword.tables sql ↔
    t ∉ reserved ∧ ∃ o : Occurrence sql.toList, o.name = t ∧
      (o.Counts referenceWords ∨ o.Counts updateWords ∧ ¬o.IsGuarded) := by
  have hmem : t ∈ TableExtractor.byKeyword.tables sql ↔
      t ∉ reserved ∧ (t ∈ namesOf reference sql ∨ t ∈ namesOf updated sql) := by
    simp only [TableExtractor.byKeyword, Std.ExtTreeSet.mem_ofList, List.contains_iff_mem,
      List.mem_filter, List.mem_append]
    simp [and_comm]
  rw [hmem, mem_namesOf_reference_iff, mem_namesOf_updated_iff]
  refine and_congr_right fun _ => ?_
  constructor
  · rintro (⟨o, ho, hname⟩ | ⟨o, ho, hguarded, hname⟩)
    · exact ⟨o, hname, .inl ho⟩
    · exact ⟨o, hname, .inr ⟨ho, hguarded⟩⟩
  · rintro ⟨o, hname, ho | ⟨ho, hguarded⟩⟩
    · exact .inl ⟨o, ho, hname⟩
    · exact .inr ⟨o, ho, hguarded, hname⟩

end Tables

/-- The tables of a script are the operands, in lower case, of the keywords that count, but for the
reserved words. So a table is always named after FROM, JOIN or INTO, or after an UPDATE that has no
guard before it other than the operand of an UPDATE; and a name that is not reserved is a table if
it stands after such a word that is itself no operand. -/
theorem tables_are_operands (sql : String) :
    let tables := TableExtractor.byKeyword.tables sql
    let reserved := ["select", "set", "values", "where"]
    (∀ t, t ∈ tables ↔ t ∉ reserved ∧ ∃ o : Occurrence sql.toList, o.name = t ∧
      (o.Counts referenceWords ∨ o.Counts updateWords ∧ ¬o.IsGuarded)) ∧
    (∀ t ∈ tables, t ≠ "" ∧ asciiLower t = t ∧ t ∉ reserved ∧
      ∃ o : Occurrence sql.toList, o.operand ≠ [] ∧ o.name = t ∧
        (o.IsOf referenceWords ∨ o.IsOf updateWords ∧
          ∀ p : Occurrence sql.toList, p.IsOf guardWords → p.Precedes o →
            ∃ q : Occurrence sql.toList, q.IsOf updateWords ∧ q.Precedes p)) ∧
    (∀ o : Occurrence sql.toList, o.IsOf referenceWords → o.operand ≠ [] →
      (∀ p : Occurrence sql.toList, p.IsOf referenceWords → ¬p.Precedes o) →
        o.name ∈ tables ∨ o.name ∈ reserved) ∧
    ∀ o : Occurrence sql.toList, o.IsOf updateWords → o.operand ≠ [] →
      (∀ p : Occurrence sql.toList, p.IsOf updateWords ∨ p.IsOf guardWords → ¬p.Precedes o) →
        o.name ∈ tables ∨ o.name ∈ reserved := by
  intro tables reserved
  have hmem : ∀ t, t ∈ tables ↔ t ∉ reserved ∧ ∃ o : Occurrence sql.toList, o.name = t ∧
      (o.Counts referenceWords ∨ o.Counts updateWords ∧ ¬o.IsGuarded) := fun t => mem_tables_iff
  refine ⟨hmem, fun t ht => ?_, fun o ho hne hnone => ?_, fun o ho hne hnone => ?_⟩
  · obtain ⟨hreserved, o, rfl, hcounts⟩ := (hmem t).mp ht
    have hne : o.operand ≠ [] := by
      rcases hcounts with h | ⟨h, -⟩ <;> exact (Occurrence.counts_iff.mp h).2.1
    have hname : o.name ≠ "" := by simpa [Occurrence.name, asciiLower] using hne
    refine ⟨hname, asciiLower_asciiLower _, hreserved, o, hne, rfl, ?_⟩
    rcases hcounts with h | ⟨h, hguarded⟩
    · exact .inl (Occurrence.counts_iff.mp h).1
    · refine .inr ⟨(Occurrence.counts_iff.mp h).1, fun p hp hprecedes => ?_⟩
      by_contra hnone
      refine hguarded ⟨p, hp, hprecedes, fun q hq hcounts => hnone ⟨q, ?_, hq⟩⟩
      exact (Occurrence.counts_iff.mp hcounts).1
  · have hcounts : o.Counts referenceWords :=
      Occurrence.counts_iff.mpr ⟨ho, hne, fun p hp h => hnone p (Occurrence.counts_iff.mp h).1 hp⟩
    rw [hmem]
    by_cases hreserved : o.name ∈ reserved
    · exact .inr hreserved
    · exact .inl ⟨hreserved, o, rfl, .inl hcounts⟩
  · have hcounts : o.Counts updateWords := Occurrence.counts_iff.mpr
      ⟨ho, hne, fun p hp h => hnone p (.inl (Occurrence.counts_iff.mp h).1) hp⟩
    have hguarded : ¬o.IsGuarded := by
      rintro ⟨p, hp, hprecedes, -⟩
      exact hnone p (.inr hp) hprecedes
    rw [hmem]
    by_cases hreserved : o.name ∈ reserved
    · exact .inr hreserved
    · exact .inl ⟨hreserved, o, rfl, .inr ⟨hcounts, hguarded⟩⟩

end Cutover
