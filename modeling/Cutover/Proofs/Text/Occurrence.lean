import Cutover.Proofs.Text.Match
import Cutover.Proofs.Text.Piece

/-!
# Keywords and their operands

An occurrence of a keyword is a place where its letters stand, with no word character before them
and white space behind them; its operand is the run of name characters after that white space.
A pattern that asks for one of several keywords and a name matches at just those occurrences that
have an operand and are not themselves the operand of one that is matched.
-/
namespace Cutover.Text

/-- A place in a text where a word stands like a keyword, with the run of name characters, maybe
empty, after the white space behind it. -/
structure Occurrence (text : List Char) where
  before : List Char
  word : List Char
  gap : List Char
  operand : List Char
  after : List Char
  text_eq : before ++ (word ++ (gap ++ (operand ++ after))) = text
  begins : before.getLast?.any isWord = false
  gap_ne_nil : gap ≠ []
  gap_blank : ∀ c ∈ gap, isBlank c = true
  gap_ends : (operand ++ after).head?.any isBlank = false
  operand_name : ∀ c ∈ operand, isNameChar c = true
  operand_ends : after.head?.any isNameChar = false

namespace Occurrence

variable {text : List Char} {words others : List String} {o p q : Occurrence text}

/-- Where the word begins. -/
def start (o : Occurrence text) : Nat := o.before.length

/-- Where the operand ends. -/
def stop (o : Occurrence text) : Nat := text.length - o.after.length

/-- The operand with its ASCII letters in lower case. -/
def name (o : Occurrence text) : String := asciiLower (String.ofList o.operand)

/-- Whether the word is one of the keywords. -/
def IsOf (words : List String) (o : Occurrence text) : Prop := Spells words o.word

/-- Whether nothing but white space stands between the first word and the second, which so is the
operand of the first or begins it. -/
def Precedes (p o : Occurrence text) : Prop := o.before = p.before ++ p.word ++ p.gap

theorem take_start (o : Occurrence text) : text.take o.start = o.before :=
  (congrArg (List.take o.before.length) o.text_eq).symm.trans (List.take_left' rfl)

theorem drop_start (o : Occurrence text) :
    text.drop o.start = o.word ++ (o.gap ++ (o.operand ++ o.after)) :=
  (congrArg (List.drop o.before.length) o.text_eq).symm.trans (List.drop_left' rfl)

theorem before_eq_take_iff {n : Nat} (hw : o.word ≠ []) :
    o.before = text.take n ↔ o.start = n := by
  constructor
  · intro h
    have htext := congrArg List.length o.text_eq
    have hword := List.length_pos_iff.mpr hw
    simp only [h, List.length_append, List.length_take] at htext
    simp only [start, h, List.length_take]
    omega
  · rintro rfl
    exact o.take_start.symm

theorem stop_eq (o : Occurrence text) :
    o.stop = o.start + o.word.length + o.gap.length + o.operand.length := by
  have hlength := congrArg List.length o.text_eq
  simp only [List.length_append] at hlength
  simp only [stop, start]
  omega

theorem Precedes.start_lt (h : p.Precedes o) : p.start < o.start := by
  have hgap := List.length_pos_iff.mpr p.gap_ne_nil
  have hlength := congrArg List.length h
  simp only [List.length_append] at hlength
  simp only [start]
  omega

/-- The second word of two stands where the operand of the first begins. -/
theorem Precedes.rest_eq (h : p.Precedes o) :
    p.operand ++ p.after = o.word ++ (o.gap ++ (o.operand ++ o.after)) := by
  have htext := p.text_eq.trans o.text_eq.symm
  rw [h] at htext
  simpa only [List.append_assoc, List.append_cancel_left_eq] using htext

/-- No name goes on behind a word that stands like a keyword. -/
theorem gap_ends_name (o : Occurrence text) :
    (o.gap ++ (o.operand ++ o.after)).head?.any isNameChar = false := by
  obtain ⟨c, gap, hg⟩ := List.exists_cons_of_ne_nil o.gap_ne_nil
  have hc := isNameChar_eq_false_of_isBlank (o.gap_blank c (by simp [hg]))
  simpa [hg] using hc

/-- A keyword that stands where an operand begins is the whole operand. -/
theorem Precedes.operand_eq (hw : Keywords words) (h : p.Precedes o) (ho : o.IsOf words) :
    p.operand = o.word := by
  have hoperand := takeWhile_dropWhile_iff.mpr ⟨rfl, p.operand_name, p.operand_ends⟩
  have hword := takeWhile_dropWhile_iff.mpr ⟨rfl, ho.isNameChar hw, o.gap_ends_name⟩
  rw [← hoperand.1, h.rest_eq, hword.1]

theorem Precedes.lt_stop (hw : Keywords words) (h : p.Precedes o) (ho : o.IsOf words) :
    o.start < p.stop := by
  have hword := List.length_pos_iff.mpr (ho.ne_nil hw)
  have hlength := congrArg List.length h
  simp only [List.length_append] at hlength
  rw [stop_eq, h.operand_eq hw ho]
  simp only [start]
  omega

theorem ends_append {y z : List Char} (h : (y ++ z).getLast?.any isWord = false) :
    z.getLast?.any isWord = false := by
  rw [List.getLast?_append] at h
  cases hz : z.getLast? with
  | none => rfl
  | some c => simpa [hz] using h

/-- What ends within a run of name characters, but not in a word character, ends before it. -/
theorem eq_nil_of_ends {y z run : List Char} (hrun : ∀ c ∈ run, isNameChar c = true)
    (he : run = y ++ z) (hends : y.getLast?.any isWord = false) : y = [] := by
  rcases List.eq_nil_or_concat y with rfl | ⟨y, c, rfl⟩
  · rfl
  · have hc := isWord_of_isNameChar (hrun c (by simp [he]))
    simp [hc] at hends

/-- A keyword that stands within another one and its operand is the operand. -/
theorem precedes_of_overlap (hw : Keywords words) (hp : p.IsOf words) (hw' : Keywords others)
    (ho : o.IsOf others) (hlt : p.start < o.start) (hstop : o.start < p.stop) : p.Precedes o := by
  -- `y` is what stands between the starts of the two words
  obtain ⟨y, hbefore, hrest⟩ : ∃ y, o.before = p.before ++ y ∧
      p.word ++ (p.gap ++ (p.operand ++ p.after)) =
        y ++ (o.word ++ (o.gap ++ (o.operand ++ o.after))) := by
    rcases List.append_eq_append_iff.mp (o.text_eq.trans p.text_eq.symm) with
      ⟨y, hy, -⟩ | ⟨y, hy, hrest⟩
    · have hlength := congrArg List.length hy
      simp only [start, List.length_append] at hlt hlength
      omega
    · exact ⟨y, hy, hrest⟩
  have hends : y.getLast?.any isWord = false := ends_append (hbefore ▸ o.begins)
  -- it does not end in the first word
  obtain ⟨y₁, rfl, hrest₁⟩ : ∃ y₁, y = p.word ++ y₁ ∧ p.gap ++ (p.operand ++ p.after) =
      y₁ ++ (o.word ++ (o.gap ++ (o.operand ++ o.after))) := by
    rcases List.append_eq_append_iff.mp hrest with ⟨y₁, hy, hrest₁⟩ | ⟨z, hy, -⟩
    · exact ⟨y₁, hy, hrest₁⟩
    · have hnil := eq_nil_of_ends (hp.isNameChar hw) hy hends
      simp [start, hbefore, hnil] at hlt
  suffices hgap : y₁ = p.gap by rw [Precedes, hbefore, hgap, List.append_assoc]
  rcases List.append_eq_append_iff.mp hrest₁ with ⟨y₂, rfl, hrest₂⟩ | ⟨z, hy, hrest₂⟩
  · -- if it goes beyond the white space, it does not end in the operand, nor behind it
    rcases List.append_eq_append_iff.mp hrest₂ with ⟨w, rfl, -⟩ | ⟨z, hy, -⟩
    · rw [stop_eq] at hstop
      simp only [start, hbefore, List.length_append] at hstop
      omega
    · simp [eq_nil_of_ends p.operand_name hy (ends_append (ends_append hends))]
  · -- and it does not end within the white space, which no word begins with
    cases z with
    | nil => simpa using hy.symm
    | cons c z =>
      have hblank := p.gap_blank c (by simp [hy])
      obtain ⟨l, word, hl⟩ := List.exists_cons_of_ne_nil (ho.ne_nil hw')
      obtain rfl : l = c := by simpa [hl] using congrArg List.head? hrest₂
      have hname := ho.isNameChar hw' l (by simp [hl])
      simp [isNameChar_eq_false_of_isBlank hblank] at hname

/-- At most one keyword stands right before a place. -/
theorem Precedes.start_eq (hw : Keywords words) (hp : p.IsOf words) (hw' : Keywords others)
    (hq : q.IsOf others) (h : p.Precedes o) (h' : q.Precedes o) : p.start = q.start := by
  have hstop : ∀ {x : Occurrence text}, x.Precedes o → o.start ≤ x.stop := by
    intro x hx
    have hlength := congrArg List.length hx
    simp only [List.length_append] at hlength
    simp only [stop_eq, start]
    omega
  have hsame : ∀ {x y : Occurrence text}, x.Precedes o → x.Precedes y → o.start = y.start :=
    fun hx hy => congrArg List.length (hx.trans hy.symm)
  rcases Nat.lt_trichotomy p.start q.start with hlt | heq | hlt
  · have hprecedes := precedes_of_overlap hw hp hw' hq hlt (h'.start_lt.trans_le (hstop h))
    exact absurd (hsame h hprecedes) h'.start_lt.ne'
  · exact heq
  · have hprecedes := precedes_of_overlap hw' hq hw hp hlt (h.start_lt.trans_le (hstop h'))
    exact absurd (hsame h' hprecedes) h.start_lt.ne'

/-- Only one keyword stands at a place. -/
theorem word_eq_of_start_eq (hw : Keywords words) (ho : o.IsOf words) (hw' : Keywords others)
    (hp : p.IsOf others) (h : o.start = p.start) : o.word = p.word := by
  have hrest := o.drop_start.symm.trans ((congrArg (text.drop ·) h).trans p.drop_start)
  have hword := takeWhile_dropWhile_iff.mpr ⟨rfl, ho.isNameChar hw, o.gap_ends_name⟩
  have hword' := takeWhile_dropWhile_iff.mpr ⟨rfl, hp.isNameChar hw', p.gap_ends_name⟩
  rw [← hword.1, hrest, hword'.1]

/-- Where a keyword stands no other one does. -/
theorem not_isOf_of_start_eq (hw : Keywords words) (hp : p.IsOf words) (hw' : Keywords others)
    (hapart : ∀ v ∈ words, ∀ w ∈ others, v.toList.map fold ≠ w.toList.map fold)
    (h : p.start = q.start) : ¬q.IsOf others := by
  intro hq
  have hword := word_eq_of_start_eq hw hp hw' hq h
  obtain ⟨v, hv, hvp⟩ := hp
  obtain ⟨w, hmem, hwq⟩ := hq
  exact hapart v hv w hmem (hvp.symm.trans (hword ▸ hwq))

/-- Whether an occurrence of one of the keywords counts: it has an operand, and is not itself the
operand of another one that counts. -/
def Counts (words : List String) (o : Occurrence text) : Prop :=
  o.IsOf words ∧ o.operand ≠ [] ∧ ∀ p : Occurrence text, (_ : p.Precedes o) → ¬p.Counts words
termination_by o.start
decreasing_by exact Precedes.start_lt ‹_›

theorem counts_iff : o.Counts words ↔
    o.IsOf words ∧ o.operand ≠ [] ∧ ∀ p : Occurrence text, p.Precedes o → ¬p.Counts words := by
  rw [Counts]

end Occurrence

section Reading

variable {text front s name rest : List Char} {words : List String}

/-- What a phrase of a keyword and a name reads where a word can begin. -/
theorem readPhrase_operand_iff (hw : Keywords words) {kept : Bool} (ht : front ++ s = text)
    (hf : front.getLast?.any isWord = false) :
    readPhrase [.anyOf words, .gap, .name kept] s = some (name, rest) ↔
      ∃ o : Occurrence text, o.before = front ∧ o.IsOf words ∧ o.operand ≠ [] ∧ o.after = rest ∧
        name = if kept then o.operand else [] := by
  constructor
  · intro h
    obtain ⟨n₁, s₁, m₁, hword, h₁, rfl⟩ := readPhrase_cons_iff.mp h
    obtain ⟨n₂, s₂, m₂, hgap, h₂, rfl⟩ := readPhrase_cons_iff.mp h₁
    obtain ⟨n₃, s₃, m₃, hname, h₃, rfl⟩ := readPhrase_cons_iff.mp h₂
    obtain ⟨rfl, word, rfl, hspells⟩ := (read_anyOf_iff hw).mp hword
    obtain ⟨rfl, gap, hgap⟩ := read_gap_iff.mp hgap
    obtain ⟨operand, hrun, rfl⟩ := read_name_iff.mp hname
    obtain rfl := hgap.eq
    obtain rfl := hrun.eq
    cases h₃
    exact ⟨⟨front, word, gap, operand, rest, ht, hf, hgap.ne_nil, hgap.all, hgap.ends, hrun.all,
      hrun.ends⟩, rfl, hspells, hrun.ne_nil, rfl, by simp⟩
  · rintro ⟨o, rfl, hof, hne, rfl, rfl⟩
    obtain rfl : s = o.word ++ (o.gap ++ (o.operand ++ o.after)) :=
      List.append_cancel_left (ht.trans o.text_eq.symm)
    refine readPhrase_cons_iff.mpr ⟨[], _, _, (read_anyOf_iff hw).mpr ⟨rfl, _, rfl, hof⟩, ?_, rfl⟩
    refine readPhrase_cons_iff.mpr ⟨[], _, _, read_gap_iff.mpr ⟨rfl, _, rfl, o.gap_ne_nil,
      o.gap_blank, o.gap_ends⟩, ?_, rfl⟩
    exact readPhrase_cons_iff.mpr ⟨_, _, [], read_name_iff.mpr ⟨_, ⟨rfl, hne, o.operand_name,
      o.operand_ends⟩, rfl⟩, rfl, (List.append_nil _).symm⟩

theorem ends_of_blank {gap : List Char} (hne : gap ≠ []) (hgap : ∀ c ∈ gap, isBlank c = true) :
    (front ++ gap).getLast?.any isWord = false := by
  obtain ⟨gap, c, rfl⟩ := (List.eq_nil_or_concat gap).resolve_left hne
  have hc := isWord_eq_false_of_isBlank (hgap c (by simp))
  simp [← List.append_assoc, hc]

/-- What a phrase reads behind a keyword and white space is read where a word can begin. -/
theorem exists_behind_keyword (hw : Keywords words) {ps : Phrase} (ht : front ++ s = text)
    (h : readPhrase (.anyOf words :: .gap :: ps) s = some (name, rest)) :
    ∃ front s, front ++ s = text ∧ front.getLast?.any isWord = false ∧
      readPhrase ps s = some (name, rest) := by
  obtain ⟨_, _, _, hword, h₁, rfl⟩ := readPhrase_cons_iff.mp h
  obtain ⟨_, _, _, hgap, h₂, rfl⟩ := readPhrase_cons_iff.mp h₁
  obtain ⟨rfl, word, rfl, -⟩ := (read_anyOf_iff hw).mp hword
  obtain ⟨rfl, gap, hgap⟩ := read_gap_iff.mp hgap
  obtain rfl := hgap.eq
  exact ⟨front ++ word ++ gap, _, by simpa only [List.append_assoc] using ht,
    ends_of_blank hgap.ne_nil hgap.all, h₂⟩

/-- What a phrase reads of a keyword with a name and another keyword before it, where a word can
begin. -/
theorem readPhrase_guarded_iff {guards : List String} (hg : Keywords guards)
    (hw : Keywords words) {kept : Bool} (ht : front ++ s = text)
    (hf : front.getLast?.any isWord = false) :
    readPhrase [.anyOf guards, .gap, .anyOf words, .gap, .name kept] s = some (name, rest) ↔
      ∃ p q : Occurrence text, p.before = front ∧ p.IsOf guards ∧ p.Precedes q ∧ q.IsOf words ∧
        q.operand ≠ [] ∧ q.after = rest ∧ name = if kept then q.operand else [] := by
  constructor
  · intro h
    obtain ⟨n₁, s₁, m₁, hguard, h₁, rfl⟩ := readPhrase_cons_iff.mp h
    obtain ⟨n₂, s₂, m₂, hgap, h₂, rfl⟩ := readPhrase_cons_iff.mp h₁
    obtain ⟨rfl, word, rfl, hspells⟩ := (read_anyOf_iff hg).mp hguard
    obtain ⟨rfl, gap, hgap⟩ := read_gap_iff.mp hgap
    obtain rfl := hgap.eq
    have hfront : (front ++ word ++ gap) ++ s₂ = text := by
      simpa only [List.append_assoc] using ht
    obtain ⟨q, hbefore, hq, hne, rfl, rfl⟩ :=
      (readPhrase_operand_iff hw hfront (ends_of_blank hgap.ne_nil hgap.all)).mp h₂
    obtain rfl : s₂ = q.word ++ (q.gap ++ (q.operand ++ q.after)) := by
      have htext := ht.trans q.text_eq.symm
      rw [hbefore] at htext
      simpa only [List.append_assoc, List.append_cancel_left_eq] using htext
    exact ⟨⟨front, word, gap, q.word, q.gap ++ (q.operand ++ q.after), ht, hf, hgap.ne_nil,
      hgap.all, hgap.ends, hq.isNameChar hw, q.gap_ends_name⟩, q, rfl, hspells, hbefore, hq, hne,
      rfl, rfl⟩
  · rintro ⟨p, q, rfl, hp, hprecedes, hq, hne, rfl, rfl⟩
    obtain rfl : s = p.word ++ (p.gap ++ (p.operand ++ p.after)) :=
      List.append_cancel_left (ht.trans p.text_eq.symm)
    have hrest : q.before ++ (p.operand ++ p.after) = text :=
      (congrArg (q.before ++ ·) hprecedes.rest_eq).trans q.text_eq
    refine readPhrase_cons_iff.mpr ⟨[], _, _, (read_anyOf_iff hg).mpr ⟨rfl, _, rfl, hp⟩, ?_, rfl⟩
    refine readPhrase_cons_iff.mpr ⟨[], _, _, read_gap_iff.mpr ⟨rfl, _, rfl, p.gap_ne_nil,
      p.gap_blank, p.gap_ends⟩, ?_, rfl⟩
    exact (readPhrase_operand_iff hw hrest q.begins).mpr ⟨q, rfl, hq, hne, rfl, rfl⟩

theorem readPhrase_anyOf_nil (hw : Keywords words) (ps : Phrase) :
    readPhrase (.anyOf words :: ps) [] = none := by
  refine Option.eq_none_iff_forall_not_mem.mpr fun r hr => ?_
  obtain ⟨n, s, m, hword, -⟩ := readPhrase_cons_iff.mp hr
  obtain ⟨-, x, hx, hspells⟩ := (read_anyOf_iff hw).mp hword
  exact hspells.ne_nil hw (List.append_eq_nil_iff.mp hx.symm).1

end Reading

namespace Pattern

variable {text name : List Char} {words : List String} {n stop : Nat}

/-- A pattern that matches only where a word can begin. -/
theorem matchAt?_eq_some_iff {p : Pattern} (hp : p.atWord = true) :
    p.matchAt? text n = some (name, stop) ↔ (text.take n).getLast?.any isWord = false ∧
      ∃ rest, p.phrases.findSome? (readPhrase · (text.drop n)) = some (name, rest) ∧
        text.length - rest.length = stop := by
  rw [matchAt?, readAt, hp, Bool.true_and]
  cases (text.take n).getLast?.any isWord with
  | true => simp
  | false =>
    simp only [Bool.false_eq_true, if_false, Option.map_eq_some_iff, Prod.exists, Prod.mk.injEq,
      true_and]
    constructor
    · rintro ⟨found, rest, hr, rfl, rfl⟩
      exact ⟨rest, hr, rfl⟩
    · rintro ⟨rest, hr, rfl⟩
      exact ⟨name, rest, hr, rfl, rfl⟩

/-- The pattern of one of these keywords with a name after it. -/
def keyword (words : List String) : Pattern := ⟨true, [[.anyOf words, .gap, .name true]]⟩

/-- The matches of a keyword with a name are its occurrences that have an operand. -/
theorem matchAt?_keyword_iff (hw : Keywords words) :
    (keyword words).matchAt? text n = some (name, stop) ↔
      ∃ o : Occurrence text, o.IsOf words ∧ o.operand ≠ [] ∧ o.start = n ∧ o.operand = name ∧
        o.stop = stop := by
  rw [matchAt?_eq_some_iff rfl]
  simp only [keyword, List.findSome?_singleton]
  constructor
  · rintro ⟨hf, rest, hr, rfl⟩
    obtain ⟨o, hb, hof, hne, rfl, rfl⟩ :=
      (readPhrase_operand_iff hw (List.take_append_drop n text) hf).mp hr
    exact ⟨o, hof, hne, (Occurrence.before_eq_take_iff (hof.ne_nil hw)).mp hb, rfl, rfl⟩
  · rintro ⟨o, hof, hne, rfl, rfl, rfl⟩
    have hf : (text.take o.start).getLast?.any isWord = false := o.take_start ▸ o.begins
    exact ⟨hf, o.after, (readPhrase_operand_iff hw (List.take_append_drop o.start text) hf).mpr
      ⟨o, o.take_start.symm, hof, hne, rfl, rfl⟩, rfl⟩

/-- A match of a keyword with a name begins at the occurrences that count. -/
theorem beginsAt_keyword_iff (hw : Keywords words) {o : Occurrence text} (ho : o.IsOf words)
    (hne : o.operand ≠ []) : (keyword words).BeginsAt text o.start ↔ o.Counts words := by
  induction hn : o.start using Nat.strong_induction_on generalizing o with
  | _ n ih =>
    subst hn
    have hmatch := (matchAt?_keyword_iff hw).mpr ⟨o, ho, hne, rfl, rfl, rfl⟩
    rw [beginsAt_iff, Occurrence.counts_iff, hmatch]
    constructor
    · rintro ⟨-, hfree⟩
      refine ⟨ho, hne, fun p hp hcounts => ?_⟩
      obtain ⟨hof, hpne, -⟩ := Occurrence.counts_iff.mp hcounts
      have hbegins := (ih p.start hp.start_lt hof hpne rfl).mpr hcounts
      have hstop := hfree p.start hp.start_lt hbegins (p.operand, p.stop)
        ((matchAt?_keyword_iff hw).mpr ⟨p, hof, hpne, rfl, rfl, rfl⟩)
      have hlt := hp.lt_stop hw ho
      simp only at hstop
      omega
    · rintro ⟨-, -, hnone⟩
      refine ⟨rfl, fun m hm hbegins r hr => ?_⟩
      obtain ⟨p, hof, hpne, rfl, -, hstop⟩ := (matchAt?_keyword_iff hw).mp hr
      by_contra hover
      have hprecedes := Occurrence.precedes_of_overlap hw hof hw ho hm (by omega)
      exact hnone p hprecedes ((ih p.start hm hof hpne rfl).mp hbegins)

/-- The names that a keyword finds are the operands of its occurrences that count. -/
theorem mem_matches_keyword_iff (hw : Keywords words) {text : String} :
    name ∈ (keyword words).matches text ↔
      ∃ o : Occurrence text.toList, o.Counts words ∧ o.operand = name := by
  have hnil : ∀ before, (keyword words).readAt before [] = none := by
    intro before
    simp [readAt, keyword, readPhrase_anyOf_nil hw]
  rw [mem_matches_iff hnil]
  constructor
  · rintro ⟨n, stop, hbegins, hm⟩
    obtain ⟨o, ho, hne, rfl, rfl, -⟩ := (matchAt?_keyword_iff hw).mp hm
    exact ⟨o, (beginsAt_keyword_iff hw ho hne).mp hbegins, rfl⟩
  · rintro ⟨o, hcounts, rfl⟩
    obtain ⟨ho, hne, -⟩ := Occurrence.counts_iff.mp hcounts
    exact ⟨o.start, o.stop, (beginsAt_keyword_iff hw ho hne).mpr hcounts,
      (matchAt?_keyword_iff hw).mpr ⟨o, ho, hne, rfl, rfl, rfl⟩⟩

end Pattern

end Cutover.Text
