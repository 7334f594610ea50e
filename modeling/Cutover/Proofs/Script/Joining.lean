import Cutover.Proofs.Script.Lineage
import Cutover.Proofs.Text.Separator

/-!
# Tables of joined texts

A semicolon cuts a script in two as far as its tables and targets go, and so does a space unless
the text before it ends in a keyword. So the tables of statements, and of clauses that do not end
in a keyword, are those of each, in whatever order they are written.
-/
namespace Cutover

open Text

section Blank

/-- Whether white space that a phrase asks for is never the end of the text. -/
def GapsInside : Phrase → List Char → Prop
  | [], _ => True
  | p :: ps, a => (p = .gap → ∃ c ∈ a, isBlank c = false) ∧
      ∀ n r, p.read a = some (n, r) → GapsInside ps r

theorem read_gap_append {a : List Char} (h : ∃ c ∈ a, isBlank c = false) (s : List Char) :
    Piece.gap.read (a ++ s) = (Piece.gap.read a).map fun r => (r.1, r.2 ++ s) := by
  obtain ⟨c, hc, hblank⟩ := h
  have hdrop : (a ++ s).dropWhile isBlank = a.dropWhile isBlank ++ s := by
    rw [List.dropWhile_append, if_neg]
    simp only [List.isEmpty_iff, List.dropWhile_eq_nil_iff]
    intro hall
    rw [hall c hc] at hblank
    cases hblank
  have hhead : (a ++ s).head? = a.head? := by
    obtain ⟨x, a, rfl⟩ := List.exists_cons_of_ne_nil (List.ne_nil_of_mem hc)
    rfl
  simp only [Piece.read, hdrop, hhead]
  split <;> rfl

/-- A phrase that is not cut within white space is read the same before `s`. -/
theorem readPhrase_append_of_gapsInside {ps : Phrase} {s : List Char}
    (hps : ∀ p ∈ ps, p ≠ .gap → p.StopsAt s) {a : List Char} (h : GapsInside ps a) :
    readPhrase ps (a ++ s) = (readPhrase ps a).map fun r => (r.1, r.2 ++ s) := by
  induction ps generalizing a with
  | nil => rfl
  | cons p ps ih =>
    obtain ⟨hp, hrest⟩ := List.forall_mem_cons.mp hps
    obtain ⟨hgap, hnext⟩ := h
    have hread : p.read (a ++ s) = (p.read a).map fun r => (r.1, r.2 ++ s) := by
      by_cases hg : p = .gap
      · exact hg ▸ read_gap_append (hgap hg) s
      · exact hp hg a
    rw [readPhrase, readPhrase, hread]
    cases hr : p.read a with
    | none => rfl
    | some r =>
      simp only [Option.map_some, ih hrest (hnext r.1 r.2 hr)]
      cases readPhrase ps r.2 <;> rfl

end Blank

/-- The last word of a text, white space after it aside. -/
def lastWord (s : List Char) : List Char := ((trimEnd s).reverse.takeWhile isWord).reverse

/-- Whether a text ends in a word behind which a table, or an UPDATE, is looked for. -/
def EndsInKeyword (text : String) : Prop :=
  Spells (referenceWords ++ updateWords ++ guardWords) (lastWord text.toList)

instance (text : String) : Decidable (EndsInKeyword text) :=
  inferInstanceAs (Decidable (Spells _ _))

/-- Behind a word all white space is dropped. -/
theorem trimEnd_word {front word gap : List Char} (hne : word ≠ [])
    (hword : ∀ c ∈ word, isNameChar c = true) (hgap : ∀ c ∈ gap, isBlank c = true) :
    trimEnd (front ++ (word ++ gap)) = front ++ word := by
  have hhead : (word.reverse ++ front.reverse).head?.any isBlank = false := by
    obtain ⟨word, c, rfl⟩ := (List.eq_nil_or_concat word).resolve_left hne
    have hc := isBlank_eq_false_of_isNameChar (hword c (by simp))
    simpa using hc
  have hdrop := (takeWhile_dropWhile_iff.mpr
    ⟨rfl, fun c hc => hgap c (List.mem_reverse.mp hc), hhead⟩).2
  rw [trimEnd, List.reverse_append, List.reverse_append, List.append_assoc, hdrop]
  simp

theorem lastWord_of_trimEnd {text front word : List Char} (h : trimEnd text = front ++ word)
    (hf : front.getLast?.any isWord = false) (hword : ∀ c ∈ word, isNameChar c = true) :
    lastWord text = word := by
  have htake := (takeWhile_dropWhile_iff.mpr ⟨rfl, fun c hc =>
    isWord_of_isNameChar (hword c (List.mem_reverse.mp hc)), List.head?_reverse ▸ hf⟩).1
  rw [lastWord, h, List.reverse_append, htake, List.reverse_reverse]

/-- A word with white space behind it is the last one. -/
theorem lastWord_eq {front word gap : List Char} (hf : front.getLast?.any isWord = false)
    (hne : word ≠ []) (hword : ∀ c ∈ word, isNameChar c = true)
    (hgap : ∀ c ∈ gap, isBlank c = true) : lastWord (front ++ (word ++ gap)) = word :=
  lastWord_of_trimEnd (trimEnd_word hne hword hgap) hf hword

/-- What follows a keyword in a text that does not end in one is not just white space. -/
theorem exists_after_keyword {words : List String} (hw : Keywords words)
    (hsub : words ⊆ referenceWords ++ updateWords ++ guardWords) {text : String}
    (h : ¬EndsInKeyword text) {front word rest : List Char}
    (ht : front ++ (word ++ rest) = text.toList) (hf : front.getLast?.any isWord = false)
    (hword : Spells words word) : ∃ c ∈ rest, isBlank c = false := by
  by_contra hnone
  have hblank : ∀ c ∈ rest, isBlank c = true := by
    intro c hc
    by_contra hb
    exact hnone ⟨c, hc, by simpa only [Bool.not_eq_true] using hb⟩
  obtain ⟨w, hmem, he⟩ := hword
  have hlast := lastWord_eq hf (Spells.ne_nil hw ⟨w, hmem, he⟩)
    (Spells.isNameChar hw ⟨w, hmem, he⟩) hblank
  exact h ⟨w, hsub hmem, by rw [← ht, hlast, he]⟩

section Cut

variable {text : String} {words : List String} {front rest : List Char}

/-- After a keyword white space is not the end of a text that does not end in a keyword. -/
theorem gapsInside_keyword (hw : Keywords words)
    (hsub : words ⊆ referenceWords ++ updateWords ++ guardWords) (h : ¬EndsInKeyword text)
    {ps : Phrase}
    (hps : ∀ front rest, front ++ rest = text.toList → front.getLast?.any isWord = false →
      GapsInside ps rest)
    (ht : front ++ rest = text.toList) (hf : front.getLast?.any isWord = false) :
    GapsInside (.anyOf words :: .gap :: ps) rest := by
  refine ⟨nofun, fun n r hr => ?_⟩
  obtain ⟨-, word, rfl, hword⟩ := (read_anyOf_iff hw).mp hr
  -- white space up to the end would make the keyword the last word of the text
  refine ⟨fun _ => exists_after_keyword hw hsub h ht hf hword, fun n r hr => ?_⟩
  obtain ⟨-, gap, hgap⟩ := read_gap_iff.mp hr
  obtain rfl := hgap.eq
  refine hps (front ++ word ++ gap) _ ?_ (ends_of_blank hgap.ne_nil hgap.all)
  simpa only [List.append_assoc] using ht

theorem gapsInside_name (kept : Bool) (a : List Char) : GapsInside [.name kept] a :=
  ⟨nofun, fun _ _ _ => trivial⟩

theorem gapsInside_letters {word : String} {ps : Phrase} {a : List Char} :
    GapsInside (.letters word :: ps) a ↔ GapsInside (.anyOf [word] :: ps) a := by
  simp [GapsInside, read_letters]

/-- Whether a character is none of those that the pattern takes outside white space. -/
def takesOnlyInGaps (p : Pattern) (c : Char) : Bool :=
  p.phrases.all (·.all fun x => x matches .gap || x.spares c)

/-- A pattern whose phrases are cut nowhere within white space is cut before `c`. -/
theorem cutAt_of_gapsInside {p : Pattern} (hp : p.atWord = true) {c : Char}
    (hc : takesOnlyInGaps p c = true) {a : List Char}
    (h : ∀ ps ∈ p.phrases, ∀ front rest, front ++ rest = a →
      front.getLast?.any isWord = false → GapsInside ps rest) (s : List Char) :
    p.CutAt a (c :: s) := by
  intro front rest ht _
  cases hf : front.getLast?.any isWord with
  | true => simp [Pattern.readAt, hp, hf]
  | false =>
    simp only [Pattern.readAt, hf, Bool.and_false, Bool.false_eq_true, if_false]
    have hstop : ∀ ps ∈ p.phrases, ∀ x ∈ ps, x ≠ .gap → x.StopsAt (c :: s) := by
      intro ps hps x hx hgap
      have htakes := List.all_eq_true.mp (List.all_eq_true.mp hc ps hps) x hx
      cases x with
      | gap => exact absurd rfl hgap
      | _ => exact Piece.stopsAt_of_spares (by simpa using htakes) s
    exact findSome?_eq_map fun ps hps =>
      readPhrase_append_of_gapsInside (hstop ps hps) (h ps hps front rest ht hf)

/-- Behind a text that does not end in a keyword a space cuts the words that a table follows. -/
theorem cutAt_reference (h : ¬EndsInKeyword text) (s : List Char) :
    reference.CutAt text.toList (' ' :: s) := by
  refine cutAt_of_gapsInside rfl (by decide) (fun ps hps front rest ht hf => ?_) s
  obtain rfl : ps = [.anyOf referenceWords, .gap, .name true] := by
    simpa [reference, referenceWords] using hps
  exact gapsInside_keyword keywords_reference (by simp) h
    (fun _ _ _ _ => gapsInside_name true _) ht hf

theorem cutAt_updated (h : ¬EndsInKeyword text) (s : List Char) :
    updated.CutAt text.toList (' ' :: s) := by
  have hupdate : ∀ kept front rest, front ++ rest = text.toList →
      front.getLast?.any isWord = false →
      GapsInside [.letters "UPDATE", .gap, .name kept] rest := by
    intro kept front rest ht hf
    refine gapsInside_letters.mpr (gapsInside_keyword keywords_update (by simp) h
      (fun _ _ _ _ => gapsInside_name kept _) ht hf)
  refine cutAt_of_gapsInside rfl (by decide) (fun ps hps front rest ht hf => ?_) s
  simp only [updated, List.mem_cons, List.not_mem_nil, or_false] at hps
  rcases hps with rfl | rfl
  · exact gapsInside_keyword keywords_guard (by simp) h (hupdate false) ht hf
  · exact hupdate true front rest ht hf

end Cut

section Union

variable {a b whole : String} {c : Char}

theorem namesOf_append {p : Pattern} (hcut : p.CutAt a.toList (c :: b.toList))
    (hwhole : whole.toList = a.toList ++ c :: b.toList) (href : p.refuses c = true)
    (hc : isWord c = false) : namesOf p whole = namesOf p a ++ namesOf p b := by
  simp only [namesOf, hcut.matches_append hwhole href hc, List.filter_append, List.map_append]

namespace TableExtractor

/-- Where both patterns are cut the tables are those before the cut and those behind it. -/
theorem tables_append (hr : reference.CutAt a.toList (c :: b.toList))
    (hu : updated.CutAt a.toList (c :: b.toList))
    (hwhole : whole.toList = a.toList ++ c :: b.toList)
    (href : reference.refuses c = true ∧ updated.refuses c = true) (hc : isWord c = false) :
    byKeyword.tables whole = byKeyword.tables a ∪ byKeyword.tables b := by
  refine Std.ExtTreeSet.ext_mem fun t => ?_
  simp only [byKeyword, namesOf_append hr hwhole href.1 hc, namesOf_append hu hwhole href.2 hc,
    Std.ExtTreeSet.mem_union_iff, Std.ExtTreeSet.mem_ofList, List.contains_iff_mem,
    List.mem_filter, List.mem_append]
  tauto

theorem toList_statements (a b : String) :
    (a ++ ";" ++ b).toList = a.toList ++ ';' :: b.toList := by
  simp

/-- A semicolon parts the tables of a script. -/
theorem tables_statements (a b : String) :
    byKeyword.tables (a ++ ";" ++ b) = byKeyword.tables a ∪ byKeyword.tables b :=
  tables_append (Pattern.cutAt_of_spares (by decide) a.toList b.toList)
    (Pattern.cutAt_of_spares (by decide) a.toList b.toList) (toList_statements a b)
    ⟨by decide, by decide⟩ (by decide)

theorem targets_statements (a b : String) :
    byKeyword.targets (a ++ ";" ++ b) = byKeyword.targets a ∪ byKeyword.targets b := by
  have hnames := namesOf_append (p := inserted)
    (Pattern.cutAt_of_spares (by decide) a.toList b.toList) (toList_statements a b)
    (by decide) (by decide)
  refine Std.ExtTreeSet.ext_mem fun t => ?_
  simp only [byKeyword, hnames, Std.ExtTreeSet.mem_union_iff, Std.ExtTreeSet.mem_ofList,
    List.contains_iff_mem, List.mem_append]

/-- A space between a clause that does not end in a keyword and what follows parts the tables. -/
theorem tables_clause (h : ¬EndsInKeyword a) (b : String) :
    byKeyword.tables (a ++ " " ++ b) = byKeyword.tables a ∪ byKeyword.tables b :=
  tables_append (cutAt_reference h b.toList) (cutAt_updated h b.toList) (by simp)
    ⟨by decide, by decide⟩ (by decide)

theorem mem_tables_clauses {clauses : List String} (h : ∀ x ∈ clauses, ¬EndsInKeyword x)
    (t : String) : t ∈ byKeyword.tables (" ".intercalate clauses) ↔
      ∃ x ∈ clauses, t ∈ byKeyword.tables x := by
  induction clauses with
  | nil =>
    have hempty : byKeyword.tables "" = ∅ := rfl
    simp [hempty]
  | cons x clauses ih =>
    obtain ⟨hx, hrest⟩ := List.forall_mem_cons.mp h
    cases clauses with
    | nil => simp
    | cons y clauses =>
      rw [String.intercalate_cons_cons, tables_clause hx, Std.ExtTreeSet.mem_union_iff, ih hrest]
      simp

/-- The order of statements makes no difference to tables, targets and lineage, nor does that of
clauses, or how often they stand there, if none ends in a keyword. -/
theorem tables_compose :
    (∀ a b : String,
      byKeyword.tables (a ++ ";" ++ b) = byKeyword.tables a ∪ byKeyword.tables b ∧
      byKeyword.targets (a ++ ";" ++ b) = byKeyword.targets a ∪ byKeyword.targets b ∧
      ∀ t, (byKeyword.lineage (a ++ ";" ++ b))[t]? =
        if t ∈ byKeyword.targets a ∪ byKeyword.targets b then
          some ((byKeyword.tables a ∪ byKeyword.tables b).erase t)
        else none) ∧
    ∀ clauses : List String, (∀ x ∈ clauses, ¬EndsInKeyword x) →
      (∀ t, t ∈ byKeyword.tables (" ".intercalate clauses) ↔
        ∃ x ∈ clauses, t ∈ byKeyword.tables x) ∧
      ∀ others : List String, (∀ x, x ∈ others ↔ x ∈ clauses) →
        byKeyword.tables (" ".intercalate others) = byKeyword.tables (" ".intercalate clauses) := by
  refine ⟨fun a b => ⟨tables_statements a b, targets_statements a b, fun t => ?_⟩,
    fun clauses h => ⟨mem_tables_clauses h, fun others hsame => ?_⟩⟩
  · rw [getElem?_lineage, tables_statements, targets_statements]
  · refine Std.ExtTreeSet.ext_mem fun t => ?_
    have hothers : ∀ x ∈ others, ¬EndsInKeyword x := fun x hx => h x ((hsame x).mp hx)
    simp only [mem_tables_clauses hothers, mem_tables_clauses h, hsame]

/-- The clauses of an insert in another order, one of them twice. -/
theorem tables_compose_insert :
    (∀ x ∈ ["INSERT INTO totals", "SELECT id", "FROM orders", "JOIN customers"],
      ¬EndsInKeyword x) ∧
    byKeyword.tables (" ".intercalate
      ["FROM orders", "SELECT id", "JOIN customers", "FROM orders", "INSERT INTO totals"]) =
    byKeyword.tables (" ".intercalate
      ["INSERT INTO totals", "SELECT id", "FROM orders", "JOIN customers"]) := by
  have hends : ∀ x ∈ ["INSERT INTO totals", "SELECT id", "FROM orders", "JOIN customers"],
      ¬EndsInKeyword x := by decide
  exact ⟨hends, (tables_compose.2 _ hends).2 _ fun x => by simp; tauto⟩

end TableExtractor

end Union

end Cutover
