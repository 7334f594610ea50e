import Cutover.Proofs.Datum.JsonScalar

/-!
# Documents of JSON are read as they were written

A value without numbers that are not whole is read back from its written form. White space before
a value is passed over, so the layout makes no difference. The bound on the number of steps is
never met, as each step reads a character of its own.
-/
namespace Cutover

mutual

/-- Whether all parts of a value can be told from their written form. -/
def Datum.isPlain : Datum → Bool
  | .real _ | .garbled => false
  | .null | .bool _ | .int _ | .str _ => true
  | .list ds => Datum.arePlain ds
  | .record fs => Datum.haveFieldsPlain fs

def Datum.arePlain : List Datum → Bool
  | [] => true
  | d :: ds => d.isPlain && Datum.arePlain ds

def Datum.haveFieldsPlain : List (String × Datum) → Bool
  | [] => true
  | (_, d) :: fs => d.isPlain && Datum.haveFieldsPlain fs

end

namespace Json

variable {fuel depth k : Nat} {s r rest : List Char}

@[simp] theorem skipSpace_newLine (depth : Nat) (s : List Char) :
    skipSpace (newLine depth ++ s) = skipSpace s := by
  apply List.dropWhile_append_of_pos
  intro c hc
  simp only [newLine, List.mem_cons, List.mem_replicate] at hc
  rcases hc with rfl | ⟨-, rfl⟩ <;> decide

theorem skipSpace_cons {c : Char} (hc : isSpace c = false) : skipSpace (c :: s) = c :: s := by
  simp [skipSpace, hc]

theorem skipSpace_skipSpace (s : List Char) : skipSpace (skipSpace s) = skipSpace s := by
  unfold skipSpace
  induction s with
  | nil => rfl
  | cons c s ih => by_cases hc : isSpace c <;> simp [hc, ih]

/-- White space before a value makes no difference. -/
theorem readValue_skipSpace (fuel : Nat) (s : List Char) :
    readValue fuel (skipSpace s) = readValue fuel s := by
  cases fuel with
  | zero => rfl
  | succ fuel => simp only [readValue, skipSpace_skipSpace]

theorem readValue_newLine (fuel depth : Nat) (s : List Char) :
    readValue fuel (newLine depth ++ s) = readValue fuel s := by
  rw [← readValue_skipSpace, skipSpace_newLine, readValue_skipSpace]

theorem readItems_skipSpace (fuel : Nat) (s : List Char) :
    readItems fuel (skipSpace s) = readItems fuel s := by
  cases fuel with
  | zero => rfl
  | succ fuel => simp only [readItems, readValue_skipSpace]

theorem readFields_skipSpace (fuel : Nat) (s : List Char) :
    readFields fuel (skipSpace s) = readFields fuel s := by
  cases fuel with
  | zero => rfl
  | succ fuel => simp only [readFields, skipSpace_skipSpace]

theorem ends_newLine (depth : Nat) (s : List Char) : Ends (newLine depth ++ s) := by
  simp [Ends, newLine]

theorem ends_comma (s : List Char) : Ends (',' :: s) := by
  simp [Ends]

theorem isSpace_of_number {c : Char} (hc : c = '-' ∨ c.isDigit) : isSpace c = false := by
  rcases hc with rfl | hc
  · decide
  · simp only [isSpace, Bool.or_eq_false_iff, beq_eq_false_iff_ne]
    refine ⟨⟨⟨?_, ?_⟩, ?_⟩, ?_⟩ <;> rintro rfl <;> simp at hc

/-- The first character of a written value is neither white space nor a closing bracket. -/
theorem exists_write {d : Datum} (hp : d.isPlain) (depth : Nat) :
    ∃ c s, write depth d = c :: s ∧ isSpace c = false ∧ c ≠ ']' := by
  cases d with
  | real | garbled => simp [Datum.isPlain] at hp
  | null => exact ⟨_, _, rfl, by decide, by decide⟩
  | bool b => cases b <;> exact ⟨_, _, rfl, by decide, by decide⟩
  | str t => exact ⟨_, _, rfl, by decide, by decide⟩
  | list ds =>
    cases ds with
    | nil => exact ⟨_, _, rfl, by decide, by decide⟩
    | cons d ds => exact ⟨'[', _, by simp [write]; rfl, by decide, by decide⟩
  | record fs =>
    cases fs with
    | nil => exact ⟨_, _, rfl, by decide, by decide⟩
    | cons f fs => exact ⟨'\x7b', _, by simp [write]; rfl, by decide, by decide⟩
  | int n =>
    obtain ⟨c, s, hs, hc⟩ := exists_writeInt n
    refine ⟨c, s, by rw [write, hs], isSpace_of_number hc, ?_⟩
    rintro rfl
    simp at hc

theorem readValue_writeInt (hr : Ends rest) (n : Int) :
    readValue (fuel + 1) (writeInt n ++ rest) = some (.int n, rest) := by
  obtain ⟨c, s, hs, hc⟩ := exists_writeInt n
  have hn := readNumber_writeInt hr n
  rw [hs, List.cons_append] at hn ⊢
  rw [readValue, skipSpace_cons (isSpace_of_number hc)]
  split <;> simp_all

theorem readValue_quote (t : String) :
    readValue (fuel + 1) (quote t ++ rest) = some (.str t, rest) := by
  simp [quote, readValue, skipSpace_cons, isSpace, readText_flatMap_escape]

/-- A list that is not empty is read by its items. -/
theorem readValue_bracket {c : Char} (hs : skipSpace s = c :: rest) (hc : c ≠ ']') :
    readValue (fuel + 1) ('[' :: s) =
      (readItems fuel s).map fun r => (.list r.1, r.2) := by
  rw [readValue, skipSpace_cons (by decide)]
  simp only [hs]
  split
  · simp_all
  · rw [← hs, readItems_skipSpace]

/-- A record that is not empty is read by its fields. -/
theorem readValue_brace {c : Char} {fields : List (String × Datum)} (hs : skipSpace s = c :: rest)
    (hc : c ≠ '\x7d') (hf : readFields fuel s = some (some fields, r)) :
    readValue (fuel + 1) ('\x7b' :: s) = some (.record fields, r) := by
  rw [readValue, skipSpace_cons (by decide)]
  simp only [hs]
  split
  · simp_all
  · rw [← hs, readFields_skipSpace, hf]

theorem exists_writeItems (d : Datum) (ds : List Datum) (hp : Datum.arePlain (d :: ds))
    (depth : Nat) (s : List Char) :
    ∃ c s', skipSpace (writeItems depth (d :: ds) ++ s) = c :: s' ∧ c ≠ ']' := by
  have hd : d.isPlain := by
    rw [Datum.arePlain, Bool.and_eq_true] at hp
    exact hp.1
  obtain ⟨c, s', hs, hspace, hc⟩ := exists_write hd depth
  cases ds <;> exact ⟨c, _, by simp [writeItems, hs, skipSpace_cons hspace]; rfl, hc⟩

theorem exists_writeFields (f : String × Datum) (fs : List (String × Datum)) (depth : Nat)
    (s : List Char) : ∃ s', skipSpace (writeFields depth (f :: fs) ++ s) = '"' :: s' := by
  obtain ⟨name, d⟩ := f
  cases fs <;>
    exact ⟨_, by simp [writeFields, quote, skipSpace_cons (c := '"') (by decide)]; rfl⟩

@[simp] theorem length_newLine (depth : Nat) : (newLine depth).length = 2 * depth + 1 := by
  simp [newLine]

/-- So many steps are enough to read each value whose written form is not longer. -/
def ReadsValues (fuel : Nat) : Prop :=
  ∀ (d : Datum) (depth : Nat) (rest : List Char), d.isPlain → Ends rest →
    (write depth d).length ≤ fuel → readValue fuel (write depth d ++ rest) = some (d, rest)

def ReadsItems (fuel : Nat) : Prop :=
  ∀ (d : Datum) (ds : List Datum) (depth k : Nat) (rest : List Char), Datum.arePlain (d :: ds) →
    (writeItems depth (d :: ds)).length ≤ fuel →
    readItems fuel (writeItems depth (d :: ds) ++ newLine k ++ ']' :: rest) = some (d :: ds, rest)

def ReadsFields (fuel : Nat) : Prop :=
  ∀ (f : String × Datum) (fs : List (String × Datum)) (depth k : Nat) (rest : List Char),
    Datum.haveFieldsPlain (f :: fs) → (writeFields depth (f :: fs)).length ≤ fuel →
    readFields fuel (writeFields depth (f :: fs) ++ newLine k ++ '\x7d' :: rest) =
      some (some (f :: fs), rest)

theorem readsValues_succ (hi : ReadsItems fuel) (hf : ReadsFields fuel) :
    ReadsValues (fuel + 1) := by
  intro d depth rest hp hr hlen
  cases d with
  | real | garbled => simp [Datum.isPlain] at hp
  | null => rfl
  | bool b => cases b <;> rfl
  | str t => exact readValue_quote t
  | int n => exact readValue_writeInt hr n
  | list ds =>
    cases ds with
    | nil => rfl
    | cons d ds =>
      rw [Datum.isPlain] at hp
      have hitems := hi d ds (depth + 1) depth rest hp (by simp [write] at hlen; omega)
      obtain ⟨c, s, hs, hc⟩ := exists_writeItems d ds hp (depth + 1) (newLine depth ++ ']' :: rest)
      rw [List.append_assoc] at hitems
      simp [write, readValue_bracket hs hc, hitems]
  | record fs =>
    cases fs with
    | nil => rfl
    | cons f fs =>
      rw [Datum.isPlain] at hp
      have hfields := hf f fs (depth + 1) depth rest hp (by simp [write] at hlen; omega)
      obtain ⟨s, hs⟩ := exists_writeFields f fs (depth + 1) (newLine depth ++ '\x7d' :: rest)
      rw [List.append_assoc] at hfields
      simpa [write] using readValue_brace hs (by decide) hfields

theorem readsItems_succ (hv : ReadsValues fuel) (hi : ReadsItems fuel) :
    ReadsItems (fuel + 1) := by
  intro d ds depth k rest hp hlen
  rw [Datum.arePlain, Bool.and_eq_true] at hp
  cases ds with
  | nil =>
    simp only [writeItems, List.length_append, length_newLine] at hlen
    have hd := hv d depth (newLine k ++ ']' :: rest) hp.1 (ends_newLine k _) (by omega)
    simp [writeItems, readItems, readValue_newLine, hd, skipSpace_cons, isSpace]
  | cons e ds =>
    simp only [writeItems, List.length_append, List.length_cons, length_newLine] at hlen
    have htail := hi e ds depth k rest hp.2 (by omega)
    have hd := hv d depth (',' :: (writeItems depth (e :: ds) ++ newLine k ++ ']' :: rest)) hp.1
      (ends_comma _) (by omega)
    simp only [List.append_assoc] at hd htail
    simp [writeItems, readItems, readValue_newLine, hd, htail, skipSpace_cons, isSpace]

/-- A field is read up to its value by its name. -/
theorem readFields_name (name : String) :
    readFields (fuel + 1) (newLine depth ++ (quote name ++ ':' :: ' ' :: s)) =
      match readValue fuel s with
      | none => none
      | some (value, r) =>
        match skipSpace r with
        | '\x7d' :: r => some (some [(name, value)], r)
        | ',' :: r => (readFields fuel r).map fun f => (f.1.map ((name, value) :: ·), f.2)
        | _ => none := by
  have hspace : readValue fuel (' ' :: s) = readValue fuel s := by
    rw [← readValue_skipSpace, ← readValue_skipSpace fuel s]
    rfl
  have hname : skipSpace (newLine depth ++ (quote name ++ ':' :: ' ' :: s)) =
      '"' :: (name.toList.flatMap escape ++ '"' :: ':' :: ' ' :: s) := by
    simp [quote, skipSpace_cons, isSpace]
  have hcolon : skipSpace (':' :: ' ' :: s) = ':' :: ' ' :: s := rfl
  simp only [readFields, hname, readText_flatMap_escape, hcolon, hspace]
  rfl

theorem readsFields_succ (hv : ReadsValues fuel) (hf : ReadsFields fuel) :
    ReadsFields (fuel + 1) := by
  intro f fs depth k rest hp hlen
  obtain ⟨name, d⟩ := f
  rw [Datum.haveFieldsPlain, Bool.and_eq_true] at hp
  cases fs with
  | nil =>
    simp only [writeFields, List.length_append, length_newLine] at hlen
    have hd := hv d depth (newLine k ++ '\x7d' :: rest) hp.1 (ends_newLine k _) (by omega)
    simp only [writeFields, List.append_assoc, List.cons_append, List.nil_append, readFields_name]
    simp [hd, skipSpace_cons, isSpace]
  | cons e fs =>
    simp only [writeFields, List.length_append, List.length_cons, length_newLine] at hlen
    have htail := hf e fs depth k rest hp.2 (by omega)
    have hd := hv d depth (',' :: (writeFields depth (e :: fs) ++ newLine k ++ '\x7d' :: rest)) hp.1
      (ends_comma _) (by omega)
    simp only [List.append_assoc] at hd htail
    simp only [writeFields, List.append_assoc, List.cons_append, List.nil_append, readFields_name]
    simp [hd, htail, skipSpace_cons, isSpace]

theorem reads_all (fuel : Nat) : ReadsValues fuel ∧ ReadsItems fuel ∧ ReadsFields fuel := by
  induction fuel with
  | zero =>
    refine ⟨?_, ?_, ?_⟩
    · intro d depth rest hp _ hlen
      obtain ⟨c, s, hs, -⟩ := exists_write hp depth
      simp [hs] at hlen
    · intro d ds depth k rest _ hlen
      cases ds <;> simp [writeItems] at hlen
    · rintro ⟨name, d⟩ fs depth k rest _ hlen
      cases fs <;> simp [writeFields] at hlen
  | succ fuel ih =>
    obtain ⟨hv, hi, hf⟩ := ih
    exact ⟨readsValues_succ hi hf, readsItems_succ hv hi, readsFields_succ hv hf⟩

/-- A document is read as it was written. -/
theorem read?_render {d : Datum} (hp : d.isPlain) : read? (render d) = some d := by
  have h := (reads_all (2 * (write 0 d).length + 2)).1 d 0 [] hp (by simp [Ends]) (by omega)
  rw [List.append_nil] at h
  simp [read?, render, h, skipSpace]

end Json

end Cutover
