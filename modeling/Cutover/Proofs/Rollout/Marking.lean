import Cutover.Proofs.Rollout.Store

/-!
# What a marking comes to

How a marking comes out and what it leaves behind is told by what stood at the path of the state
file: the text of one more domain, or all as it was if no set could be read there.
-/
namespace Cutover

namespace StateFile

variable {t : FileTree} {cwd : Place} {path : String} {e : Option FileEntry} {known : DomainSet}
  {d : Domain} {ds : List Domain}

/-- How a marking comes out. -/
def marking (e : Option FileEntry) : Except Error Unit := (reading e).map fun _ => ()

/-- What stands at the path of a state file after a domain was marked. -/
def marked (e : Option FileEntry) (d : Domain) : Option FileEntry :=
  match reading e with
  | .ok known => some (.file (encode (known.insert d)).toUTF8)
  | .error _ => e

theorem reading_encode (s : DomainSet) : reading (some (.file (encode s).toUTF8)) = .ok s := by
  have htext := FileTree.fromUTF8?_toUTF8 (encode s)
  simp only [reading, FileTree.entryText, htext, decode?_encode]

theorem marked_of_reading (h : reading e = .ok known) (d : Domain) :
    marked e d = some (.file (encode (known.insert d)).toUTF8) := by
  simp only [marked, h]

theorem reading_marked (e : Option FileEntry) (d : Domain) :
    reading (marked e d) = (reading e).map (·.insert d) := by
  cases h : reading e with
  | ok known =>
    rw [marked_of_reading h, reading_encode]
    rfl
  | error fault => simp only [marked, h, Except.map]

@[simp] theorem marking_marked (e : Option FileEntry) (d : Domain) :
    marking (marked e d) = marking e := by
  rw [marking, marking, reading_marked]
  cases reading e <;> rfl

/-- In which order two domains are marked makes no difference. -/
theorem marked_comm (e : Option FileEntry) (d d' : Domain) :
    marked (marked e d) d' = marked (marked e d') d := by
  have hfirst := reading_marked e d
  have hsecond := reading_marked e d'
  cases h : reading e with
  | error fault => simp only [marked, h]
  | ok known =>
    have hcomm : (known.insert d).insert d' = (known.insert d').insert d := by
      apply Std.ExtTreeSet.ext_mem
      intro x
      simp only [Std.ExtTreeSet.mem_insert]
      exact or_left_comm
    rw [h] at hfirst hsecond
    rw [marked_of_reading hfirst, marked_of_reading hsecond, hcomm]

/-- A marking finds all it depends on at the path of the state file. -/
theorem Stands.mark_eq (h : Stands cwd path e t) (d : Domain) :
    ∃ t', StateFile.mark t cwd path d = (marking e, t') ∧ Stands cwd path (marked e d) t' := by
  cases hr : reading e with
  | ok known =>
    obtain ⟨t', hmark, hstands⟩ := h.mark (told?_of_reading hr) d
    refine ⟨t', ?_, ?_⟩
    · rw [hmark, marking, hr]
      rfl
    · rw [marked_of_reading hr]
      exact hstands
  | error fault =>
    have hm : migrated t cwd path = .error fault := by
      rw [migrated_eq_reading h.canHold, h.found, hr]
    refine ⟨t, ?_, ?_⟩
    · rw [StateFile.mark, hm, marking, hr]
      rfl
    · simpa [marked, hr] using h

/-- What stands in two places tells the same of these domains, and whether more can be marked. -/
structure TellsAlike (ds : List Domain) (e e' : Option FileEntry) : Prop where
  marking : marking e = marking e'
  answer : ∀ d ∈ ds, (reading e).map (·.contains d) = (reading e').map (·.contains d)

theorem TellsAlike.refl (ds : List Domain) (e : Option FileEntry) : TellsAlike ds e e :=
  ⟨rfl, fun _ _ => rfl⟩

/-- Marking a domain makes no difference to what is told of others. -/
theorem tellsAlike_marked (hd : d ∉ ds) (e : Option FileEntry) : TellsAlike ds e (marked e d) where
  marking := (marking_marked e d).symm
  answer := by
    intro d' hd'
    have hne : d ≠ d' := fun he => hd (he ▸ hd')
    rw [reading_marked]
    cases reading e with
    | error fault => rfl
    | ok known => simp [Except.map, Std.ExtTreeSet.contains_insert, hne]

end StateFile

namespace Session

variable {g : DomainGraph} {cwd : Place} {path : String} {c : Collaborators} {s : Session}
  {e : Option FileEntry} {spec : DomainSpec} {cs : List Collaborators} {start : FileTree}

open StateFile (Stands marking marked)

/-- What a request comes to. -/
def outcome (g : DomainGraph) (cwd : Place) (path : String) (s : Session) (r : Request) :
    Except Error Migration :=
  (migrate g cwd path r.text r.collaborators r.marking { s with cancelled := r.cancelled }).1

theorem outcomes_cons (g : DomainGraph) (cwd : Place) (path : String) (r : Request)
    (requests : List Request) (s : Session) :
    outcomes g cwd path (r :: requests) s =
      outcome g cwd path s r :: outcomes g cwd path requests (serve g cwd path s r) := rfl

/-- What a request for a domain comes to is told by its run. -/
theorem outcome_of_lookup {r : Request} (hl : g.lookup r.text = .ok spec) (s : Session) :
    let a := Attempt.passGates (environment r.collaborators cwd path) spec
      (.fresh spec { s with cancelled := r.cancelled })
    outcome g cwd path s r = .ok ⟨a.run, a.log,
      if r.marking && a.run.isSuccess then some (mark cwd path a.run.domain a.world).1
      else none⟩ := by
  intro a
  rw [outcome, migrate, migrate_of_lookup _ hl]
  cases hm : r.marking && a.run.isSuccess <;> simp [a, hm]

/-- A migration is its run, and the marking after it if there is one. -/
theorem exists_migrate {text : String} (hl : g.lookup text = .ok spec) (hmem : c ∈ cs)
    (hc : c.LeavesFile (Reached cs cwd path start) cwd path) (asked : Bool)
    (hs : Reached cs cwd path start s.files) (h : Stands cwd path e s.files) :
    let a := Attempt.passGates (environment c cwd path) spec (.fresh spec s)
    ∃ s', migrate g cwd path text c asked s =
        (.ok ⟨a.run, a.log, if asked && a.run.isSuccess then some (marking e) else none⟩, s') ∧
      Stands cwd path (if asked && a.run.isSuccess then marked e spec.name else e) s'.files := by
  obtain ⟨-, hworld⟩ := stands_passGates hmem hc spec hs h
  have hdomain := Attempt.domain_passGates (environment c cwd path) spec s
  rw [migrate, migrate_of_lookup _ hl]
  intro a
  obtain ⟨t', hmark, hstands⟩ := hworld.mark_eq a.run.domain
  cases hm : asked && a.run.isSuccess with
  | false => exact ⟨a.world, by simp [a, hm], by simpa using hworld⟩
  | true =>
    refine ⟨{ a.world with files := t' }, ?_, ?_⟩
    · simp [a, hm, mark, hmark]
    · rw [show a.run.domain = spec.name from hdomain] at hstands
      exact hstands

end Session

end Cutover
