import Cutover.Graph.Basic
import Mathlib.Data.List.Chain
import Mathlib.Data.List.Nodup
import Mathlib.Logic.Relation
import Mathlib.Tactic.Common

/-!
# Prerequisites as a relation

What declarations say of which domain has to wait for which, and what makes them a graph: names
that are distinct, prerequisites that are declared, and no way from a domain back to itself.
-/
namespace Cutover

variable {specs : List DomainSpec}

/-- The first domain is declared with the second one as a prerequisite. -/
def Requires (specs : List DomainSpec) (a b : Domain) : Prop :=
  ∃ s ∈ specs, s.name = a ∧ b ∈ s.dependsOn

theorem requires_of_mem {s : DomainSpec} {d : Domain} (hs : s ∈ specs) (hd : d ∈ s.dependsOn) :
    Requires specs s.name d := ⟨s, hs, rfl, hd⟩

/-- No domain leads along prerequisites back to itself. -/
def Acyclic (specs : List DomainSpec) : Prop := ∀ d, ¬Relation.TransGen (Requires specs) d d

/-- A way along prerequisites from a domain back to it, through no domain twice. -/
def IsCycle (specs : List DomainSpec) (path : List Domain) : Prop :=
  ∃ d ds, path = d :: ds ++ [d] ∧ (d :: ds).Nodup ∧ path.IsChain (Requires specs)

/-- A chain of more than one domain leads from its first to its last. -/
theorem transGen_of_isChain {a b : Domain} {ds : List Domain}
    (h : (a :: ds ++ [b]).IsChain (Requires specs)) : Relation.TransGen (Requires specs) a b := by
  induction ds generalizing a with
  | nil => exact .single (by simpa using h)
  | cons d ds ih =>
    rw [List.cons_append, List.cons_append, List.isChain_cons_cons] at h
    exact .head h.1 (ih h.2)

/-- The domains of a chain are declared, the last one aside. -/
theorem exists_declared_of_isChain {last d : Domain} {trail : List Domain}
    (h : (trail ++ [last]).IsChain (Requires specs)) (hd : d ∈ trail) :
    ∃ s ∈ specs, s.name = d := by
  obtain ⟨before, after, rfl⟩ := List.append_of_mem hd
  rw [List.append_assoc] at h
  obtain ⟨b, ⟨s, hs, hn, -⟩, -⟩ :=
    Relation.TransGen.head'_iff.mp (transGen_of_isChain h.right_of_append)
  exact ⟨s, hs, hn⟩

theorem IsCycle.not_acyclic {path : List Domain} (h : IsCycle specs path) : ¬Acyclic specs := by
  obtain ⟨d, ds, rfl, -, hc⟩ := h
  exact fun ha => ha d (transGen_of_isChain hc)

/-- Declarations in which each domain is found under its name, and each prerequisite is found. -/
structure Resolved (specs : List DomainSpec) : Prop where
  distinct : (specs.map (·.name)).Nodup
  declared : ∀ s ∈ specs, ∀ d ∈ s.dependsOn, d ∈ specs.map (·.name)

namespace Resolved

theorem eq_of_name_eq (hr : Resolved specs) {s t : DomainSpec} (hs : s ∈ specs) (ht : t ∈ specs)
    (h : s.name = t.name) : s = t :=
  List.inj_on_of_nodup_map hr.distinct hs ht h

/-- The prerequisites of a declared domain are those of its declaration. -/
theorem requires_iff (hr : Resolved specs) {s : DomainSpec} (hs : s ∈ specs) {d : Domain} :
    Requires specs s.name d ↔ d ∈ s.dependsOn := by
  constructor
  · rintro ⟨t, ht, hn, hd⟩
    rwa [hr.eq_of_name_eq hs ht hn.symm]
  · exact requires_of_mem hs

theorem exists_find? (hr : Resolved specs) {a d : Domain} (h : Requires specs a d) :
    ∃ s ∈ specs, s.name = d ∧ specs.find? (·.name = d) = some s := by
  obtain ⟨t, ht, -, hd⟩ := h
  obtain ⟨s, hs, hn⟩ := List.mem_map.mp (hr.declared t ht d hd)
  cases hf : specs.find? (·.name = d) with
  | none => simp [List.find?_eq_none] at hf; exact absurd hn (hf s hs)
  | some u =>
    have hu : u.name = d := by simpa using List.find?_some hf
    exact ⟨u, List.mem_of_find?_eq_some hf, hu, rfl⟩

end Resolved

end Cutover
