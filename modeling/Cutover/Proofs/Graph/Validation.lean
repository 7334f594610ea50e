import Cutover.Config
import Cutover.Proofs.Graph.Order

/-!
# Which declarations make a graph

The three checks of declarations, of names, of prerequisites and of cycles, let through exactly
the declarations in which nothing is wrong. Every configuration that is read has such a graph.
-/
namespace Cutover

variable {specs : List DomainSpec}

/-- Declarations in which nothing is wrong. -/
structure Valid (specs : List DomainSpec) : Prop extends Resolved specs where
  noCommon : ∀ s ∈ specs, s.name ≠ .common
  acyclic : Acyclic specs

namespace DomainGraph

theorem badName?_eq_none_iff {seen : List Domain} :
    badName? seen specs = none ↔
      (∀ s ∈ specs, s.name ≠ .common ∧ s.name ∉ seen) ∧ (specs.map (·.name)).Nodup := by
  induction specs generalizing seen with
  | nil => simp [badName?]
  | cons s specs ih =>
    rw [badName?]
    split
    · next hc => simp [hc]
    · next hc =>
      split
      · next hs => simp [hs]
      · next hs =>
        rw [ih]
        simp only [List.mem_cons, forall_eq_or_imp, List.map_cons, List.nodup_cons, List.mem_map,
          not_or, not_exists, not_and]
        constructor
        · rintro ⟨hall, hnd⟩
          exact ⟨⟨⟨hc, hs⟩, fun t ht => ⟨(hall t ht).1, (hall t ht).2.2⟩⟩,
            fun t ht => (hall t ht).2.1, hnd⟩
        · rintro ⟨⟨-, hall⟩, hne, hnd⟩
          exact ⟨fun t ht => ⟨(hall t ht).1, hne t ht, (hall t ht).2⟩, hnd⟩

theorem dangling?_eq_none_iff {declared : List Domain} :
    dangling? declared specs = none ↔ ∀ s ∈ specs, ∀ d ∈ s.dependsOn, d ∈ declared := by
  simp [dangling?, List.findSome?_eq_none_iff, List.find?_eq_none]

/-- Where the names and the prerequisites pass, each domain is found under its name. -/
theorem resolved_of_checks (hb : badName? [] specs = none)
    (hd : dangling? (specs.map (·.name)) specs = none) : Resolved specs :=
  ⟨(badName?_eq_none_iff.mp hb).2, dangling?_eq_none_iff.mp hd⟩

theorem fault?_eq_none_iff : fault? specs = none ↔ Valid specs := by
  have hfault : fault? specs = none ↔ (badName? [] specs = none ∧
      dangling? (specs.map (·.name)) specs = none) ∧ findCycle specs = none := by
    simp only [fault?, Option.orElse_eq_or, Option.or_eq_none_iff,
      Option.map_eq_none_iff]
  rw [hfault]
  constructor
  · rintro ⟨⟨hb, hd⟩, hc⟩
    have hr := resolved_of_checks hb hd
    have hn := (badName?_eq_none_iff.mp hb).1
    exact ⟨hr, fun s hs => (hn s hs).1, (findCycle_eq_none_iff hr).mp hc⟩
  · intro h
    refine ⟨⟨badName?_eq_none_iff.mpr ⟨fun s hs => ⟨h.noCommon s hs, by simp⟩, h.distinct⟩,
      dangling?_eq_none_iff.mpr h.declared⟩, (findCycle_eq_none_iff h.toResolved).mpr h.acyclic⟩

theorem ofSpecs_eq_ok_iff {g : DomainGraph} :
    ofSpecs specs = .ok g ↔ g.specs = specs ∧ Valid specs := by
  rw [← fault?_eq_none_iff, ofSpecs]
  cases fault? specs with
  | some e => simp
  | none =>
    cases g
    simp [eq_comm]

theorem mem_of_lookup {g : DomainGraph} {text : String} {spec : DomainSpec}
    (h : g.lookup text = .ok spec) : spec ∈ g.specs := by
  unfold lookup at h
  split at h
  · next spec' hs =>
    cases h
    obtain ⟨d, -, hd⟩ := Option.bind_eq_some_iff.mp hs
    exact List.mem_of_find?_eq_some hd
  · simp at h

theorem builtin_valid : Valid builtin.specs :=
  (ofSpecs_eq_ok_iff (g := builtin)).mp (by decide) |>.2

/-- Nothing is wrong with the graph in use where none is configured, nor with one that has been
checked. -/
theorem valid_of_accepted {g : DomainGraph} (hg : g = .builtin ∨ ∃ specs, ofSpecs specs = .ok g) :
    Valid g.specs := by
  rcases hg with rfl | ⟨specs, ho⟩
  · exact builtin_valid
  · obtain ⟨rfl, hv⟩ := ofSpecs_eq_ok_iff.mp ho
    exact hv

end DomainGraph

theorem Config.graph_valid {c : Config} {g : DomainGraph} (h : c.graph = .ok g) :
    Valid g.specs := by
  unfold Config.graph at h
  cases hd : c.domains with
  | none =>
    rw [hd] at h
    cases h
    exact DomainGraph.builtin_valid
  | some specs =>
    rw [hd] at h
    cases ho : DomainGraph.ofSpecs specs with
    | error e => simp [ho, Except.mapError] at h
    | ok g' =>
      simp only [ho, Except.mapError, Except.ok.injEq] at h
      obtain ⟨hs, hv⟩ := DomainGraph.ofSpecs_eq_ok_iff.mp ho
      rw [← h, hs]
      exact hv

theorem Config.exists_graph_of_parse {text : String} {c : Config} (h : parse text = .ok c) :
    ∃ g, c.graph = .ok g := by
  unfold parse at h
  split at h
  · simp at h
  · next c' _ =>
    cases hg : c'.graph with
    | error e => simp [hg] at h
    | ok g =>
      simp only [hg, Except.ok.injEq] at h
      exact ⟨g, h ▸ hg⟩

/-- Declarations make a graph just if no domain is the common one, none is declared twice, each
prerequisite is declared and no domain waits for itself in the end; the graph has them as they
are. Where names and prerequisites are in order the search for cycles never has to give up, and
no cycle means that the domains can be put in an order of migration. Every configuration that is
read has such a graph. -/
theorem ofSpecs_accepts_valid :
    (∀ specs g, DomainGraph.ofSpecs specs = .ok g ↔ g.specs = specs ∧
      (∀ s ∈ specs, s.name ≠ .common) ∧ (specs.map (·.name)).Nodup ∧
      (∀ s ∈ specs, ∀ d ∈ s.dependsOn, ∃ t ∈ specs, t.name = d) ∧ Acyclic specs) ∧
    (∀ specs, (specs.map (·.name)).Nodup →
      (∀ s ∈ specs, ∀ d ∈ s.dependsOn, ∃ t ∈ specs, t.name = d) →
      search specs ≠ .stuck ∧ (Acyclic specs ↔ ∃ order, IsMigrationOrder specs order)) ∧
    ∀ text c, Config.parse text = .ok c → ∃ g, c.graph = .ok g ∧ Valid g.specs := by
  refine ⟨?_, ?_, ?_⟩
  · intro specs g
    rw [DomainGraph.ofSpecs_eq_ok_iff]
    constructor
    · rintro ⟨hg, hv⟩
      exact ⟨hg, hv.noCommon, hv.distinct, by simpa using hv.declared, hv.acyclic⟩
    · rintro ⟨hg, hn, hd, hp, ha⟩
      exact ⟨hg, ⟨hd, by simpa using hp⟩, hn, ha⟩
  · intro specs hd hp
    have hr : Resolved specs := ⟨hd, by simpa using hp⟩
    exact ⟨search_ne_stuck hr, acyclic_iff_exists_order hr⟩
  · intro text c h
    obtain ⟨g, hg⟩ := Config.exists_graph_of_parse h
    exact ⟨g, hg, Config.graph_valid hg⟩

theorem ofSpecs_accepts_valid_builtin :
    DomainGraph.ofSpecs DomainGraph.builtin.specs = .ok .builtin ∧
    search DomainGraph.builtin.specs ≠ .stuck ∧
    let text :=
      "[[domains]]\nname = \"sales\"\n[[domains]]\nname = \"cost\"\ndepends_on = [\"sales\"]"
    let c : Config :=
      { domains := some [{ name := .sales }, { name := .cost, dependsOn := [.sales] }] }
    Config.parse text = .ok c ∧ ∃ g, c.graph = .ok g ∧ Valid g.specs := by
  obtain ⟨hok, hsearch, hparse⟩ := ofSpecs_accepts_valid
  refine ⟨(hok _ _).mpr ⟨rfl, ?_⟩, (hsearch _ (by decide) (by decide)).1, ?_⟩
  · have hvalid : Valid DomainGraph.builtin.specs := DomainGraph.builtin_valid
    exact ⟨hvalid.noCommon, hvalid.distinct, by decide, hvalid.acyclic⟩
  · intro text c
    have hread : Config.parse text = .ok c := by decide +kernel
    exact ⟨hread, hparse text c hread⟩

end Cutover
