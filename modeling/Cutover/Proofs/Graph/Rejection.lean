import Cutover.Proofs.Graph.Validation

/-!
# What a rejection tells

Declarations are refused for the first thing that is wrong with them: the first declaration whose
name cannot stand there, if there is one, and else the first prerequisite that is not declared. Only
where names and prerequisites are in order is a cycle told, and it is one of the declarations.
-/
namespace Cutover

variable {specs : List DomainSpec} {seen declared : List Domain} {e : GraphError}

/-- Whether no declaration is the common one or has the name of an earlier one. -/
def ProperNames (specs : List DomainSpec) : Prop :=
  (∀ s ∈ specs, s.name ≠ .common) ∧ (specs.map (·.name)).Nodup

instance (specs : List DomainSpec) : Decidable (ProperNames specs) :=
  inferInstanceAs (Decidable (_ ∧ _))

/-- Whether all prerequisites are among the declared domains. -/
def RequiresOnly (declared : List Domain) (specs : List DomainSpec) : Prop :=
  ∀ s ∈ specs, ∀ d ∈ s.dependsOn, d ∈ declared

instance (declared : List Domain) (specs : List DomainSpec) :
    Decidable (RequiresOnly declared specs) :=
  inferInstanceAs (Decidable (∀ s ∈ specs, ∀ d ∈ s.dependsOn, d ∈ declared))

namespace DomainGraph

theorem badName?_eq_none_iff_properNames : badName? [] specs = none ↔ ProperNames specs := by
  simp [badName?_eq_none_iff, ProperNames]

/-- The check of names tells of the first declaration that is the common one or has the name of an
earlier one. -/
theorem exists_of_badName? (h : badName? seen specs = some e) :
    ∃ before s after, specs = before ++ s :: after ∧ badName? seen before = none ∧
      (s.name = .common ∧ e = .common ∨
        s.name ≠ .common ∧ (s.name ∈ seen ∨ s.name ∈ before.map (·.name)) ∧
          e = .declaredTwice s.name) := by
  induction specs generalizing seen with
  | nil => simp [badName?] at h
  | cons s specs ih =>
    rw [badName?] at h
    split at h
    · next hc =>
      cases h
      exact ⟨[], s, specs, rfl, rfl, .inl ⟨hc, rfl⟩⟩
    · next hc =>
      split at h
      · next hs =>
        cases h
        exact ⟨[], s, specs, rfl, rfl, .inr ⟨hc, .inl hs, rfl⟩⟩
      · next hs =>
        obtain ⟨before, t, after, rfl, hbefore, ht⟩ := ih h
        refine ⟨s :: before, t, after, rfl, by rw [badName?, if_neg hc, if_neg hs, hbefore], ?_⟩
        rcases ht with ht | ⟨hn, hmem, he⟩
        · exact .inl ht
        · exact .inr ⟨hn, by simpa [or_comm, or_assoc, or_left_comm] using hmem, he⟩

/-- The check of prerequisites tells of the first declaration that has one which is not declared,
and of the first such prerequisite of it. -/
theorem exists_of_dangling? (h : dangling? declared specs = some e) :
    ∃ before s after known missing rest, specs = before ++ s :: after ∧
      RequiresOnly declared before ∧ s.dependsOn = known ++ missing :: rest ∧
      (∀ d ∈ known, d ∈ declared) ∧ missing ∉ declared ∧ e = .undeclared s.name missing := by
  obtain ⟨before, s, after, rfl, hs, hbefore⟩ := List.findSome?_eq_some_iff.mp h
  obtain ⟨missing, hfind, rfl⟩ := Option.map_eq_some_iff.mp hs
  obtain ⟨hmissing, known, rest, hdepends, hknown⟩ := List.find?_eq_some_iff_append.mp hfind
  have hsound : dangling? declared before = none := List.findSome?_eq_none_iff.mpr hbefore
  exact ⟨before, s, after, known, missing, rest, rfl, dangling?_eq_none_iff.mp hsound, hdepends,
    by simpa using hknown, by simpa using hmissing, rfl⟩

/-- An error is that of the first check that fails. -/
theorem fault?_cases (h : fault? specs = some e) :
    badName? [] specs = some e ∨
    ProperNames specs ∧ dangling? (specs.map (·.name)) specs = some e ∨
    ProperNames specs ∧ RequiresOnly (specs.map (·.name)) specs ∧
      ∃ path, IsCycle specs path ∧ e = .cycle path := by
  simp only [fault?, Option.orElse_eq_or, Option.or_eq_some_iff, Option.or_eq_none_iff,
    Option.map_eq_some_iff] at h
  rcases h with (hb | ⟨hb, hd⟩) | ⟨⟨hb, hd⟩, path, hc, rfl⟩
  · exact .inl hb
  · exact .inr (.inl ⟨badName?_eq_none_iff_properNames.mp hb, hd⟩)
  · exact .inr (.inr ⟨badName?_eq_none_iff_properNames.mp hb, dangling?_eq_none_iff.mp hd, path,
      isCycle_of_findCycle (resolved_of_checks hb hd) hc, rfl⟩)

/-- Declarations that are refused are refused for the first offence. If a declaration is the common
one or has the name of an earlier one, the error tells of the first that is or has. If none is, but
a prerequisite is not declared, the error names the first declaration with such a prerequisite and
the first of these. Otherwise the error lists a way along prerequisites from a domain back to it,
through no domain twice. What it names is in its message. -/
theorem ofSpecs_blames_first (h : ofSpecs specs = .error e) :
    (¬ProperNames specs → ∃ before s after, specs = before ++ s :: after ∧ ProperNames before ∧
      (s.name = .common ∧ e = .common ∧ e.message = "'common' cannot be migrated as a domain" ∨
        s.name ≠ .common ∧ s.name ∈ before.map (·.name) ∧ e = .declaredTwice s.name ∧
          e.message = "domain '" ++ s.name.name ++ "' is declared twice")) ∧
    (ProperNames specs → ¬RequiresOnly (specs.map (·.name)) specs →
      ∃ before s after known missing rest, specs = before ++ s :: after ∧
        RequiresOnly (specs.map (·.name)) before ∧ s.dependsOn = known ++ missing :: rest ∧
        (∀ d ∈ known, d ∈ specs.map (·.name)) ∧ missing ∉ specs.map (·.name) ∧
        e = .undeclared s.name missing ∧ e.message =
          "domain '" ++ s.name.name ++ "' depends on undeclared domain '" ++ missing.name ++ "'") ∧
    (ProperNames specs → RequiresOnly (specs.map (·.name)) specs →
      ∃ path, IsCycle specs path ∧ e = .cycle path ∧
        e.message = "dependency cycle: " ++ " -> ".intercalate (path.map Domain.name)) := by
  have hfault : fault? specs = some e := by
    rw [ofSpecs] at h
    split at h
    · next he => rwa [← Except.error.inj h]
    · cases h
  rcases fault?_cases hfault with hb | ⟨hnames, hd⟩ | ⟨hnames, honly, path, hcycle, rfl⟩
  · have hnot : ¬ProperNames specs := by simp [← badName?_eq_none_iff_properNames, hb]
    refine ⟨fun _ => ?_, fun hnames => absurd hnames hnot, fun hnames => absurd hnames hnot⟩
    obtain ⟨before, s, after, hspecs, hbefore, hs⟩ := exists_of_badName? hb
    refine ⟨before, s, after, hspecs, badName?_eq_none_iff_properNames.mp hbefore, ?_⟩
    rcases hs with ⟨hs, rfl⟩ | ⟨hs, hmem, rfl⟩
    · exact .inl ⟨hs, rfl, rfl⟩
    · exact .inr ⟨hs, by simpa using hmem, rfl, rfl⟩
  · have hnot : ¬RequiresOnly (specs.map (·.name)) specs := by
      intro honly
      simp [dangling?_eq_none_iff.mpr honly] at hd
    refine ⟨absurd hnames, fun _ _ => ?_, fun _ honly => absurd honly hnot⟩
    obtain ⟨before, s, after, known, missing, rest, hs, hbefore, hdepends, hknown, hmissing, rfl⟩ :=
      exists_of_dangling? hd
    exact ⟨before, s, after, known, missing, rest, hs, hbefore, hdepends, hknown, hmissing, rfl,
      rfl⟩
  · exact ⟨absurd hnames, fun _ => absurd honly, fun _ _ => ⟨path, hcycle, rfl, rfl⟩⟩

/-- The walk comes to the cycle from outside, and finishes another domain on the way. -/
theorem ofSpecs_blames_first_outside :
    let specs : List DomainSpec :=
      [ { name := .sales },
        { name := .inventory, dependsOn := [.sales, .production] },
        { name := .production, dependsOn := [.quality] },
        { name := .quality, dependsOn := [.sales, .cost] },
        { name := .cost, dependsOn := [.production] } ]
    let e := GraphError.cycle [.production, .quality, .cost, .production]
    ofSpecs specs = .error e ∧ IsCycle specs [.production, .quality, .cost, .production] ∧
      e.message = "dependency cycle: production -> quality -> cost -> production" := by
  intro specs e
  have h : ofSpecs specs = .error e := by decide
  obtain ⟨path, hcycle, he, hmessage⟩ := (ofSpecs_blames_first h).2.2 (by decide) (by decide)
  obtain rfl := GraphError.cycle.inj he
  exact ⟨h, hcycle, hmessage⟩

end DomainGraph

end Cutover
