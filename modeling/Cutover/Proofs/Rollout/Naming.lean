import Cutover.Cli.Run
import Cutover.Proofs.Rollout.History
import Cutover.Proofs.Warehouse.Domain

/-!
# Naming the domain to migrate

A migration fails as such for one reason only: its text spells no domain of the graph. Then nothing
has been done at all. In every other case there is a run of the domain that the text spells, and
whatever goes wrong is told by that run.
-/
namespace Cutover

namespace DomainGraph

variable {g : DomainGraph} {text : String} {d : Domain}

/-- Whether a text spells a domain that is declared. -/
def Names (g : DomainGraph) (text : String) (d : Domain) : Prop :=
  d ∈ g.specs.map (·.name) ∧ d.SpelledBy text

/-- What is said of a text that names no declared domain. -/
def unknown (g : DomainGraph) (text : String) : Error :=
  .unknownDomain text (g.specs.map (·.name.name))

theorem lookup_of_names (h : g.Names text d) :
    ∃ spec, g.lookup text = .ok spec ∧ spec.name = d := by
  obtain ⟨spec, hspec, hname⟩ := List.mem_map.mp h.1
  have htext := Domain.ofText?_eq_some_iff.mpr h.2
  cases hf : g.find? d with
  | none =>
    rw [find?, List.find?_eq_none] at hf
    exact absurd hname (by simpa using hf spec hspec)
  | some spec' =>
    exact ⟨spec', by rw [lookup, htext, Option.bind_some, hf], by simpa using List.find?_some hf⟩

theorem names_of_lookup {spec : DomainSpec} (h : g.lookup text = .ok spec) :
    g.Names text spec.name := by
  unfold lookup at h
  split at h
  · next spec' hs =>
    cases h
    obtain ⟨d, hd, hf⟩ := Option.bind_eq_some_iff.mp hs
    obtain rfl : spec.name = d := by simpa using List.find?_some hf
    exact ⟨List.mem_map_of_mem (List.mem_of_find?_eq_some hf), Domain.ofText?_eq_some_iff.mp hd⟩
  · cases h

theorem lookup_of_not_names (h : ∀ d, ¬g.Names text d) :
    g.lookup text = .error (g.unknown text) := by
  cases hl : g.lookup text with
  | ok spec => exact absurd (names_of_lookup hl) (h _)
  | error e =>
    unfold lookup at hl
    split at hl
    · cases hl
    · exact hl.symm

/-- The common domain is declared in no graph, however it is spelled. -/
theorem not_names_of_common (hv : Valid g.specs) (h : Domain.common.SpelledBy text) (d : Domain) :
    ¬g.Names text d := by
  rintro ⟨hdeclared, hd⟩
  have hboth := (Domain.ofText?_eq_some_iff.mpr h).symm.trans (Domain.ofText?_eq_some_iff.mpr hd)
  obtain rfl : Domain.common = d := Option.some.inj hboth
  obtain ⟨spec, hspec, hname⟩ := List.mem_map.mp hdeclared
  exact hv.noCommon spec hspec hname

end DomainGraph

theorem exists_migrate_of_names {σ : Type} (env : Environment σ) {g : DomainGraph} {text : String}
    {d : Domain} (h : g.Names text d) (w : σ) :
    ∃ a, migrate env g text w = .ok a ∧ a.run.domain = d := by
  obtain ⟨spec, hl, rfl⟩ := DomainGraph.lookup_of_names h
  exact ⟨_, migrate_of_lookup env hl w, Attempt.domain_passGates env spec w⟩

theorem migrate_of_not_names {σ : Type} (env : Environment σ) {g : DomainGraph} {text : String}
    (h : ∀ d, ¬g.Names text d) (w : σ) : migrate env g text w = .error (g.unknown text) := by
  rw [migrate, DomainGraph.lookup_of_not_names h, Except.map]

theorem Cli.migrate_of_not_names {σ : Type} {c : Config} {g : DomainGraph} (hc : c.graph = .ok g)
    {text : String} (h : ∀ d, ¬g.Names text d) (w : Cli.Surroundings σ)
    (target : String) :
    Cli.migrate w c text target = .failed w.files [] (g.unknown text).message := by
  have hl := DomainGraph.lookup_of_not_names h
  simp only [Cli.migrate, hc, Except.bind, hl, Except.map, DomainGraph.unknown, Error.chain]

/-- A migration is refused just if its text, with the white space around it taken off and its ASCII
letters in lower case, is not the name of a declared domain, and that of the common domain never is.
Then the error gives the text as it is and the declared domains as they were declared, nobody is
asked, nothing is told and all files stay as they are, whether the request comes from a session or
from a command line, whatever services that has. Any other text leads to a run of the domain it
names, whatever the surroundings reply and whenever they cancel. -/
theorem migrate_refused_iff {g : DomainGraph}
    (hg : g = .builtin ∨ ∃ specs, DomainGraph.ofSpecs specs = .ok g) (text : String) :
    (∀ (σ : Type) (env : Environment σ) w,
      (∃ e, migrate env g text w = .error e) ↔ ∀ d, ¬g.Names text d) ∧
    (Domain.common.SpelledBy text → ∀ d, ¬g.Names text d) ∧
    ((∀ d, ¬g.Names text d) →
      (∀ (σ : Type) (env : Environment σ) w, migrate env g text w = .error (g.unknown text)) ∧
      (∀ cwd path c marking s,
        Session.migrate g cwd path text c marking s = (.error (g.unknown text), s)) ∧
      ∀ (σ : Type) (w : Cli.Surroundings σ) c target, c.graph = .ok g →
        Cli.migrate w c text target = .failed w.files [] (g.unknown text).message) ∧
    ∀ d, g.Names text d →
      (∀ (σ : Type) (env : Environment σ) w,
        ∃ a, migrate env g text w = .ok a ∧ a.run.domain = d) ∧
      ∀ cwd path c marking s, ∃ m,
        (Session.migrate g cwd path text c marking s).1 = .ok m ∧ m.run.domain = d := by
  have hv : Valid g.specs := DomainGraph.valid_of_accepted hg
  refine ⟨fun σ env w => ⟨?_, fun h => ⟨_, migrate_of_not_names env h w⟩⟩,
    fun h d => DomainGraph.not_names_of_common hv h d,
    fun h => ⟨fun σ env w => migrate_of_not_names env h w, fun cwd path c marking s => ?_,
      fun σ w c target hc => Cli.migrate_of_not_names hc h w target⟩,
    fun d h => ⟨fun σ env w => exists_migrate_of_names env h w, fun cwd path c marking s => ?_⟩⟩
  · rintro ⟨e, he⟩ d hd
    obtain ⟨a, ha, -⟩ := exists_migrate_of_names env hd w
    rw [ha] at he
    cases he
  · exact Session.migrate_of_unknown (DomainGraph.lookup_of_not_names h) marking s
  · obtain ⟨a, ha, hdomain⟩ :=
      exists_migrate_of_names (Session.environment c cwd path) h s
    rw [Session.migrate, ha]
    dsimp only
    split
    · exact ⟨_, rfl, hdomain⟩
    · exact ⟨_, rfl, hdomain⟩

/-- The name of a declared domain between blanks of two kinds, and the common domain. -/
theorem migrate_refused_iff_cost :
    let g := DomainGraph.builtin
    let locked : Collaborators := { Collaborators.helpful with
      stateFault := fun _ _ => some (.database "locked") }
    (∀ s, ∃ m, (Session.migrate g [] "state.json" "\u3000 COst\n" locked true s).1 = .ok m ∧
      m.run.domain = .cost) ∧
    ∀ s, Session.migrate g [] "state.json" "Common\t" locked true s =
      (.error (.unknownDomain "Common\t"
        ["sales", "production", "inventory", "purchase", "quality", "cost"]), s) := by
  intro g locked
  have hcost : g.Names "\u3000 COst\n" .cost :=
    ⟨by decide, ['\u3000', ' '], "COst".toList, ['\n'], by decide, by simp [Text.blanks],
      by simp [Text.blanks], by decide⟩
  have hcommon : Domain.common.SpelledBy "Common\t" :=
    ⟨[], "Common".toList, ['\t'], by decide, by simp, by simp [Text.blanks], by decide⟩
  obtain ⟨-, -, -, hrun⟩ := migrate_refused_iff (.inl rfl) "\u3000 COst\n"
  obtain ⟨-, hnever, hrefused, -⟩ := migrate_refused_iff (g := g) (.inl rfl) "Common\t"
  exact ⟨(hrun .cost hcost).2 [] "state.json" locked true,
    (hrefused (hnever hcommon)).2.1 [] "state.json" locked true⟩

end Cutover
