import Cutover.Proofs.Graph.Validation

/-!
# The order of migration is stable

Each domain of the order of migration is the first declared one that is ready when its turn
comes. Another order in which prerequisites come first can leave this one only for a domain that
is declared later, so the order of migration is the least of them all.
-/
namespace Cutover

variable {specs : List DomainSpec} {order before : List Domain}

/-- Where a domain stands among the declared ones. -/
def position (specs : List DomainSpec) (d : Domain) : Nat := (specs.map (·.name)).idxOf d

/-- Among declarations with distinct names the first one that is looked for stands before all
others. -/
theorem position_lt_of_find? (hd : (specs.map (·.name)).Nodup) {p : DomainSpec → Bool}
    {s t : DomainSpec} (hs : specs.find? p = some s) (ht : t ∈ specs) (hp : p t)
    (hne : t.name ≠ s.name) : position specs s.name < position specs t.name := by
  obtain ⟨-, front, rest, rfl, hfront⟩ := List.find?_eq_some_iff_append.mp hs
  rw [List.map_append, List.map_cons, List.nodup_append] at hd
  have hnot : ∀ u ∈ s :: rest, u.name ∉ front.map (·.name) := by
    intro u hu hm
    exact hd.2.2 u.name hm u.name (List.map_cons ▸ List.mem_map_of_mem hu) rfl
  have htrest : t ∈ s :: rest := by
    rcases List.mem_append.mp ht with hm | hm
    · simpa [hp] using hfront t hm
    · exact hm
  have hs0 : position (front ++ s :: rest) s.name = front.length := by
    simp [position, List.idxOf_append_of_notMem (hnot s (by simp))]
  have ht0 : position (front ++ s :: rest) t.name =
      front.length + ((s.name :: rest.map (·.name)).idxOf t.name) := by
    simp [position, List.idxOf_append_of_notMem (hnot t htrest)]
  rw [hs0, ht0, List.idxOf_cons_ne _ (Ne.symm hne)]
  omega

namespace DomainGraph

/-- Whether each domain of the order is the first declared one that is ready when its turn comes,
after those that are done. -/
def Greedy (specs : List DomainSpec) (done order : List Domain) : Prop :=
  ∀ before d rest, order = before ++ d :: rest →
    (specs.find? (ready (done ++ before))).map (·.name) = some d

theorem Greedy.nil {done : List Domain} : Greedy specs done [] := by
  simp [Greedy]

theorem greedy_cons {done : List Domain} {d : Domain} :
    Greedy specs done (d :: order) ↔
      (specs.find? (ready done)).map (·.name) = some d ∧ Greedy specs (done ++ [d]) order := by
  constructor
  · intro h
    refine ⟨by simpa using h [] d order rfl, fun before e rest he => ?_⟩
    simpa using h (d :: before) e rest (by simp [he])
  · rintro ⟨hd, ho⟩ before e rest he
    rcases List.cons_eq_append_iff.mp he with ⟨rfl, he⟩ | ⟨before, rfl, he⟩
    · obtain ⟨rfl, rfl⟩ := List.cons.inj he
      simpa using hd
    · simpa using ho before e rest (List.cons.inj he).2

/-- What is added to an order are the first ready domains, one after the other. -/
theorem exists_greedy_orderFrom (specs : List DomainSpec) (n : Nat) (order : List Domain) :
    ∃ added, orderFrom specs n order = order ++ added ∧ Greedy specs order added := by
  induction n generalizing order with
  | zero => exact ⟨[], by simp [orderFrom], .nil⟩
  | succ n ih =>
    rw [orderFrom]
    cases hf : specs.find? (ready order) with
    | none => exact ⟨[], by simp, .nil⟩
    | some s =>
      obtain ⟨added, ha, hg⟩ := ih (order ++ [s.name])
      exact ⟨s.name :: added, by simpa using ha, greedy_cons.mpr ⟨by simp [hf], hg⟩⟩

theorem greedy_migrationOrder (g : DomainGraph) : Greedy g.specs [] g.migrationOrder := by
  obtain ⟨added, ha, hg⟩ := exists_greedy_orderFrom g.specs g.specs.length []
  rw [List.nil_append] at ha
  rwa [migrationOrder, ha]

/-- The domain that comes next in an order is ready. -/
theorem ready_of_isMigrationOrder (hr : Resolved specs) {s : DomainSpec} (hs : s ∈ specs)
    {done rest : List Domain} (ho : IsMigrationOrder specs (done ++ s.name :: rest)) :
    ready done s = true := by
  have hn := ho.ordered.nodup
  rw [List.nodup_append] at hn
  exact (ready_iff hr hs).mpr ⟨fun hm => hn.2.2 s.name hm s.name (by simp) rfl,
    ho.ordered.after done s.name rest rfl⟩

/-- Where two orders begin alike, the one that goes on with the first ready domain each time is
not the greater one. -/
theorem Greedy.lex_or_eq (hr : Resolved specs) {done rest rest' : List Domain}
    (hg : Greedy specs done rest) (ho : IsMigrationOrder specs (done ++ rest))
    (ho' : IsMigrationOrder specs (done ++ rest')) :
    List.Lex (fun a b => position specs a < position specs b) rest rest' ∨ rest' = rest := by
  have hlen : rest'.length = rest.length := by
    have h := ho'.perm.length_eq.trans ho.perm.length_eq.symm
    simpa using h
  induction rest generalizing done rest' with
  | nil => exact .inr (List.length_eq_zero_iff.mp hlen)
  | cons d rest ih =>
    obtain ⟨d', rest', rfl⟩ := List.exists_cons_of_length_eq_add_one hlen
    obtain ⟨hnext, hgrest⟩ := greedy_cons.mp hg
    by_cases hd : d' = d
    · subst hd
      have htail := ih hgrest (by simpa using ho) (by simpa using ho') (by simpa using hlen)
      rcases htail with hlex | heq
      · exact .inl (.cons hlex)
      · exact .inr (heq ▸ rfl)
    · obtain ⟨s, hs, rfl⟩ := Option.map_eq_some_iff.mp hnext
      have hmem : d' ∈ specs.map (·.name) := ho'.mem_iff.mp (by simp)
      obtain ⟨t, ht, rfl⟩ := List.mem_map.mp hmem
      exact .inl (.rel (position_lt_of_find? hr.distinct hs ht
        (ready_of_isMigrationOrder hr ht ho') hd))

end DomainGraph

/-- The order of a graph without a cycle goes on, at each of its places, with the first declared
domain that is ready there. -/
theorem DomainGraph.exists_find?_ready {g : DomainGraph}
    (ho : IsMigrationOrder g.specs g.migrationOrder) {n : Nat} (hn : n < g.specs.length) :
    ∃ s, g.specs.find? (ready (g.migrationOrder.take n)) = some s ∧
      g.migrationOrder[n]? = some s.name := by
  have hlen : n < g.migrationOrder.length := by
    rw [ho.perm.length_eq, List.length_map]
    exact hn
  have hsplit : g.migrationOrder =
      g.migrationOrder.take n ++ g.migrationOrder[n] :: g.migrationOrder.drop (n + 1) := by
    rw [List.getElem_cons_drop, List.take_append_drop]
  have hfind := greedy_migrationOrder g _ _ _ hsplit
  rw [List.nil_append] at hfind
  obtain ⟨s, hs, hname⟩ := Option.map_eq_some_iff.mp hfind
  exact ⟨s, hs, by rw [List.getElem?_eq_getElem hlen, hname]⟩

/-- A graph's order of migration has all its domains, each once and after its prerequisites. The
search for the next ready domain finds one at each place, the first declared one, and never comes
back with nothing. Any other order with the prerequisites first is greater, as the domains are
declared. -/
theorem migrationOrder_least {g : DomainGraph}
    (hg : g = .builtin ∨ ∃ specs, DomainGraph.ofSpecs specs = .ok g) :
    IsMigrationOrder g.specs g.migrationOrder ∧
    (∀ n < g.specs.length, ∃ s,
      g.specs.find? (DomainGraph.ready (g.migrationOrder.take n)) = some s ∧
        g.migrationOrder[n]? = some s.name) ∧
    ∀ other, IsMigrationOrder g.specs other → other ≠ g.migrationOrder →
      List.Lex (fun a b => position g.specs a < position g.specs b) g.migrationOrder other := by
  have hv : Valid g.specs := DomainGraph.valid_of_accepted hg
  have ho := DomainGraph.migrationOrder_isMigrationOrder hv.toResolved hv.acyclic
  refine ⟨ho, fun n hn => DomainGraph.exists_find?_ready ho hn, fun other hother hne => ?_⟩
  have hgreedy := DomainGraph.greedy_migrationOrder g
  exact (hgreedy.lex_or_eq hv.toResolved ho hother).resolve_right hne

theorem migrationOrder_least_late :
    let specs : List DomainSpec := [{ name := .cost, dependsOn := [.purchase, .purchase] },
      { name := .quality }, { name := .purchase }]
    DomainGraph.ofSpecs specs = .ok ⟨specs⟩ ∧
      (DomainGraph.mk specs).migrationOrder = [.quality, .purchase, .cost] ∧
      IsMigrationOrder specs [.quality, .purchase, .cost] ∧
      IsMigrationOrder specs [.purchase, .cost, .quality] ∧
      List.Lex (fun a b => position specs a < position specs b) [.quality, .purchase, .cost]
        [.purchase, .cost, .quality] := by
  intro specs
  have hok : DomainGraph.ofSpecs specs = .ok ⟨specs⟩ := by decide
  have horder : (DomainGraph.mk specs).migrationOrder = [.quality, .purchase, .cost] := by decide
  have hr : Resolved specs := (DomainGraph.ofSpecs_eq_ok_iff.mp hok).2.toResolved
  have hother : IsMigrationOrder specs [.purchase, .cost, .quality] := by
    refine ⟨?_, by decide⟩
    have hpurchase : Ordered specs [.purchase] := Ordered.nil.snoc_of_ready hr
      (s := specs[2]) (by decide) (by decide)
    have hcost : Ordered specs [.purchase, .cost] := hpurchase.snoc_of_ready hr
      (s := specs[0]) (by decide) (by decide)
    exact hcost.snoc_of_ready hr (s := specs[1]) (by decide) (by decide)
  have hleast := migrationOrder_least (.inr ⟨specs, hok⟩)
  rw [horder] at hleast
  exact ⟨hok, horder, hleast.1, hother, hleast.2.2 _ hother (by decide)⟩

end Cutover
