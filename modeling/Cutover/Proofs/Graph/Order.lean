import Cutover.Proofs.Graph.Search
import Mathlib.Data.List.Perm.Subperm

/-!
# Orders of migration

Declarations without a cycle can be put in an order in which each domain comes after all its
prerequisites, and such an order leaves no room for a cycle. As long as some domain is missing
from such an order one of the missing ones is ready, so taking ready domains one after the other
reaches them all.
-/
namespace Cutover

variable {specs : List DomainSpec} {order : List Domain}

/-- Some declared domains, none of them twice and each after all its prerequisites. -/
structure Ordered (specs : List DomainSpec) (order : List Domain) : Prop where
  nodup : order.Nodup
  declared : ∀ d ∈ order, d ∈ specs.map (·.name)
  after : ∀ before d rest, order = before ++ d :: rest → ∀ b, Requires specs d b → b ∈ before

/-- An order of all the declared domains. -/
structure IsMigrationOrder (specs : List DomainSpec) (order : List Domain) : Prop where
  ordered : Ordered specs order
  perm : order.Perm (specs.map (·.name))

namespace Ordered

theorem nil : Ordered specs [] where
  nodup := .nil
  declared := by simp
  after := by simp

/-- A domain that is missing and not kept waiting can come next. -/
theorem snoc (h : Ordered specs order) {d : Domain} (hd : d ∈ specs.map (·.name))
    (hn : d ∉ order) (ha : ∀ b, Requires specs d b → b ∈ order) :
    Ordered specs (order ++ [d]) where
  nodup := by simpa [List.nodup_append] using ⟨h.nodup, fun a ha => (hn <| · ▸ ha)⟩
  declared e he := by
    rcases List.mem_append.mp he with he | he
    · exact h.declared e he
    · rwa [List.mem_singleton.mp he]
  after before e rest he b hb := by
    rcases List.eq_nil_or_concat' rest with rfl | ⟨rest, f, rfl⟩
    · obtain ⟨rfl, hde⟩ := List.append_inj' he rfl
      exact ha b ((List.singleton_inj.mp hde) ▸ hb)
    · have he : order ++ [d] = (before ++ e :: rest) ++ [f] := by simpa using he
      exact h.after before e rest (List.append_inj' he rfl).1 b hb

/-- A prerequisite stands further to the front. -/
theorem idxOf_lt (h : Ordered specs order) {a b : Domain} (ha : a ∈ order)
    (hr : Requires specs a b) : order.idxOf b < order.idxOf a := by
  obtain ⟨before, rest, rfl⟩ := List.append_of_mem ha
  have hb := h.after before a rest rfl b hr
  have hn : a ∉ before := by
    have hd := h.nodup
    rw [List.nodup_append] at hd
    exact fun hm => hd.2.2 a hm a (by simp) rfl
  rw [List.idxOf_append_of_mem hb, List.idxOf_append_of_notMem hn, List.idxOf_cons_self]
  have := List.idxOf_lt_length_of_mem hb
  omega

end Ordered

namespace IsMigrationOrder

theorem mem_iff (h : IsMigrationOrder specs order) {d : Domain} :
    d ∈ order ↔ d ∈ specs.map (·.name) := h.perm.mem_iff

theorem idxOf_lt_of_transGen (h : IsMigrationOrder specs order) {a b : Domain}
    (hr : Relation.TransGen (Requires specs) a b) : order.idxOf b < order.idxOf a := by
  have hlt : ∀ {a b}, Requires specs a b → order.idxOf b < order.idxOf a := by
    rintro a b ⟨s, hs, rfl, hb⟩
    exact h.ordered.idxOf_lt (h.mem_iff.mpr (List.mem_map_of_mem hs)) (requires_of_mem hs hb)
  induction hr with
  | single hr => exact hlt hr
  | tail _ hr ih => exact (hlt hr).trans ih

theorem acyclic (h : IsMigrationOrder specs order) : Acyclic specs :=
  fun _ hd => Nat.lt_irrefl _ (h.idxOf_lt_of_transGen hd)

end IsMigrationOrder

namespace DomainGraph

theorem ready_iff (hr : Resolved specs) {done : List Domain} {s : DomainSpec} (hs : s ∈ specs) :
    ready done s = true ↔ s.name ∉ done ∧ ∀ b, Requires specs s.name b → b ∈ done := by
  simp [ready, hr.requires_iff hs]

end DomainGraph

/-- A domain that is ready can come next. -/
theorem Ordered.snoc_of_ready (h : Ordered specs order) (hr : Resolved specs) {s : DomainSpec}
    (hs : s ∈ specs) (hready : DomainGraph.ready order s = true) :
    Ordered specs (order ++ [s.name]) := by
  obtain ⟨hnot, hall⟩ := (DomainGraph.ready_iff hr hs).mp hready
  exact h.snoc (List.mem_map_of_mem hs) hnot hall

namespace DomainGraph

/-- While a declared domain is missing, one that is missing is ready. -/
theorem exists_ready (hr : Resolved specs) (ha : Acyclic specs) {s : DomainSpec} (hs : s ∈ specs)
    {done : List Domain} (hn : s.name ∉ done) : ∃ t ∈ specs, ready done t = true := by
  have hacc := acc_of_findCycle_eq_none hr ((findCycle_eq_none_iff hr).mpr ha) s hs
  generalize hd : s.name = d at hacc
  induction hacc generalizing s with
  | intro d _ ih =>
    subst hd
    by_cases hall : ∀ b, Requires specs s.name b → b ∈ done
    · exact ⟨s, hs, (ready_iff hr hs).mpr ⟨hn, hall⟩⟩
    · simp only [not_forall] at hall
      obtain ⟨b, hb, hbn⟩ := hall
      obtain ⟨t, ht, rfl, -⟩ := hr.exists_find? hb
      exact ih t.name hb ht hbn rfl

/-- Taking ready domains often enough reaches all declared domains. -/
theorem orderFrom_isMigrationOrder (hr : Resolved specs) (ha : Acyclic specs) {n : Nat}
    (ho : Ordered specs order) (hn : specs.length ≤ order.length + n) :
    IsMigrationOrder specs (orderFrom specs n order) := by
  have hsub := ho.nodup.subperm fun d hd => ho.declared d hd
  induction n generalizing order with
  | zero =>
    refine ⟨ho, hsub.perm_of_length_le ?_⟩
    simpa using hn
  | succ n ih =>
    rw [orderFrom]
    cases hf : specs.find? (ready order) with
    | some s =>
      have hs := List.mem_of_find?_eq_some hf
      have ho' := ho.snoc_of_ready hr hs (List.find?_some hf)
      refine ih ho' ?_ (ho'.nodup.subperm fun d hd => ho'.declared d hd)
      simp only [List.length_append, List.length_singleton]
      omega
    | none =>
      refine ⟨ho, (List.perm_ext_iff_of_nodup ho.nodup hr.distinct).mpr fun d => ?_⟩
      refine ⟨ho.declared d, fun hd => ?_⟩
      by_contra hnot
      obtain ⟨s, hs, rfl⟩ := List.mem_map.mp hd
      obtain ⟨t, ht, hready⟩ := exists_ready hr ha hs hnot
      exact List.find?_eq_none.mp hf t ht hready

theorem migrationOrder_isMigrationOrder {g : DomainGraph} (hr : Resolved g.specs)
    (ha : Acyclic g.specs) : IsMigrationOrder g.specs g.migrationOrder :=
  orderFrom_isMigrationOrder hr ha .nil (by simp)

end DomainGraph

/-- No cycle and some order of migration are the same. -/
theorem acyclic_iff_exists_order (hr : Resolved specs) :
    Acyclic specs ↔ ∃ order, IsMigrationOrder specs order :=
  ⟨fun ha => ⟨_, DomainGraph.migrationOrder_isMigrationOrder (g := ⟨specs⟩) hr ha⟩,
    fun ⟨_, ho⟩ => ho.acyclic⟩

/-- Domains that are asked for once each come in an order of migration exactly if each comes after
all its prerequisites. -/
theorem Resolved.isMigrationOrder_iff {specs asked : List DomainSpec} (hv : Resolved specs)
    (hasked : ∀ spec ∈ asked, spec ∈ specs)
    (hperm : (asked.map (·.name)).Perm (specs.map (·.name))) :
    IsMigrationOrder specs (asked.map (·.name)) ↔
      ∀ (i : Nat) (spec : DomainSpec), asked[i]? = some spec →
        ∀ d ∈ spec.dependsOn, ∃ j < i, (asked.map (·.name))[j]? = some d := by
  constructor
  · intro h i spec hi d hd
    have hat : (asked.map (·.name))[i]? = some spec.name := by simp [hi]
    obtain ⟨hlt, hget⟩ := List.getElem?_eq_some_iff.mp hat
    have hsplit : asked.map (·.name) =
        (asked.map (·.name)).take i ++ spec.name :: (asked.map (·.name)).drop (i + 1) := by
      rw [← hget, ← List.drop_eq_getElem_cons, List.take_append_drop]
    have hmem := h.ordered.after _ _ _ hsplit d
      (requires_of_mem (hasked spec (List.mem_of_getElem? hi)) hd)
    obtain ⟨j, hj, hd⟩ := List.mem_take_iff_getElem.mp hmem
    exact ⟨j, by omega, List.getElem?_eq_some_iff.mpr ⟨by omega, hd⟩⟩
  · intro h
    refine ⟨⟨hperm.nodup_iff.mpr hv.distinct, fun d hd => hperm.mem_iff.mp hd, ?_⟩, hperm⟩
    intro before d rest hsplit b hb
    have hat : (asked.map (·.name))[before.length]? = some d := by simp [hsplit]
    rw [List.getElem?_map, Option.map_eq_some_iff] at hat
    obtain ⟨spec, hi, rfl⟩ := hat
    have hb := (hv.requires_iff (hasked spec (List.mem_of_getElem? hi))).mp hb
    obtain ⟨j, hj, hd⟩ := h _ spec hi b hb
    rw [hsplit, List.getElem?_append_left hj] at hd
    exact List.mem_of_getElem? hd

end Cutover
