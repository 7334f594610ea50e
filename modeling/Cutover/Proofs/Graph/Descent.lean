import Cutover.Proofs.Graph.Search

/-!
# How the search goes down

The search goes below a domain either as a root or from the domain at the end of its trail. Each
time its marks and its trail agree, and fewer domains are left unseen than when it went below the
domain before. So it always comes back, and a bound on the depth that is no lower than their number
is never felt. If it comes back without a cycle, all that can be reached from the domain is
finished.
-/
namespace Cutover

variable {α : Type} {specs : List DomainSpec} {depth : Nat} {s t : DomainSpec} {d : Domain}
variable {w w' : Walk}

open Walk

/-- Going through a list, the search gets to an item: the first walk is the one at the start, the
second one that at the item. -/
inductive GetsTo (f : α → Walk → Finding) : List α → Walk → α → Walk → Prop
  | here {a : α} {as : List α} {w : Walk} : GetsTo f (a :: as) w a w
  | later {a b : α} {as : List α} {w w' w'' : Walk} (ha : f a w = .clear w')
      (hb : GetsTo f as w' b w'') : GetsTo f (a :: as) w b w''

/-- What going through a list comes to depends only on the items that the search gets to. -/
theorem eachClear_congr {f g : α → Walk → Finding} {as : List α}
    (h : ∀ a w', GetsTo f as w a w' → f a w' = g a w') : eachClear f as w = eachClear g as w := by
  induction as generalizing w with
  | nil => rfl
  | cons a as ih =>
    rw [eachClear, eachClear, ← h a w .here]
    cases ha : f a w with
    | clear w' => exact ih fun b w'' hb => h b w'' (.later ha hb)
    | cycle path => rfl
    | stuck => rfl

/-- If each item finishes its domain, the walk is consistent at every item. -/
theorem GetsTo.consistent {f : α → Walk → Finding} {a : α} {as : List α}
    (h : GetsTo f as w a w') (name : α → Domain) (hw : Consistent specs w)
    (hf : ∀ a ∈ as, ∀ w', Consistent specs w' → Grown w w' →
      (f a w').Finishes specs w' [name a]) :
    a ∈ as ∧ Consistent specs w' ∧ Grown w w' := by
  induction h with
  | here => exact ⟨by simp, hw, .refl _⟩
  | @later a b as w w' w'' ha _ ih =>
    have hfirst := hf a (by simp) w hw (.refl w)
    rw [ha] at hfirst
    obtain ⟨hw', hg, -⟩ := hfirst
    obtain ⟨hmem, hw'', hg'⟩ := ih hw' fun c hc v hv hgv => hf c (by simp [hc]) v hv (hg.trans hgv)
    exact ⟨List.mem_cons_of_mem a hmem, hw'', hg.trans hg'⟩

/-- Having gone below `s` at the walk `w`, the search looks at its prerequisite `d` at `w'`. -/
def Looks (specs : List DomainSpec) : Nat → DomainSpec → Walk → Domain → Walk → Prop
  | 0, _, _, _, _ => False
  | depth + 1, s, w, d, w' =>
    GetsTo (follow specs (visit specs depth)) s.dependsOn (w.enter s.name) d w'

/-- Having gone below `s` at the walk `w`, the search goes on below its prerequisite `t` at `w'`. -/
def Descends (specs : List DomainSpec) (depth : Nat) (s : DomainSpec) (w : Walk) (t : DomainSpec)
    (w' : Walk) : Prop :=
  ∃ d, Looks specs depth s w d w' ∧ specs.find? (·.name = d) = some t ∧ w'.mark d = .unseen

/-- Where the search goes below a domain: how deep it may go from there, the domain and the walk. -/
inductive Visits (specs : List DomainSpec) : Nat → DomainSpec → Walk → Prop
  | root {s : DomainSpec} {w : Walk}
      (h : GetsTo (fun s w => if w.mark s.name = .unseen then visit specs specs.length s w
        else .clear w) specs Walk.start s w)
      (hu : w.mark s.name = .unseen) : Visits specs specs.length s w
  | nested {depth : Nat} {s t : DomainSpec} {w w' : Walk} (h : Visits specs (depth + 1) s w)
      (hd : Descends specs (depth + 1) s w t w') : Visits specs depth t w'

namespace Walk.Enterable

/-- Below a domain the walk stays consistent and keeps that domain at the end of the trail. -/
theorem looks (hr : Resolved specs) (h : Enterable specs depth s w)
    (hl : Looks specs depth s w d w') :
    d ∈ s.dependsOn ∧ Consistent specs w' ∧ Grown (w.enter s.name) w' := by
  cases depth with
  | zero => exact hl.elim
  | succ depth =>
    exact hl.consistent id (h.consistent.enter h.unseen h.chain) fun d hd w' hw' hg =>
      follow_finishes hr h (fun _ _ ht => visit_finishes hr ht) hd hw' hg

/-- Below a domain at least one more domain has been seen. -/
theorem unseen_lt (hr : Resolved specs) (h : Enterable specs depth s w)
    (hl : Looks specs depth s w d w') : w'.unseen specs < w.unseen specs := by
  obtain ⟨-, -, hg⟩ := h.looks hr hl
  exact hg.unseen_le.trans_lt (unseen_enter_lt h.declared h.unseen)

theorem descends (hr : Resolved specs) (h : Enterable specs (depth + 1) s w)
    (hd : Descends specs (depth + 1) s w t w') : Enterable specs depth t w' := by
  obtain ⟨d, hl, hfind, hu⟩ := hd
  obtain rfl : t.name = d := by simpa using List.find?_some hfind
  obtain ⟨hmem, hw', hg⟩ := h.looks hr hl
  exact h.below hw' hg (List.mem_of_find?_eq_some hfind) hmem hu

/-- The trail has the names of the active declarations, each once. -/
theorem trail_perm (hr : Resolved specs) (h : Enterable specs depth s w) :
    w.trail.Perm ((specs.filter fun t => w.mark t.name = .active).map (·.name)) := by
  have hnames : ((specs.filter fun t => w.mark t.name = .active).map (·.name)).Nodup :=
    hr.distinct.sublist (List.filter_sublist.map _)
  rw [List.perm_ext_iff_of_nodup h.consistent.nodup hnames]
  intro d
  constructor
  · intro hd
    -- what stands in the trail is declared, since it waits for the one behind it
    obtain ⟨t, ht, rfl⟩ := exists_declared_of_isChain h.chain hd
    have hm : w.mark t.name = .active := (h.consistent.active _).mpr hd
    exact List.mem_map_of_mem (List.mem_filter.mpr ⟨ht, by simpa using hm⟩)
  · intro hd
    obtain ⟨t, ht, rfl⟩ := List.mem_map.mp hd
    exact (h.consistent.active _).mp (by simpa using (List.mem_filter.mp ht).2)

/-- A prerequisite that is looked at is declared, and stands in the trail if it is active. -/
theorem found_of_looks (hr : Resolved specs) (h : Enterable specs depth s w)
    (hl : Looks specs depth s w d w') :
    (∃ t ∈ specs, t.name = d ∧ specs.find? (·.name = d) = some t) ∧
      (w'.mark d = .active → (w'.trail.idxOf? d).isSome) := by
  obtain ⟨hmem, hw', -⟩ := h.looks hr hl
  refine ⟨hr.exists_find? (requires_of_mem h.declared hmem), fun hm => ?_⟩
  exact List.isSome_idxOf?.mpr ((hw'.active d).mp hm)

end Walk.Enterable

/-- What a look at a prerequisite comes to depends on the walk below it only if it is unseen. -/
theorem follow_congr {go go' : DomainSpec → Walk → Finding}
    (h : ∀ t, specs.find? (·.name = d) = some t → w.mark d = .unseen → go t w = go' t w) :
    follow specs go d w = follow specs go' d w := by
  unfold follow
  cases hfind : specs.find? (·.name = d) with
  | none => rfl
  | some t =>
    cases hm : w.mark d with
    | unseen => exact h t hfind hm
    | active => rfl
    | finished => rfl

/-- More depth than there are unseen domains makes no difference. -/
theorem visit_eq_of_unseen_le (hr : Resolved specs) (h : Enterable specs depth s w) {n : Nat}
    (hn : w.unseen specs ≤ n) : visit specs n s w = visit specs depth s w := by
  induction depth generalizing s w n with
  | zero =>
    have hpos := unseen_pos h.declared h.unseen
    have hle := h.enough
    omega
  | succ depth ih =>
    cases n with
    | zero =>
      have hpos := unseen_pos h.declared h.unseen
      omega
    | succ n =>
      -- each prerequisite is looked at with fewer domains unseen, so both depths are enough there
      have hbelow : eachClear (follow specs (visit specs depth)) s.dependsOn (w.enter s.name) =
          eachClear (follow specs (visit specs n)) s.dependsOn (w.enter s.name) := by
        refine eachClear_congr fun d w' hl => follow_congr fun t hfind hu => ?_
        have ht : Enterable specs depth t w' := h.descends hr ⟨d, hl, hfind, hu⟩
        have hlt : w'.unseen specs < w.unseen specs := h.unseen_lt hr hl
        exact (ih ht (by omega)).symm
      rw [visit, visit, hbelow]

/-- Wherever the search goes below a domain, it may. -/
theorem Visits.enterable (hr : Resolved specs) (h : Visits specs depth s w) :
    Enterable specs depth s w := by
  induction h with
  | root h hu =>
    obtain ⟨hs, hw, hg⟩ := h.consistent (·.name) .start fun s hs w hw hg =>
      root_finishes hr hs hw hg
    exact hw.enterable_root hg hs hu
  | nested _ hd ih => exact ih.descends hr hd

/-- Whatever can be reached from a finished domain is finished, and is on no cycle. -/
theorem Walk.Consistent.finished_of_reachable {a b : Domain} (h : Consistent specs w)
    (ha : w.mark a = .finished) (hab : Relation.ReflTransGen (Requires specs) a b) :
    w.mark b = .finished ∧ ¬Relation.TransGen (Requires specs) b b := by
  induction hab with
  | refl => exact ⟨ha, not_transGen_self (h.finished a ha)⟩
  | @tail b c _ hbc ih =>
    have hc : w.mark c = .finished := h.closed b c ih.1 hbc
    exact ⟨hc, not_transGen_self (h.finished c hc)⟩

/-- The walk comes back from below a domain with a cycle, or with the trail as it was, everything
that can be reached from there finished and on no cycle, and what was finished still so. -/
theorem visit_comes_back (hr : Resolved specs) (h : Enterable specs depth s w) :
    (∃ path, visit specs depth s w = .cycle path ∧ IsCycle specs path) ∨
      ∃ w', visit specs depth s w = .clear w' ∧ w'.trail = w.trail ∧
        (∀ d, Relation.ReflTransGen (Requires specs) s.name d →
          w'.mark d = .finished ∧ ¬Relation.TransGen (Requires specs) d d) ∧
        ∀ d, w.mark d = .finished → w'.mark d = .finished := by
  have hf := visit_finishes hr h
  cases hv : visit specs depth s w with
  | cycle path =>
    rw [hv] at hf
    exact .inl ⟨path, rfl, hf⟩
  | stuck => exact (hv ▸ hf : Finding.stuck.Finishes specs w [s.name]).elim
  | clear w' =>
    rw [hv] at hf
    obtain ⟨hw', hg, hdone⟩ := hf
    refine .inr ⟨w', rfl, hg.trail, ?_, fun d hd => hg.finished hd⟩
    intro d hsd
    exact hw'.finished_of_reachable (hdone s.name (by simp)) hsd

/-- Whenever the search goes below a domain, it has not seen that domain before. Its trail has the
names of the active domains then, each once, and each of them waits for the next one and the last
for the domain that comes. From there the search goes further down only with fewer domains unseen,
so it comes back, and a higher bound on the depth changes nothing. It comes back with a cycle, or
with the trail as it was, all that can be reached from the domain finished and on no cycle, and what
was finished still so. Each prerequisite that it looks at is declared, and stands in the trail if it
is active. -/
theorem visit_invariant (hr : Resolved specs) (h : Visits specs depth s w) :
    s ∈ specs ∧ w.mark s.name = .unseen ∧
    w.trail.Perm ((specs.filter fun t => w.mark t.name = .active).map (·.name)) ∧
    (w.trail ++ [s.name]).IsChain (Requires specs) ∧
    (∀ t w', Descends specs depth s w t w' → w'.unseen specs < w.unseen specs) ∧
    (∀ n, w.unseen specs ≤ n → visit specs n s w = visit specs depth s w) ∧
    ((∃ path, visit specs depth s w = .cycle path ∧ IsCycle specs path) ∨
      ∃ w', visit specs depth s w = .clear w' ∧ w'.trail = w.trail ∧
        (∀ d, Relation.ReflTransGen (Requires specs) s.name d →
          w'.mark d = .finished ∧ ¬Relation.TransGen (Requires specs) d d) ∧
        ∀ d, w.mark d = .finished → w'.mark d = .finished) ∧
    ∀ d w', Looks specs depth s w d w' →
      (∃ t ∈ specs, t.name = d ∧ specs.find? (·.name = d) = some t) ∧
      (w'.mark d = .active → (w'.trail.idxOf? d).isSome) := by
  have he : Enterable specs depth s w := h.enterable hr
  refine ⟨he.declared, he.unseen, he.trail_perm hr, he.chain, ?_, ?_, visit_comes_back hr he, ?_⟩
  · rintro t w' ⟨d, hl, -⟩
    exact he.unseen_lt hr hl
  · intro n hn
    exact visit_eq_of_unseen_le hr he hn
  · intro d w' hl
    exact he.found_of_looks hr hl

/-- Two ways lead to sales, and the second one is begun when the first one is finished. -/
theorem visit_invariant_diamond :
    let specs : List DomainSpec :=
      [ { name := .cost, dependsOn := [.production, .purchase] },
        { name := .purchase, dependsOn := [.sales] },
        { name := .production, dependsOn := [.sales] },
        { name := .sales } ]
    let w := ((((Walk.start.enter .cost).enter .production).enter .sales).leave .sales).leave
      .production
    Resolved specs ∧ Visits specs 3 specs[1] w ∧
      w.trail.Perm ((specs.filter fun t => w.mark t.name = .active).map (·.name)) ∧
      w.trail = [.cost] ∧
      ∃ w', visit specs 3 specs[1] w = .clear w' ∧ w'.trail = [.cost] ∧
        w'.mark .sales = .finished ∧ ¬Relation.TransGen (Requires specs) .sales .sales := by
  intro specs w
  have hr : Resolved specs := ⟨by decide, by decide⟩
  have hroot : Visits specs 4 specs[0] Walk.start := .root .here rfl
  have hvisit : Visits specs 3 specs[1] w :=
    hroot.nested ⟨.purchase, .later rfl .here, rfl, rfl⟩
  obtain ⟨-, -, hperm, -, -, -, hback, -⟩ := visit_invariant hr hvisit
  have hsales : Requires specs .purchase .sales := ⟨specs[1], by decide, rfl, by decide⟩
  refine ⟨hr, hvisit, hperm, rfl, ?_⟩
  rcases hback with ⟨path, hcycle, -⟩ | ⟨w', hclear, htrail, hreach, -⟩
  · cases hcycle
  · exact ⟨w', hclear, htrail, hreach .sales (.single hsales)⟩

end Cutover
