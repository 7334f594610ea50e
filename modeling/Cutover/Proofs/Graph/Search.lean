import Cutover.Proofs.Graph.Requires

/-!
# The search for cycles is correct

While it is under way the search keeps its marks and its trail consistent: the active domains are
those of the trail, which is a chain of prerequisites, and from a finished domain every way along
prerequisites leads to finished ones and none goes on for ever. So an active domain that is met
again closes a cycle, and once all domains are finished there is none. The depth that is allowed is
never used up.
-/
namespace Cutover

variable {specs : List DomainSpec} {w w' w'' : Walk}

namespace Walk

@[simp] theorem mark_enter (w : Walk) (d e : Domain) :
    (w.enter d).mark e = if e = d then .active else w.mark e := rfl

@[simp] theorem trail_enter (w : Walk) (d : Domain) : (w.enter d).trail = w.trail ++ [d] := rfl

@[simp] theorem mark_leave (w : Walk) (d e : Domain) :
    (w.leave d).mark e = if e = d then .finished else w.mark e := rfl

@[simp] theorem trail_leave (w : Walk) (d : Domain) : (w.leave d).trail = w.trail.dropLast := rfl

/-- How many of the declared domains have not been seen. -/
def unseen (specs : List DomainSpec) (w : Walk) : Nat :=
  specs.countP fun s => w.mark s.name = .unseen

/-- What stays as it is while the search goes below a domain and comes back: the trail, and all
marks but those of domains that are seen and finished in the meantime. -/
structure Grown (w w' : Walk) : Prop where
  trail : w'.trail = w.trail
  mark : ∀ d, w'.mark d = w.mark d ∨ w.mark d = .unseen ∧ w'.mark d = .finished

namespace Grown

theorem refl (w : Walk) : Grown w w := ⟨rfl, fun _ => .inl rfl⟩

theorem trans (h : Grown w w') (h' : Grown w' w'') : Grown w w'' where
  trail := h'.trail.trans h.trail
  mark d := by
    rcases h.mark d with hd | ⟨hu, hf⟩
    · rw [← hd]
      exact h'.mark d
    · rcases h'.mark d with hd | ⟨hu', -⟩
      · exact .inr ⟨hu, hd.trans hf⟩
      · simp [hf] at hu'

theorem finished (h : Grown w w') {d : Domain} (hd : w.mark d = .finished) :
    w'.mark d = .finished := by
  rcases h.mark d with hm | ⟨hu, -⟩
  · rw [hm, hd]
  · simp [hd] at hu

theorem unseen_le (h : Grown w w') : w'.unseen specs ≤ w.unseen specs := by
  apply List.countP_mono_left
  intro s _ hs
  rcases h.mark s.name with hm | ⟨-, hf⟩
  · simpa [hm] using hs
  · simp [hf] at hs

end Grown

/-- Marks and trail tell the same, and tell the truth about the declarations. -/
structure Consistent (specs : List DomainSpec) (w : Walk) : Prop where
  active : ∀ d, w.mark d = .active ↔ d ∈ w.trail
  nodup : w.trail.Nodup
  chain : w.trail.IsChain (Requires specs)
  finished : ∀ d, w.mark d = .finished → Acc (fun b a => Requires specs a b) d
  closed : ∀ a b, w.mark a = .finished → Requires specs a b → w.mark b = .finished

namespace Consistent

theorem start : Consistent specs Walk.start where
  active d := by simp [Walk.start]
  nodup := by simp [Walk.start]
  chain := by simp [Walk.start]
  finished d := by simp [Walk.start]
  closed a b := by simp [Walk.start]

theorem enter (h : Consistent specs w) {d : Domain} (hd : w.mark d = .unseen)
    (hc : (w.trail ++ [d]).IsChain (Requires specs)) : Consistent specs (w.enter d) where
  active e := by
    by_cases he : e = d
    · simp [he]
    · simp [he, h.active e]
  nodup := by
    have hn : d ∉ w.trail := by rw [← h.active d, hd]; decide
    simp only [trail_enter, List.nodup_append]
    exact ⟨h.nodup, by simp, by rintro a ha b hb rfl; exact hn (List.mem_singleton.mp hb ▸ ha)⟩
  chain := hc
  finished e he := by
    by_cases hed : e = d
    · simp [hed] at he
    · exact h.finished e (by simpa [hed] using he)
  closed a b ha hr := by
    have had : a ≠ d := by rintro rfl; simp at ha
    have hb : w.mark b = .finished := h.closed a b (by simpa [had] using ha) hr
    have hbd : b ≠ d := by rintro rfl; simp [hd] at hb
    simpa [hbd] using hb

/-- Once all prerequisites of the domain at the end of the trail are finished, so can it be. -/
theorem leave (h : Consistent specs w) {d : Domain} {trail : List Domain}
    (ht : w.trail = trail ++ [d]) (hf : ∀ b, Requires specs d b → w.mark b = .finished) :
    Consistent specs (w.leave d) where
  active e := by
    have hn := h.nodup
    rw [ht, List.nodup_append] at hn
    by_cases he : e = d
    · subst he
      have hnot : e ∉ trail := fun hm => hn.2.2 e hm e (by simp) rfl
      simp [ht, hnot]
    · simp [ht, he, h.active e]
  nodup := by simpa using h.nodup.sublist (List.dropLast_sublist _)
  chain := by simpa using h.chain.dropLast
  finished e he := by
    by_cases hed : e = d
    · subst hed
      exact .intro e fun b hb => h.finished b (hf b hb)
    · exact h.finished e (by simpa [hed] using he)
  closed a b ha hr := by
    have hb : w.mark b = .finished := by
      by_cases had : a = d
      · exact hf b (had ▸ hr)
      · exact h.closed a b (by simpa [had] using ha) hr
    by_cases hbd : b = d
    · simp [hbd]
    · simpa [hbd] using hb

end Consistent

theorem closing_eq {d : Domain} {before after : List Domain}
    (ht : w.trail = before ++ d :: after) (hn : d ∉ before) :
    w.closing d = d :: after ++ [d] := by
  have hi : w.trail.idxOf? d = some before.length := by
    rw [ht, List.idxOf?_eq_some_iff]
    refine ⟨by simp, by simp, ?_⟩
    intro j hj
    rw [List.getElem_append_left hj]
    exact fun he => hn (he ▸ List.getElem_mem hj)
  unfold closing
  rw [hi]
  simp [ht]

/-- A domain of the trail that the last one of it requires closes a cycle. -/
theorem Consistent.closing (h : Consistent specs w) {last d : Domain} {trail : List Domain}
    (ht : w.trail = trail ++ [last]) (hd : w.mark d = .active) (hr : Requires specs last d) :
    IsCycle specs (w.closing d) := by
  obtain ⟨before, after, he⟩ := List.append_of_mem ((h.active d).mp hd)
  have hn := h.nodup
  rw [he, List.nodup_append] at hn
  have hb : d ∉ before := fun hm => hn.2.2 d hm d (by simp) rfl
  have hc := h.chain
  rw [he] at hc
  have hl : (d :: after).getLast? = some last := by
    have hg := congrArg List.getLast? ht
    rw [he] at hg
    simpa [List.getLast?_append] using hg
  refine ⟨d, after, closing_eq he hb, hn.2.1, ?_⟩
  rw [closing_eq he hb]
  refine hc.right_of_append.append (by simp) ?_
  intro a ha b hb
  rw [hl] at ha
  simp only [List.head?_cons, Option.mem_def, Option.some.injEq] at ha hb
  rw [← ha, ← hb]
  exact hr

theorem unseen_pos {s : DomainSpec} (hs : s ∈ specs) (h : w.mark s.name = .unseen) :
    0 < w.unseen specs :=
  List.countP_pos_iff.mpr ⟨s, hs, by simpa using h⟩

/-- Going below a domain for the first time leaves fewer domains that have not been seen. -/
theorem unseen_enter_lt {s : DomainSpec} (hs : s ∈ specs) (h : w.mark s.name = .unseen) :
    (w.enter s.name).unseen specs < w.unseen specs := by
  obtain ⟨before, after, rfl⟩ := List.append_of_mem hs
  have hle : ∀ l : List DomainSpec, (w.enter s.name).unseen l ≤ w.unseen l := by
    intro l
    apply List.countP_mono_left
    intro t _ ht
    by_cases hn : t.name = s.name
    · simp [hn] at ht
    · simpa [hn] using ht
  have hb := hle before
  have ha := hle after
  simp only [unseen, List.countP_append, List.countP_cons] at ha hb ⊢
  simp only [mark_enter, h, if_true, reduceCtorEq, decide_false, decide_true] at ha hb ⊢
  simp only [if_false]
  omega

/-- What holds wherever the walk goes below a declared domain, and lets it do so: the domain has
not been seen, the last domain of the trail waits for it, and the depth is enough for all domains
that have not been seen. -/
structure Enterable (specs : List DomainSpec) (depth : Nat) (s : DomainSpec) (w : Walk) :
    Prop where
  declared : s ∈ specs
  consistent : Consistent specs w
  unseen : w.mark s.name = .unseen
  chain : (w.trail ++ [s.name]).IsChain (Requires specs)
  enough : w.unseen specs ≤ depth

/-- Below a domain the walk may go on below a prerequisite of it that has not been seen. -/
theorem Enterable.below {depth : Nat} {s t : DomainSpec} (h : Enterable specs (depth + 1) s w)
    (hw' : Consistent specs w') (hg : Grown (w.enter s.name) w') (ht : t ∈ specs)
    (hd : t.name ∈ s.dependsOn) (hu : w'.mark t.name = .unseen) : Enterable specs depth t w' where
  declared := ht
  consistent := hw'
  unseen := hu
  chain := hw'.chain.append (by simp) (by simpa [hg.trail] using requires_of_mem h.declared hd)
  enough := by
    have hlt := unseen_enter_lt h.declared h.unseen
    have hle : w'.unseen specs ≤ (w.enter s.name).unseen specs := hg.unseen_le
    have hn := h.enough
    omega

/-- Nothing stands in the way of a root of the walk that has not been seen. -/
theorem Consistent.enterable_root (h : Consistent specs w) (hg : Grown Walk.start w)
    {s : DomainSpec} (hs : s ∈ specs) (hu : w.mark s.name = .unseen) :
    Enterable specs specs.length s w where
  declared := hs
  consistent := h
  unseen := hu
  chain := by simp [hg.trail, Walk.start]
  enough := List.countP_le_length

end Walk

open Walk

/-- What a part of the walk that is to finish the domains `ds` has to come to. -/
def Finding.Finishes (specs : List DomainSpec) (w : Walk) (ds : List Domain) : Finding → Prop
  | clear w' => Consistent specs w' ∧ Grown w w' ∧ ∀ d ∈ ds, w'.mark d = .finished
  | cycle path => IsCycle specs path
  | stuck => False

theorem Finding.Finishes.after {f : Finding} {d : Domain} {ds : List Domain}
    (h : f.Finishes specs w' ds) (hg : Grown w w') (hd : w'.mark d = .finished) :
    f.Finishes specs w (d :: ds) := by
  cases f with
  | clear w'' =>
    obtain ⟨hc, hg', hf⟩ := h
    refine ⟨hc, hg.trans hg', ?_⟩
    intro e he
    rcases List.mem_cons.mp he with rfl | he
    · exact hg'.finished hd
    · exact hf e he
  | cycle path => exact h
  | stuck => exact h

/-- A list is finished if each item finishes its domain wherever the walk has got to by then. -/
theorem eachClear_finishes {α : Type} {f : α → Walk → Finding} {name : α → Domain} {as : List α}
    (hw : Consistent specs w)
    (hf : ∀ a ∈ as, ∀ w', Consistent specs w' → Grown w w' →
      (f a w').Finishes specs w' [name a]) :
    (eachClear f as w).Finishes specs w (as.map name) := by
  induction as generalizing w with
  | nil => exact ⟨hw, .refl w, by simp⟩
  | cons a as ih =>
    have ha := hf a (by simp) w hw (.refl w)
    rw [eachClear]
    cases he : f a w with
    | clear w' =>
      rw [he] at ha
      obtain ⟨hc, hg, hd⟩ := ha
      have htail := ih hc fun b hb w'' hw'' hg' => hf b (by simp [hb]) w'' hw'' (hg.trans hg')
      exact htail.after hg (hd _ (by simp))
    | cycle path => rwa [he] at ha
    | stuck => exact (he ▸ ha : Finding.stuck.Finishes specs w [name a]).elim

/-- Below a domain a look at a prerequisite of it finishes that one, if going below it does. -/
theorem follow_finishes (hr : Resolved specs) {go : DomainSpec → Walk → Finding} {depth : Nat}
    {s : DomainSpec} {d : Domain} (h : Enterable specs (depth + 1) s w)
    (hgo : ∀ t w', Enterable specs depth t w' → (go t w').Finishes specs w' [t.name])
    (hd : d ∈ s.dependsOn) (hw' : Consistent specs w') (hg : Grown (w.enter s.name) w') :
    (follow specs go d w').Finishes specs w' [d] := by
  have hreq := requires_of_mem h.declared hd
  obtain ⟨t, hts, rfl, hfind⟩ := hr.exists_find? hreq
  rw [follow, hfind]
  cases hm : w'.mark t.name with
  | active => exact hw'.closing hg.trail hm hreq
  | finished => exact ⟨hw', .refl w', by simpa using hm⟩
  | unseen => exact hgo t w' (h.below hw' hg hts hd hm)

/-- The walk below a domain finishes it, if it may go as deep as there are unseen domains. -/
theorem visit_finishes (hr : Resolved specs) {depth : Nat} {s : DomainSpec}
    (h : Enterable specs depth s w) : (visit specs depth s w).Finishes specs w [s.name] := by
  induction depth generalizing s w with
  | zero =>
    have := unseen_pos h.declared h.unseen
    have := h.enough
    omega
  | succ depth ih =>
    have hall : (eachClear (follow specs (visit specs depth)) s.dependsOn (w.enter s.name)).Finishes
        specs (w.enter s.name) (s.dependsOn.map id) :=
      eachClear_finishes (h.consistent.enter h.unseen h.chain) fun d hd w' hw' hg =>
        follow_finishes hr h (fun _ _ ht => ih ht) hd hw' hg
    rw [visit]
    cases he : eachClear (follow specs (visit specs depth)) s.dependsOn (w.enter s.name) with
    | clear w' =>
      rw [he, List.map_id] at hall
      obtain ⟨hw', hg, hf⟩ := hall
      refine ⟨hw'.leave hg.trail fun b hb => hf b ((hr.requires_iff h.declared).mp hb), ⟨?_, ?_⟩,
        by simp⟩
      · simp [hg.trail]
      · intro d
        by_cases hd : d = s.name
        · subst hd
          exact .inr ⟨h.unseen, by simp⟩
        · simpa [hd] using hg.mark d
    | cycle path => rwa [he] at hall
    | stuck => exact (he ▸ hall : Finding.stuck.Finishes specs _ _).elim

/-- A declared domain is finished once the search has tried it as a root. -/
theorem root_finishes (hr : Resolved specs) {s : DomainSpec} (hs : s ∈ specs)
    (hw : Consistent specs w) (hg : Grown Walk.start w) :
    (if w.mark s.name = .unseen then visit specs specs.length s w else .clear w).Finishes specs w
      [s.name] := by
  split
  · next hu => exact visit_finishes hr (hw.enterable_root hg hs hu)
  · next hu =>
    have hm : w.mark s.name = .finished := by
      rcases hg.mark s.name with hm | ⟨-, hm⟩
      · exact absurd hm hu
      · exact hm
    exact ⟨hw, .refl w, by simpa using hm⟩

/-- The search as a whole finishes all domains or finds a cycle. -/
theorem search_finishes (hr : Resolved specs) :
    (search specs).Finishes specs Walk.start (specs.map (·.name)) :=
  eachClear_finishes .start fun _ hs _ hw hg => root_finishes hr hs hw hg

theorem not_transGen_self {d : Domain} (h : Acc (fun b a => Requires specs a b) d) :
    ¬Relation.TransGen (Requires specs) d d := by
  induction h with
  | intro d _ ih =>
    intro hd
    obtain ⟨b, hb, hbd⟩ := Relation.TransGen.head'_iff.mp hd
    exact ih b hb (.tail' hbd hb)

/-- If from no declared domain a way goes on for ever, there is no cycle. -/
theorem acyclic_of_acc (h : ∀ s ∈ specs, Acc (fun b a => Requires specs a b) s.name) :
    Acyclic specs := by
  intro d hd
  obtain ⟨b, ⟨s, hs, rfl, -⟩, -⟩ := Relation.TransGen.head'_iff.mp hd
  exact not_transGen_self (h s hs) hd

theorem acc_of_findCycle_eq_none (hr : Resolved specs) (h : findCycle specs = none) :
    ∀ s ∈ specs, Acc (fun b a => Requires specs a b) s.name := by
  intro s hs
  have hf := search_finishes hr
  unfold findCycle at h
  cases he : search specs with
  | clear w =>
    rw [he] at hf
    exact hf.1.finished _ (hf.2.2 _ (List.mem_map_of_mem hs))
  | cycle path => simp [he] at h
  | stuck => exact (he ▸ hf : Finding.stuck.Finishes specs _ _).elim

/-- A path that the search gives is a cycle. -/
theorem isCycle_of_findCycle (hr : Resolved specs) {path : List Domain}
    (h : findCycle specs = some path) : IsCycle specs path := by
  have hf := search_finishes hr
  unfold findCycle at h
  cases he : search specs with
  | cycle found =>
    rw [he] at hf h
    cases h
    exact hf
  | clear w => simp [he] at h
  | stuck => simp [he] at h

/-- The search finds no cycle just if there is none. -/
theorem findCycle_eq_none_iff (hr : Resolved specs) : findCycle specs = none ↔ Acyclic specs := by
  constructor
  · exact fun h => acyclic_of_acc (acc_of_findCycle_eq_none hr h)
  · intro h
    cases hc : findCycle specs with
    | none => rfl
    | some path => exact absurd h (isCycle_of_findCycle hr hc).not_acyclic

/-- The walk neither meets an undeclared prerequisite nor goes deeper than it may. -/
theorem search_ne_stuck (hr : Resolved specs) : search specs ≠ .stuck := by
  intro h
  exact (h ▸ search_finishes hr : Finding.stuck.Finishes specs _ _).elim

end Cutover
