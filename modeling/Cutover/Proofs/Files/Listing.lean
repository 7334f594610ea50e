import Cutover.Proofs.Files.Change
import Cutover.Proofs.Files.Path
import Mathlib.Data.List.Nodup

/-!
# What stands in a folder

The names in a folder are those under which something stands there, each listed once if the tree is
sound. The path of the folder with such a name behind it leads to what has that name.
-/
namespace Cutover.FileTree

/-- Whether a text can be the name of something in a folder. -/
structure IsEntryName (name : String) : Prop extends IsName name, Path.IsComponent name where
  noNull : '\x00' ∉ name.toList

/-- Whether each place is listed once, under a name that can be. -/
structure Sound (t : FileTree) : Prop where
  distinct : (t.places.map (·.1)).Nodup
  proper : ∀ q name, q ++ [name] ∈ t.places.map (·.1) → IsEntryName name

variable {t : FileTree} {cwd p q : Place} {folder name : String}

theorem mem_places_iff (hq : q ≠ []) : q ∈ t.places.map (·.1) ↔ t.get? q ≠ none := by
  have hnode : t.get? q ≠ none ↔ t.places.lookup q ≠ none := by
    simp only [get?, node?, number?, hq, if_false]
    cases hl : t.places.lookup q with
    | none => simp
    | some number => simp [t.known _ (mem_of_lookup hl)]
  rw [hnode, ne_eq, List.lookup_eq_none_iff]
  simp

/-- A place is listed in a folder under its last name. -/
theorem listed_eq_some_iff :
    (if q.dropLast = p then q.getLast? else none) = some name ↔ q = p ++ [name] := by
  constructor
  · intro h
    split at h
    · next hq =>
      obtain ⟨front, rfl⟩ := List.getLast?_eq_some_iff.mp h
      rw [← hq, List.dropLast_concat]
    · cases h
  · rintro rfl
    simp

theorem mem_names_iff : name ∈ t.names p ↔ t.get? (p ++ [name]) ≠ none := by
  rw [← mem_places_iff (by simp), names, List.mem_filterMap, List.mem_map]
  simp only [listed_eq_some_iff]

theorem Sound.nodup_names (h : t.Sound) (p : Place) : (t.names p).Nodup := by
  have hnames : t.names p = (t.places.map (·.1)).filterMap fun q =>
      if q.dropLast = p then q.getLast? else none := by
    rw [names, List.filterMap_map]
    rfl
  rw [hnames]
  refine List.Nodup.filterMap (fun q q' name hq hq' => ?_) h.distinct
  rw [listed_eq_some_iff.mp hq, listed_eq_some_iff.mp hq']

theorem Sound.isEntryName (h : t.Sound) (hn : t.get? (p ++ [name]) ≠ none) : IsEntryName name :=
  h.proper p name ((mem_places_iff (by simp)).mpr hn)

theorem Sound.empty : FileTree.empty.Sound where
  distinct := List.nodup_nil
  proper q name hq := by simp [FileTree.empty] at hq

/-- A tree stays sound if something is put under a name that can be. -/
theorem Sound.set (h : t.Sound) (hn : IsEntryName name) (e : FileEntry) :
    (t.set (q ++ [name]) e).Sound := by
  unfold FileTree.set
  split
  · exact ⟨h.distinct, h.proper⟩
  · have hplaces : (t.add (q ++ [name]) e e.usualMode).places.map (·.1) =
        (q ++ [name]) :: (t.places.map (·.1)).filter (· ≠ q ++ [name]) := by
      rw [add, List.map_cons, List.filter_map]
      rfl
    constructor
    · rw [hplaces, List.nodup_cons]
      exact ⟨by simp, h.distinct.filter _⟩
    · intro q' name' hmem
      rw [hplaces, List.mem_cons] at hmem
      rcases hmem with heq | hmem
      · obtain ⟨-, hname⟩ := List.append_inj' heq rfl
        exact List.head_eq_of_cons_eq hname ▸ hn
      · exact h.proper q' name' (List.mem_of_mem_filter hmem)

theorem unfit?_join (hfolder : unfit? folder = none) (hne : name ≠ "")
    (hnull : '\x00' ∉ name.toList) :
    unfit? (Path.join folder name) = none ↔ (Path.join folder name).utf8ByteSize ≤ longestPath := by
  have hnull' : '\x00' ∉ (Path.join folder name).toList := by
    rw [Path.toList_join, List.mem_append, List.mem_append, not_or, not_or]
    refine ⟨⟨(unfit?_eq_none_iff.mp hfolder).1, ?_⟩, hnull⟩
    split <;> simp
  have hne' : Path.join folder name ≠ "" := by
    rw [ne_eq, ← String.toList_inj, Path.toList_join]
    simp [hne]
  rw [unfit?_eq_none_iff]
  exact ⟨fun h => h.2.2, fun h => ⟨hnull', hne', h⟩⟩

theorem origin_join (hfolder : folder ≠ "") :
    origin cwd (Path.join folder name) = origin cwd folder := by
  rw [origin, origin, Path.isAbsolute, Path.isAbsolute, Path.toList_join, List.append_assoc,
    List.head?_append, Option.or_of_isSome (by simpa using hfolder)]

/-- The name is the last step to it, after those to the folder. -/
theorem steps_join (hfolder : folder ≠ "") (hne : name ≠ "") (hslash : '/' ∉ name.toList) :
    ∃ front, (steps folder = front ∨ steps folder = front ++ ["."]) ∧
      steps (Path.join folder name) = front ++ [name] := by
  have hlast : (Path.join folder name).toList.getLast? ≠ some '/' := by
    rw [Path.toList_join, List.getLast?_append, Option.or_of_isSome (by simpa using hne)]
    exact fun h => hslash (List.mem_of_getLast? h)
  by_cases hlast' : folder.toList.getLast? = some '/'
  · obtain ⟨cs, hcs⟩ := List.getLast?_eq_some_iff.mp hlast'
    have hjoin : (Path.join folder name).toList = cs ++ '/' :: name.toList := by
      simp [Path.toList_join, hcs]
    refine ⟨((Path.split cs).filter (· ≠ [])).map String.ofList, .inr ?_, ?_⟩
    · simp only [steps, hcs, Path.split_append_slash]
      simp [Path.split]
    · rw [hjoin] at hlast
      simp only [steps, hjoin, Path.split_append_slash, Path.split_of_noSlash hslash,
        beq_iff_eq, hlast, if_false]
      simp [hne]
  · have hjoin : (Path.join folder name).toList = folder.toList ++ '/' :: name.toList := by
      simp [Path.toList_join, hfolder, hlast']
    refine ⟨steps folder, .inl rfl, ?_⟩
    rw [hjoin] at hlast
    simp only [steps, hjoin, Path.split_append_slash, Path.split_of_noSlash hslash, beq_iff_eq,
      hlast, hlast', if_false]
    simp [hne]

/-- A name behind the path of a folder leads to where it leads from there. -/
theorem locate_join_of_leads (hl : t.locate cwd folder = .ok (p, some .folder)) (hne : name ≠ "")
    (hslash : '/' ∉ name.toList) (hnull : '\x00' ∉ name.toList)
    (hfit : (Path.join folder name).utf8ByteSize ≤ longestPath) {e : Option FileEntry}
    (h : Leads t true 0 p [name] q e) : t.locate cwd (Path.join folder name) = .ok (q, e) := by
  obtain ⟨hfolder, hfollow⟩ := locate_eq_ok_iff.mp hl
  have hfolder' := (unfit?_eq_none_iff.mp hfolder).2.1
  obtain ⟨n, hn', hlead⟩ := follow_eq_ok_iff.mp hfollow
  obtain ⟨front, hfront, hsteps⟩ := steps_join hfolder' hne hslash
  -- a dot at the end of the folder's path is left out
  have hway : ∃ k ≤ n, Leads t true k (origin cwd folder) front p (some .folder) := by
    rcases hfront with h | h
    · exact ⟨n, Nat.le_refl n, h ▸ hlead⟩
    · rw [h] at hlead
      obtain ⟨k, m, r, rfl, hfolder, hdot⟩ := hlead.split (by simp)
      obtain rfl := hdot.of_dot.eq_of_nil
      exact ⟨k, Nat.le_add_right k m, hfolder⟩
  obtain ⟨k, hk, hway⟩ := hway
  refine locate_eq_ok_iff.mpr ⟨(unfit?_join hfolder hne hnull).mpr hfit, follow_eq_ok_iff.mpr ?_⟩
  rw [origin_join hfolder', hsteps]
  exact ⟨k + 0, by omega, hway.append h⟩

theorem locate_join (hl : t.locate cwd folder = .ok (p, some .folder))
    (hsearch : t.permits p .search = true) (hn : IsEntryName name)
    (hfit : (Path.join folder name).utf8ByteSize ≤ longestPath)
    (hlink : ∀ target, t.get? (p ++ [name]) ≠ some (.link target)) :
    t.locate cwd (Path.join folder name) = .ok (p ++ [name], t.get? (p ++ [name])) :=
  locate_join_of_leads hl hn.ne_empty hn.noSlash hn.noNull hfit
    (.down ⟨get?_of_locate hl, hsearch⟩ hn.toIsName hlink .here)

/-- A dot behind the path of a folder leads to the folder again. -/
theorem locate_join_dot (hl : t.locate cwd folder = .ok (p, some .folder))
    (hsearch : t.permits p .search = true)
    (hfit : (Path.join folder ".").utf8ByteSize ≤ longestPath) :
    t.locate cwd (Path.join folder ".") = .ok (p, some .folder) := by
  have hp := get?_of_locate hl
  refine locate_join_of_leads hl (by decide) (by decide) (by decide) hfit (.dot ⟨hp, hsearch⟩ ?_)
  exact hp ▸ .here

end Cutover.FileTree
