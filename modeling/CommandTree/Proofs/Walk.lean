import CommandTree.Registry.Walk

namespace CommandTree.Catalog
variable {catalog : Catalog}

/-- A visit leads to the groups of the definitions that its group declares. -/
def LeadsTo (catalog : Catalog) (v w : Visit) : Prop :=
  ∃ d ∈ catalog.members v.group, w ∈ catalog.visitsBelow d

/-- The visits that can be reached from one without those already seen. -/
inductive Meets (catalog : Catalog) (seen : List Visit) (start : Visit) : Visit → Prop where
  | start : start ∉ seen → Meets catalog seen start start
  | next {v w : Visit} : Meets catalog seen start v → catalog.LeadsTo v w → w ∉ seen →
      Meets catalog seen start w

theorem mem_visitsBelow {d : DefId} {w : Visit} :
    w ∈ catalog.visitsBelow d ↔ ∃ g ∈ (catalog.definition d).nested, w = ⟨some d, g⟩ := by
  simp only [visitsBelow, List.mem_map, eq_comm]

theorem mem_placementsOf {v : Visit} {p : Placement} :
    p ∈ catalog.placementsOf v ↔ p.parent = v.parent ∧ p.definition ∈ catalog.members v.group := by
  simp only [placementsOf, List.mem_map]
  constructor
  · rintro ⟨d, member, rfl⟩
    exact ⟨rfl, member⟩
  · rintro ⟨parent, member⟩
    exact ⟨p.definition, member, by rw [← parent]⟩

theorem index_lt_of_visitsBelow {d : DefId} {w : Visit} (below : w ∈ catalog.visitsBelow d) :
    d.index < catalog.definitions.size := by
  obtain ⟨g, nested, -⟩ := mem_visitsBelow.mp below
  refine Nat.lt_of_not_le fun beyond => ?_
  have absent : catalog.definition d = default := by
    simp only [definition, Array.getElem?_eq_none beyond, Option.getD_none]
  rw [absent] at nested
  exact absurd nested List.not_mem_nil

theorem mem_allVisits_of_visitsBelow {d : DefId} {w : Visit} (below : w ∈ catalog.visitsBelow d) :
    w ∈ catalog.allVisits :=
  List.mem_flatMap.mpr ⟨d.index, List.mem_range.mpr (index_lt_of_visitsBelow below), below⟩

theorem length_without_lt {fresh : List Visit} {v : Visit} (there : v ∈ fresh) :
    (without fresh v).length < fresh.length :=
  List.length_filter_lt_length_iff_exists.mpr ⟨v, there, by simp⟩

theorem mem_without {fresh : List Visit} {v w : Visit} : w ∈ without fresh v ↔ w ∈ fresh ∧ w ≠ v := by
  simp [without]

theorem place_mem_of_agenda {fresh : List Visit} {agenda : List Step} {p : Placement}
    (member : .place p ∈ agenda) : .place p ∈ catalog.walkAgenda fresh agenda := by
  fun_induction walkAgenda catalog fresh agenda with
  | case1 => exact member
  | case2 fresh v agenda _ ih =>
    obtain rest := (List.mem_cons.mp member).resolve_left (by simp)
    exact List.mem_cons_of_mem _ (ih (List.mem_append_right _ rest))
  | case3 fresh v agenda _ ih => exact ih ((List.mem_cons.mp member).resolve_left (by simp))
  | case4 fresh q agenda ih =>
    rcases List.mem_cons.mp member with same | rest
    · rw [same]
      exact List.mem_cons_self
    · exact List.mem_cons_of_mem _ (ih (List.mem_append_right _ rest))

theorem visit_mem_of_agenda {fresh : List Visit} {agenda : List Step} {w : Visit}
    (member : .visit w ∈ agenda) (unseen : w ∈ fresh) :
    .visit w ∈ catalog.walkAgenda fresh agenda := by
  fun_induction walkAgenda catalog fresh agenda with
  | case1 => exact member
  | case2 fresh v agenda _ ih =>
    by_cases same : w = v
    · rw [same]
      exact List.mem_cons_self
    · have rest := (List.mem_cons.mp member).resolve_left (by simpa using same)
      exact List.mem_cons_of_mem _ (ih (List.mem_append_right _ rest) (mem_without.mpr ⟨unseen, same⟩))
  | case3 fresh v agenda stale ih =>
    refine ih ((List.mem_cons.mp member).resolve_left ?_) unseen
    rintro same
    exact stale (Step.visit.inj same ▸ unseen)
  | case4 fresh q agenda ih =>
    have rest := (List.mem_cons.mp member).resolve_left (by simp)
    exact List.mem_cons_of_mem _ (ih (List.mem_append_right _ rest) unseen)

theorem place_mem_of_visit {fresh : List Visit} {agenda : List Step} {v : Visit} {p : Placement}
    (visited : .visit v ∈ catalog.walkAgenda fresh agenda) (declared : p ∈ catalog.placementsOf v) :
    .place p ∈ catalog.walkAgenda fresh agenda := by
  fun_induction walkAgenda catalog fresh agenda with
  | case1 => exact absurd visited List.not_mem_nil
  | case2 fresh u agenda _ ih =>
    refine List.mem_cons_of_mem _ ?_
    rcases List.mem_cons.mp visited with same | rest
    · obtain rfl := Step.visit.inj same
      exact place_mem_of_agenda (List.mem_append_left _ (List.mem_map_of_mem declared))
    · exact ih rest
  | case3 fresh u agenda _ ih => exact ih visited
  | case4 fresh q agenda ih =>
    exact List.mem_cons_of_mem _ (ih ((List.mem_cons.mp visited).resolve_left (by simp)))

theorem visit_mem_of_place {fresh : List Visit} {agenda : List Step} {p : Placement} {w : Visit}
    (placed : .place p ∈ catalog.walkAgenda fresh agenda)
    (below : w ∈ catalog.visitsBelow p.definition) (unseen : w ∈ fresh) :
    .visit w ∈ catalog.walkAgenda fresh agenda := by
  fun_induction walkAgenda catalog fresh agenda with
  | case1 => exact absurd placed List.not_mem_nil
  | case2 fresh v agenda _ ih =>
    by_cases same : w = v
    · rw [same]
      exact List.mem_cons_self
    · exact List.mem_cons_of_mem _ (ih ((List.mem_cons.mp placed).resolve_left (by simp))
        (mem_without.mpr ⟨unseen, same⟩))
  | case3 fresh v agenda _ ih => exact ih placed unseen
  | case4 fresh q agenda ih =>
    refine List.mem_cons_of_mem _ ?_
    rcases List.mem_cons.mp placed with same | rest
    · obtain rfl := Step.place.inj same
      exact visit_mem_of_agenda (List.mem_append_left _ (List.mem_map_of_mem below)) unseen
    · exact ih rest unseen

/-- Where a step of a walk comes from: the reached visits are closed under what the walk follows. -/
theorem walkAgenda_sound {reached : Visit → Prop} {fresh : List Visit} {agenda : List Step}
    (closed : ∀ v, reached v → ∀ p ∈ catalog.placementsOf v,
      ∀ w ∈ catalog.visitsBelow p.definition, w ∈ fresh → reached w)
    (visits : ∀ v, .visit v ∈ agenda → v ∈ fresh → reached v)
    (places : ∀ p, .place p ∈ agenda → ∃ v, reached v ∧ p ∈ catalog.placementsOf v) :
    (∀ v, .visit v ∈ catalog.walkAgenda fresh agenda → reached v) ∧
      ∀ p, .place p ∈ catalog.walkAgenda fresh agenda →
        ∃ v, reached v ∧ p ∈ catalog.placementsOf v := by
  fun_induction walkAgenda catalog fresh agenda with
  | case1 => simp
  | case2 fresh v agenda unseen ih =>
    have here : reached v := visits v List.mem_cons_self unseen
    obtain ⟨visited, placed⟩ := ih
      (fun u reach p declared w below rest =>
        closed u reach p declared w below (mem_without.mp rest).1)
      (fun u member rest => by
        refine visits u (List.mem_cons_of_mem _ ?_) (mem_without.mp rest).1
        simpa using member)
      (fun p member => by
        rcases List.mem_append.mp member with new | rest
        · obtain ⟨q, declared, same⟩ := List.mem_map.mp new
          exact ⟨v, here, Step.place.inj same ▸ declared⟩
        · exact places p (List.mem_cons_of_mem _ rest))
    refine ⟨fun u member => ?_, fun p member => ?_⟩
    · rcases List.mem_cons.mp member with same | rest
      · exact Step.visit.inj same ▸ here
      · exact visited u rest
    · exact placed p ((List.mem_cons.mp member).resolve_left (by simp))
  | case3 fresh v agenda _ ih =>
    exact ih closed (fun u member => visits u (List.mem_cons_of_mem _ member))
      (fun p member => places p (List.mem_cons_of_mem _ member))
  | case4 fresh q agenda ih =>
    obtain ⟨v, reach, declared⟩ := places q List.mem_cons_self
    obtain ⟨visited, placed⟩ := ih closed
      (fun u member unseen => by
        rcases List.mem_append.mp member with new | rest
        · obtain ⟨w, below, same⟩ := List.mem_map.mp new
          obtain rfl := Step.visit.inj same
          exact closed v reach q declared w below unseen
        · exact visits u (List.mem_cons_of_mem _ rest) unseen)
      (fun p member => by
        refine places p (List.mem_cons_of_mem _ ?_)
        simpa using member)
    refine ⟨fun u member => visited u ((List.mem_cons.mp member).resolve_left (by simp)), ?_⟩
    intro p member
    rcases List.mem_cons.mp member with same | rest
    · exact Step.place.inj same ▸ ⟨v, reach, declared⟩
    · exact placed p rest

def unvisited (fresh : List Visit) (steps : List Step) : List Visit :=
  fresh.filter fun v => .visit v ∉ steps

theorem mem_unvisited {fresh : List Visit} {steps : List Step} {v : Visit} :
    v ∈ unvisited fresh steps ↔ v ∈ fresh ∧ .visit v ∉ steps := by
  simp [unvisited]

theorem unvisited_visit (fresh : List Visit) (v : Visit) (steps : List Step) :
    unvisited fresh (.visit v :: steps) = unvisited (without fresh v) steps := by
  rw [unvisited, unvisited, without, List.filter_filter]
  refine List.filter_congr fun w _ => ?_
  by_cases same : w = v <;> simp [same]

theorem unvisited_place (fresh : List Visit) (p : Placement) (steps : List Step) :
    unvisited fresh (.place p :: steps) = unvisited fresh steps :=
  List.filter_congr fun w _ => by simp

/-- Two agendas are worked through one after the other, the second without what the first visits. -/
theorem walkAgenda_append (fresh : List Visit) (first second : List Step) :
    catalog.walkAgenda fresh (first ++ second) = catalog.walkAgenda fresh first ++
      catalog.walkAgenda (unvisited fresh (catalog.walkAgenda fresh first)) second := by
  fun_induction walkAgenda catalog fresh first with
  | case1 fresh =>
    have all : unvisited fresh [] = fresh := List.filter_eq_self.mpr (by simp)
    rw [all, List.nil_append, List.nil_append]
  | case2 fresh v agenda unseen ih =>
    rw [unvisited_visit, List.cons_append, walkAgenda, if_pos unseen, ← List.append_assoc, ih,
      List.cons_append]
  | case3 fresh v agenda stale ih => rw [List.cons_append, walkAgenda, if_neg stale, ih]
  | case4 fresh p agenda ih =>
    rw [unvisited_place, List.cons_append, walkAgenda, ← List.append_assoc, ih, List.cons_append]

/-! ### Whole walks -/

theorem mem_fresh {seen : List Visit} {start w : Visit} :
    w ∈ (start :: catalog.allVisits).filter (· ∉ seen) ↔
      (w = start ∨ w ∈ catalog.allVisits) ∧ w ∉ seen := by
  simp [List.mem_filter]

theorem walk_sound {seen : List Visit} {start : Visit} :
    (∀ v, .visit v ∈ catalog.walk seen start → catalog.Meets seen start v) ∧
      ∀ p, .place p ∈ catalog.walk seen start →
        ∃ v, catalog.Meets seen start v ∧ p ∈ catalog.placementsOf v := by
  refine walkAgenda_sound ?_ ?_ (by simp)
  · intro v reach p declared w below unseen
    exact .next reach ⟨p.definition, (mem_placementsOf.mp declared).2, below⟩
      (mem_fresh.mp unseen).2
  · intro v member unseen
    obtain rfl : v = start := by simpa using member
    exact .start (mem_fresh.mp unseen).2

theorem visit_mem_walk {seen : List Visit} {start v : Visit} :
    .visit v ∈ catalog.walk seen start ↔ catalog.Meets seen start v := by
  refine ⟨walk_sound.1 v, fun reach => ?_⟩
  induction reach with
  | start unseen => exact visit_mem_of_agenda List.mem_cons_self (mem_fresh.mpr ⟨.inl rfl, unseen⟩)
  | @next v w _ leads unseen visited =>
    obtain ⟨d, member, below⟩ := leads
    have declared : (⟨v.parent, d⟩ : Placement) ∈ catalog.placementsOf v :=
      mem_placementsOf.mpr ⟨rfl, member⟩
    exact visit_mem_of_place (place_mem_of_visit visited declared) below
      (mem_fresh.mpr ⟨.inr (mem_allVisits_of_visitsBelow below), unseen⟩)

theorem place_mem_walk {seen : List Visit} {start : Visit} {p : Placement} :
    .place p ∈ catalog.walk seen start ↔
      ∃ v, catalog.Meets seen start v ∧ p ∈ catalog.placementsOf v := by
  refine ⟨walk_sound.2 p, ?_⟩
  rintro ⟨v, reach, declared⟩
  exact place_mem_of_visit (visit_mem_walk.mpr reach) declared

theorem mem_placed {start : Visit} {p : Placement} :
    p ∈ catalog.placed start ↔ ∃ v, catalog.Meets [] start v ∧ p ∈ catalog.placementsOf v := by
  rw [← place_mem_walk, placed, List.mem_filterMap]
  constructor
  · rintro ⟨step, member, placed⟩
    cases step with
    | visit v => exact nomatch placed
    | place q => exact Option.some.inj placed ▸ member
  · exact fun member => ⟨_, member, rfl⟩

end CommandTree.Catalog
