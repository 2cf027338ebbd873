import CommandTree.Proofs.Committing
import CommandTree.Proofs.Mirror

/-!
A walk places what the groups of a command list group by group, each group once. A group that leads
back to the command is an exception: the walk then goes through the other groups before it is done
with the first.
-/

namespace CommandTree

namespace Catalog
variable {catalog : Catalog} {fresh left : List Visit} {agenda : List Step} {p d : DefId} {q : Parent}
  {key : String} {g : GroupId} {gs : List GroupId} {v w : Visit}

/-- The last definition of a walk that goes by a name is on the agenda, or the last one of a group
that the walk visits. -/
theorem lastCalled_walkAgenda
    (last : catalog.lastCalled key (placedUnder q (placements (catalog.walkAgenda fresh agenda))) =
      some d) :
    catalog.lastCalled key (placedUnder q (placements agenda)) = some d ∨
      ∃ v, .visit v ∈ catalog.walkAgenda fresh agenda ∧ v.parent = q ∧
        catalog.lastCalled key (catalog.members v.group) = some d := by
  fun_induction walkAgenda catalog fresh agenda with
  | case1 => exact absurd last.symm (Option.some_ne_none d)
  | case2 fresh v agenda _ ih =>
    obtain next | ⟨w, visited, parent, last⟩ := ih last
    · rw [placements_places, placedUnder_append, placedUnder_placementsOf, lastCalled_append,
        Option.or_eq_some_iff] at next
      obtain later | ⟨-, here⟩ := next
      · exact .inl later
      · split at here <;> rename_i parent
        · exact .inr ⟨v, List.mem_cons_self, parent, here⟩
        · exact absurd here.symm (Option.some_ne_none d)
    · exact .inr ⟨w, List.mem_cons_of_mem _ visited, parent, last⟩
  | case3 fresh v agenda _ ih => exact ih last
  | case4 fresh r agenda ih =>
    rw [placements_place, placedUnder_cons, lastCalled_append, Option.or_eq_some_iff] at last ⊢
    obtain later | ⟨unnamed, here⟩ := last
    · obtain next | ⟨w, visited, parent, last⟩ := ih later
      · rw [placements_append, placements_visits, List.nil_append] at next
        exact .inl (.inl next)
      · exact .inr ⟨w, List.mem_cons_of_mem _ visited, parent, last⟩
    · refine .inl (.inr ⟨?_, here⟩)
      rw [lastCalled_eq_none_iff] at unnamed ⊢
      intro e member
      refine unnamed e (mem_placedUnder.mpr (mem_placements.mpr (place_mem_of_agenda ?_)))
      exact List.mem_append_right _ (mem_placements.mp (mem_placedUnder.mp member))

/-! ### Groups that are walked one after the other -/

/-- A walk of a group below a command comes back to the command. -/
def LeadsBack (catalog : Catalog) (g : GroupId) (p : DefId) : Prop :=
  ∃ v, catalog.Meets [] ⟨some p, g⟩ v ∧ p ∈ catalog.members v.group

/-- The groups with a fresh visit under a command, each once. -/
def pending (p : DefId) (fresh : List Visit) (gs : List GroupId) : List GroupId :=
  distinct (gs.filter fun g => ⟨some p, g⟩ ∈ fresh)

theorem mem_pending : g ∈ pending p fresh gs ↔ g ∈ gs ∧ ⟨some p, g⟩ ∈ fresh := by
  simp [pending, mem_distinct]

theorem pending_cons_of_stale (stale : ⟨some p, g⟩ ∉ fresh) :
    pending p fresh (g :: gs) = pending p fresh gs := by
  simp [pending, stale]

theorem pending_cons (unseen : ⟨some p, g⟩ ∈ fresh)
    (others : ∀ g', ⟨some p, g'⟩ ∈ left ↔ ⟨some p, g'⟩ ∈ fresh ∧ g' ≠ g) :
    pending p fresh (g :: gs) = g :: pending p left gs := by
  have first : (g :: gs).filter (fun g => ⟨some p, g⟩ ∈ fresh) =
      g :: gs.filter (fun g => ⟨some p, g⟩ ∈ fresh) := by
    simp [unseen]
  rw [pending, first, distinct_cons, List.filter_filter, pending]
  congr 2
  refine List.filter_congr fun g' _ => ?_
  simp [others, and_comm]

theorem leadsBack_of_visit (past : ⟨some p, g⟩ ∉ fresh)
    (visited : .visit w ∈ catalog.walkAgenda fresh ((catalog.placementsOf ⟨some p, g⟩).map .place))
    (parent : w.parent = some p) : catalog.LeadsBack g p := by
  have met : catalog.Meets [] ⟨some p, g⟩ w := by
    refine (walkAgenda_sound ?_ ?_ ?_).1 w visited
    · intro v reach r declared u below _
      exact .next reach ⟨_, (mem_placementsOf.mp declared).2, below⟩ List.not_mem_nil
    · intro v member
      simp at member
    · intro r member
      obtain ⟨r, declared, same⟩ := List.mem_map.mp member
      exact ⟨_, .start List.not_mem_nil, Step.place.inj same ▸ declared⟩
  cases met with
  | start => exact absurd (of_visit_mem_walkAgenda visited).1 past
  | next before leads _ =>
    obtain ⟨d, member, below⟩ := leads
    obtain ⟨g', -, rfl⟩ := mem_visitsBelow.mp below
    obtain rfl := Option.some.inj parent
    exact ⟨_, before, member⟩

/-- A group is walked without a visit under its command if it does not lead back there, or if no
such visit is left. -/
theorem parent_ne_of_visit (past : ⟨some p, g⟩ ∉ fresh)
    (onward : (∃ g' ∈ (catalog.definition p).nested, ⟨some p, g'⟩ ∈ fresh) → ¬ catalog.LeadsBack g p)
    (visited : .visit w ∈ catalog.walkAgenda fresh ((catalog.placementsOf ⟨some p, g⟩).map .place)) :
    w.parent ≠ some p := by
  intro parent
  obtain ⟨unseen, member | ⟨d, below⟩⟩ := of_visit_mem_walkAgenda visited
  · simp at member
  · obtain ⟨g', provider, rfl⟩ := mem_visitsBelow.mp below
    obtain rfl : d = p := Option.some.inj parent
    exact onward ⟨g', provider, unseen⟩ (leadsBack_of_visit past visited parent)

theorem placedUnder_group
    (aside : ∀ w, .visit w ∈ catalog.walkAgenda fresh ((catalog.placementsOf ⟨some p, g⟩).map .place) →
      w.parent ≠ some p) :
    placedUnder (some p) (placements
        (catalog.walkAgenda fresh ((catalog.placementsOf ⟨some p, g⟩).map .place))) =
      catalog.members g := by
  rw [placedUnder_walkAgenda aside, ← List.append_nil (List.map _ _), placements_places,
    placedUnder_append, placedUnder_placementsOf, if_pos rfl]
  exact List.append_nil _

theorem placedUnder_groups
    (onward : ∀ g ∈ (pending p fresh gs).dropLast, ¬ catalog.LeadsBack g p)
    (covered : ∀ g ∈ (catalog.definition p).nested, ⟨some p, g⟩ ∈ fresh → g ∈ gs) :
    placedUnder (some p) (placements
        (catalog.walkAgenda fresh (gs.map fun g => .visit ⟨some p, g⟩))) =
      (pending p fresh gs).flatMap catalog.members := by
  induction gs generalizing fresh with
  | nil =>
    rw [List.map_nil, walkAgenda]
    rfl
  | cons g gs ih =>
    rw [List.map_cons, walkAgenda]
    have later : ∀ g' ∈ (catalog.definition p).nested, ⟨some p, g'⟩ ∈ fresh → g' ≠ g → g' ∈ gs :=
      fun g' provider unseen different =>
        (List.mem_cons.mp (covered g' provider unseen)).resolve_left different
    by_cases unseen : (⟨some p, g⟩ : Visit) ∈ fresh
    · let past := without fresh ⟨some p, g⟩
      let inner := catalog.walkAgenda past ((catalog.placementsOf ⟨some p, g⟩).map .place)
      have passed : ∀ g', ⟨some p, g'⟩ ∈ past ↔ ⟨some p, g'⟩ ∈ fresh ∧ g' ≠ g := by
        intro g'
        simp [past, mem_without]
      have aside : ∀ w, .visit w ∈ inner → w.parent ≠ some p := by
        refine fun w => parent_ne_of_visit (fun known => ((passed g).mp known).2 rfl) ?_
        -- While another visit is left the group is not the last one, so it does not lead back.
        rintro ⟨g', provider, unseen'⟩
        obtain ⟨unseen'', different⟩ := (passed g').mp unseen'
        have more : pending p past gs ≠ [] := List.ne_nil_of_mem
          (mem_pending.mpr ⟨later g' provider unseen'' different, unseen'⟩)
        rw [pending_cons unseen passed, List.dropLast_cons_of_ne_nil more] at onward
        exact onward g List.mem_cons_self
      have others : ∀ g', ⟨some p, g'⟩ ∈ unvisited past inner ↔ ⟨some p, g'⟩ ∈ fresh ∧ g' ≠ g := by
        intro g'
        rw [mem_unvisited, passed]
        exact ⟨And.left, fun here => ⟨here, fun visited => aside _ visited rfl⟩⟩
      have rest := @ih (unvisited past inner) (fun g' member => onward g' ?_)
        fun g' provider unseen' =>
          later g' provider ((others g').mp unseen').1 ((others g').mp unseen').2
      · rw [if_pos unseen, walkAgenda_append, placements_visit, placements_append,
          placedUnder_append, pending_cons unseen others, List.flatMap_cons, ← rest,
          ← placedUnder_group aside]
      · have more := List.ne_nil_of_mem ((List.dropLast_sublist _).subset member)
        rw [pending_cons unseen others, List.dropLast_cons_of_ne_nil more]
        exact List.mem_cons_of_mem _ member
    · rw [if_neg unseen, pending_cons_of_stale unseen]
      rw [pending_cons_of_stale unseen] at onward
      refine ih onward fun g' provider unseen' => later g' provider unseen' ?_
      rintro rfl
      exact unseen unseen'

theorem placedUnder_visitsBelow
    (onward : ∀ g ∈ (distinct (catalog.definition p).nested).dropLast, ¬ catalog.LeadsBack g p)
    (unseen : ∀ g ∈ (catalog.definition p).nested, ⟨some p, g⟩ ∈ fresh)
    (apart : ∀ v, .visit v ∈ agenda → v.parent ≠ some p)
    (unplaced : placedUnder (some p) (placements agenda) = []) :
    placedUnder (some p) (placements
        (catalog.walkAgenda fresh ((catalog.visitsBelow p).map .visit ++ agenda))) =
      (distinct (catalog.definition p).nested).flatMap catalog.members := by
  have all : pending p fresh (catalog.definition p).nested =
      distinct (catalog.definition p).nested := by
    rw [pending, List.filter_eq_self.mpr]
    exact fun g provider => decide_eq_true (unseen g provider)
  have groups : placedUnder (some p) (placements
        (catalog.walkAgenda fresh ((catalog.visitsBelow p).map .visit))) =
      (distinct (catalog.definition p).nested).flatMap catalog.members := by
    rw [← all] at onward ⊢
    rw [visitsBelow, List.map_map]
    exact placedUnder_groups onward fun _ provider _ => provider
  rw [walkAgenda_append, placements_append, placedUnder_append, groups, placedUnder_walkAgenda,
    unplaced, List.append_nil]
  intro v visited parent
  obtain ⟨left, member | ⟨d, below⟩⟩ := of_visit_mem_walkAgenda visited
  · exact apart v member parent
  · obtain ⟨g, provider, rfl⟩ := mem_visitsBelow.mp below
    obtain rfl : d = p := Option.some.inj parent
    exact (mem_unvisited.mp left).2
      (visit_mem_of_agenda (List.mem_map_of_mem below) (unseen g provider))

theorem placedUnder_of_placed
    (onward : ∀ g ∈ (distinct (catalog.definition p).nested).dropLast, ¬ catalog.LeadsBack g p)
    (apart : ∀ v, .visit v ∈ agenda → v.parent ≠ some p)
    (unplaced : placedUnder (some p) (placements agenda) = [])
    (unseen : ∀ g ∈ (catalog.definition p).nested, ⟨some p, g⟩ ∈ fresh)
    (placed : ∃ r, .place r ∈ catalog.walkAgenda fresh agenda ∧ r.definition = p) :
    placedUnder (some p) (placements (catalog.walkAgenda fresh agenda)) =
      (distinct (catalog.definition p).nested).flatMap catalog.members := by
  fun_induction walkAgenda catalog fresh agenda with
  | case1 =>
    obtain ⟨r, member, -⟩ := placed
    exact absurd member List.not_mem_nil
  | case2 fresh v agenda _ ih =>
    have elsewhere : v.parent ≠ some p := apart v List.mem_cons_self
    refine ih (fun w member => ?_) ?_ (fun g provider => ?_) ?_
    · refine apart w (List.mem_cons_of_mem _ ?_)
      simpa using member
    · rw [placements_places, placedUnder_append, placedUnder_placementsOf, if_neg elsewhere]
      exact unplaced
    · refine mem_without.mpr ⟨unseen g provider, ?_⟩
      rintro rfl
      exact elsewhere rfl
    · obtain ⟨r, member, same⟩ := placed
      exact ⟨r, (List.mem_cons.mp member).resolve_left (by simp), same⟩
  | case3 fresh v agenda _ ih =>
    exact ih (fun w member => apart w (List.mem_cons_of_mem _ member)) unplaced unseen placed
  | case4 fresh r agenda ih =>
    rw [placements_place, placedUnder_cons, List.append_eq_nil_iff] at unplaced
    obtain ⟨here, later⟩ := unplaced
    have ahead : ∀ v, .visit v ∈ agenda → v.parent ≠ some p :=
      fun v member => apart v (List.mem_cons_of_mem _ member)
    rw [placements_place, placedUnder_cons, here, List.nil_append]
    by_cases same : r.definition = p
    · rw [same]
      exact placedUnder_visitsBelow onward unseen ahead later
    · refine ih (fun v member => ?_) ?_ unseen ?_
      · rcases List.mem_append.mp member with new | old
        · obtain ⟨w, below, again⟩ := List.mem_map.mp new
          obtain rfl := Step.visit.inj again
          obtain ⟨g, -, rfl⟩ := mem_visitsBelow.mp below
          exact fun parent => same (Option.some.inj parent)
        · exact ahead v old
      · rw [placements_append, placements_visits]
        exact later
      · obtain ⟨r', member, same'⟩ := placed
        refine ⟨r', (List.mem_cons.mp member).resolve_left ?_, same'⟩
        rintro again
        obtain rfl := Step.place.inj again
        exact same same'

/-! ### What a registration on a fresh registry places -/

variable {group : GroupId}

theorem placedUnder_root :
    placedUnder none (catalog.placed ⟨none, group⟩) = catalog.members group :=
  rootsAmong_placed ⟨none, group⟩

theorem placed_of_reach (reach : catalog.Reach group (some p)) :
    ∃ q, ⟨q, p⟩ ∈ catalog.placed ⟨none, group⟩ := by
  cases reach with
  | nested above member _ => exact ⟨_, mem_placed_root_iff.mpr ⟨above, member⟩⟩

theorem placedUnder_of_onward (reach : catalog.Reach group (some p))
    (onward : ∀ g ∈ (distinct (catalog.definition p).nested).dropLast, ¬ catalog.LeadsBack g p) :
    placedUnder (some p) (catalog.placed ⟨none, group⟩) =
      (distinct (catalog.definition p).nested).flatMap catalog.members := by
  obtain ⟨q, placed⟩ := placed_of_reach reach
  refine placedUnder_of_placed onward (fun v member => ?_) rfl (fun g provider => ?_) ?_
  · obtain rfl := Step.visit.inj (List.mem_singleton.mp member)
    exact (Option.some_ne_none p).symm
  · exact mem_fresh.mpr
      ⟨.inr (mem_allVisits_of_visitsBelow (mem_visitsBelow.mpr ⟨g, provider, rfl⟩)), List.not_mem_nil⟩
  · exact ⟨⟨q, p⟩, mem_placements.mp placed, rfl⟩

theorem exists_group_of_lastCalled
    (named : catalog.lastCalled key (placedUnder (some p) (catalog.placed ⟨none, group⟩)) = some d) :
    ∃ g ∈ (catalog.definition p).nested, catalog.lastCalled key (catalog.members g) = some d := by
  obtain unplaced | ⟨v, visited, parent, last⟩ := lastCalled_walkAgenda named
  · exact nomatch unplaced
  · obtain ⟨-, member | ⟨e, below⟩⟩ := of_visit_mem_walkAgenda visited
    · obtain rfl := Step.visit.inj (List.mem_singleton.mp member)
      exact nomatch parent
    · obtain ⟨g, provider, rfl⟩ := mem_visitsBelow.mp below
      obtain rfl := Option.some.inj parent
      exact ⟨g, provider, last⟩

end Catalog

namespace Registry
variable {settings : Settings}

/-- The first group of the loop leads back to it, and the tram has one of its groups twice. -/
def junction : Catalog where
  groups := #[{ members := [⟨0⟩, ⟨1⟩] }, { members := [⟨2⟩, ⟨3⟩] }, { members := [⟨4⟩] },
    { members := [⟨5⟩] }]
  definitions := #[{ name := "loop", body := .nested ⟨1⟩ [⟨2⟩] },
    { name := "tram", body := .nested ⟨2⟩ [⟨3⟩, ⟨2⟩] },
    { name := "again", body := .nested ⟨0⟩ [] },
    { name := "stop", body := .leaf fun _ _ => .give .null },
    { name := "stop", body := .leaf fun _ _ => .give .null },
    { name := "stop", body := .leaf fun _ _ => .give .null }]

theorem reach_loop : junction.Reach ⟨0⟩ (some ⟨0⟩) := .nested .root (by decide) rfl

theorem reach_tram : junction.Reach ⟨0⟩ (some ⟨1⟩) := .nested .root (by decide) rfl

theorem onward_tram :
    ∀ g ∈ (distinct (junction.definition ⟨1⟩).nested).dropLast, ¬ junction.LeadsBack g ⟨1⟩ := by
  have first : (distinct (junction.definition ⟨1⟩).nested).dropLast = [⟨2⟩] := by decide
  have walked : junction.walk [] ⟨some ⟨1⟩, ⟨2⟩⟩ =
      [.visit ⟨some ⟨1⟩, ⟨2⟩⟩, .place ⟨some ⟨1⟩, ⟨4⟩⟩] := by decide +kernel
  rw [first]
  intro g member
  obtain rfl := List.mem_singleton.mp member
  rintro ⟨v, met, back⟩
  rw [← Catalog.visit_mem_walk, walked] at met
  obtain rfl : v = ⟨some ⟨1⟩, ⟨2⟩⟩ := by simpa using met
  exact absurd back (by decide)

/-- Without strict names the last command that goes by a name gets it. At the root commands come in
the order of their group. Below a command they come in the order of the walk: whoever gets a name is
the last of one of the groups, and the last of all groups in their order, each taken where it first
comes, unless another group than the last leads back to the command. -/
theorem last_declaration_wins (lenient : settings.strictAliases = false) (catalog : Catalog)
    (group : GroupId) :
    ∃ registration,
      ({ settings } : Registry).register catalog (.group group) none = .ok registration ∧
      ∀ a, registration.registry.lookup a none =
          catalog.lastCalled (Text.lower a) (catalog.members group) ∧
        ∀ p, catalog.Reach group (some p) →
          registration.registry.lookup a (some p) = catalog.lastCalled (Text.lower a)
            (placedUnder (some p) (catalog.placed ⟨none, group⟩)) ∧
          (registration.registry.lookup a (some p) = none ↔
            ∀ d ∈ catalog.declaredUnder p, ¬ catalog.GoesBy d (Text.lower a)) ∧
          (∀ d, registration.registry.lookup a (some p) = some d →
            ∃ g ∈ (catalog.definition p).nested,
              catalog.lastCalled (Text.lower a) (catalog.members g) = some d) ∧
          ((∀ g ∈ (distinct (catalog.definition p).nested).dropLast, ¬ catalog.LeadsBack g p) →
            registration.registry.lookup a (some p) = catalog.lastCalled (Text.lower a)
              ((distinct (catalog.definition p).nested).flatMap catalog.members)) := by
  obtain ⟨registration, done⟩ : ∃ registration,
      ({ settings } : Registry).register catalog (.group group) none = .ok registration :=
    register_of_outcome _ (attempt_of_lenient lenient rfl rfl).1
  have found : ∀ a q, registration.registry.lookup a q = catalog.lastCalled (Text.lower a)
      (placedUnder q (catalog.placed ⟨none, group⟩)) := by
    intro a q
    rw [register_committed _ done, lookup, get?_committed_eq, node_fresh, Ordered.get?_empty,
      Option.or_none]
  refine ⟨registration, done, fun a => ⟨?_, fun p reach => ⟨found a _, ?_, fun d here => ?_,
    fun onward => ?_⟩⟩⟩
  · rw [found, Catalog.placedUnder_root]
  · rw [found, Catalog.lastCalled_eq_none_iff]
    refine forall_congr' fun d => imp_congr_left ?_
    rw [mem_placedUnder, Catalog.mem_placed_root_iff]
    exact ⟨And.right, fun member => ⟨reach, member⟩⟩
  · rw [found] at here
    exact Catalog.exists_group_of_lastCalled here
  · rw [found, Catalog.placedUnder_of_onward reach onward]

theorem last_declaration_wins_tram :
    ∃ registration, ({} : Registry).register junction (.group ⟨0⟩) none = .ok registration ∧
      registration.registry.lookup "tram" none = some ⟨1⟩ ∧
      registration.registry.lookup "STOP" (some ⟨1⟩) = some ⟨5⟩ ∧
      registration.registry.lookup "again" (some ⟨1⟩) = none := by
  have lenient : ({} : Settings).strictAliases = false := rfl
  obtain ⟨registration, done, found⟩ := last_declaration_wins lenient junction ⟨0⟩
  have stop := ((found "STOP").2 ⟨1⟩ reach_tram).2.2.2 onward_tram
  have again := ((found "again").2 ⟨1⟩ reach_tram).2.1
  refine ⟨registration, done, ?_, ?_, again.mpr (by decide)⟩
  · rw [(found "tram").1]
    decide
  · rw [stop]
    decide

/-- The order of declaration alone does not tell who gets a name: not below the loop, whose first
group leads back to it, and not below the tram, where a group that comes again is not walked again.
-/
theorem declared_order_not_kept :
    ∃ registration, ({} : Registry).register junction (.group ⟨0⟩) none = .ok registration ∧
      junction.Reach ⟨0⟩ (some ⟨0⟩) ∧
      registration.registry.lookup "stop" (some ⟨0⟩) = some ⟨3⟩ ∧
      junction.lastCalled "stop" (junction.declaredUnder ⟨0⟩) = some ⟨4⟩ ∧
      junction.Reach ⟨0⟩ (some ⟨1⟩) ∧
      registration.registry.lookup "stop" (some ⟨1⟩) = some ⟨5⟩ ∧
      junction.lastCalled "stop" (junction.declaredUnder ⟨1⟩) = some ⟨4⟩ := by
  obtain ⟨registration, done⟩ : ∃ registration,
      ({} : Registry).register junction (.group ⟨0⟩) none = .ok registration :=
    register_of_outcome _ (attempt_of_lenient rfl rfl rfl).1
  refine ⟨registration, done, reach_loop, ?_, by decide, reach_tram, ?_, by decide⟩
  · rw [register_committed _ done]
    decide +kernel
  · rw [register_committed _ done]
    decide +kernel

end Registry
end CommandTree
