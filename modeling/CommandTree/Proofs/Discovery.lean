import CommandTree.Proofs.Mirror
import CommandTree.Proofs.Placing
import Mathlib.Data.List.Perm.Subperm

/-!
A registration discovers what it takes in by a depth first recursion over a graph that may share
groups and go round cycles. What it has discovered under a parent it passes over, so it ends. The
walk with an agenda takes the same steps.
-/

namespace CommandTree

def Step.visit? : Step → Option Visit
  | visit v => some v
  | place _ => none

namespace Catalog
variable {catalog : Catalog} {fresh : List Visit} {agenda steps : List Step} {v start : Visit}

def visits (steps : List Step) : List Visit := steps.filterMap Step.visit?

theorem visits_visit (v : Visit) (steps : List Step) :
    visits (.visit v :: steps) = v :: visits steps := rfl

theorem mem_visits : v ∈ visits steps ↔ .visit v ∈ steps := by
  simp only [visits, List.mem_filterMap]
  constructor
  · rintro ⟨step, member, visited⟩
    cases step with
    | visit w => exact Option.some.inj visited ▸ member
    | place p => exact nomatch visited
  · exact fun member => ⟨_, member, rfl⟩

theorem nodup_visits_walkAgenda (fresh : List Visit) (agenda : List Step) :
    (visits (catalog.walkAgenda fresh agenda)).Nodup := by
  fun_induction walkAgenda catalog fresh agenda with
  | case1 => exact List.nodup_nil
  | case2 fresh v agenda _ ih =>
    refine List.nodup_cons.mpr ⟨fun again => ?_, ih⟩
    exact (mem_without.mp (of_visit_mem_walkAgenda (mem_visits.mp again)).1).2 rfl
  | case3 fresh v agenda _ ih => exact ih
  | case4 fresh p agenda ih => exact ih

theorem placements_walkAgenda (fresh : List Visit) (agenda : List Step) :
    (placements (catalog.walkAgenda fresh agenda)).Perm
      (placements agenda ++
        (visits (catalog.walkAgenda fresh agenda)).flatMap catalog.placementsOf) := by
  fun_induction walkAgenda catalog fresh agenda with
  | case1 => exact .refl _
  | case2 fresh v agenda _ ih =>
    rw [placements_places] at ih
    rw [placements_visit, placements_visit, visits_visit, List.flatMap_cons]
    refine ih.trans ?_
    rw [← List.append_assoc]
    exact List.perm_append_comm.append_right _
  | case3 fresh v agenda _ ih => exact ih
  | case4 fresh p agenda ih =>
    rw [placements_append, placements_visits] at ih
    exact ih.cons p

theorem length_visits_walk_le (seen : List Visit) (start : Visit) :
    (visits (catalog.walk seen start)).length ≤ catalog.allVisits.length + 1 := by
  have known : visits (catalog.walk seen start) ⊆ start :: catalog.allVisits := fun v visited =>
    List.mem_of_mem_filter (of_visit_mem_walkAgenda (mem_visits.mp visited)).1
  exact ((nodup_visits_walkAgenda _ _).subperm known).length_le

theorem walk_of_seen {seen : List Visit} (known : start ∈ seen) : catalog.walk seen start = [] := by
  have stale : start ∉ (start :: catalog.allVisits).filter (· ∉ seen) := fun unseen =>
    (mem_fresh.mp unseen).2 known
  rw [walk, walkAgenda, if_neg stale, walkAgenda]

end Catalog

namespace Registry

/-- What a discovery has come to: the groups it has discovered under their parents, the names it has
staged and what it has logged. -/
structure Discovery where
  seen : List Visit := []
  staging : Staging := ∅
  records : List LogRecord := []

def Discovery.discover (found : Discovery) (v : Visit) : Discovery :=
  { found with seen := v :: found.seen }

def stage (registry : Registry) (catalog : Catalog) (found : Discovery) (p : Placement) :
    Except RegistrationFault Discovery :=
  match ((catalog.claims p).foldlM (stageClaim catalog) found.staging).perform
      { registry, records := found.records } with
  | (.ok staging, desk) => .ok { found with staging, records := desk.records }
  | (.error fault, _) => .error fault

/-- The recursion. It works through the visits and the placements of an agenda, and in the end there
are the steps that it made and what it came to, or the fault that ended it. A group is gone through
when it is visited for the first time, and the groups below a definition are visited when its names
are staged. -/
inductive Discovers (registry : Registry) (catalog : Catalog) :
    Discovery → List Step → List Step → Except RegistrationFault Discovery → Prop where
  | done (found : Discovery) : Discovers registry catalog found [] [] (.ok found)
  | pass {found : Discovery} {agenda made : List Step}
      {ended : Except RegistrationFault Discovery} {v : Visit} (known : v ∈ found.seen)
      (others : Discovers registry catalog found agenda made ended) :
      Discovers registry catalog found (.visit v :: agenda) made ended
  | visit {found between : Discovery} {agenda below made : List Step}
      {ended : Except RegistrationFault Discovery} {v : Visit} (new : v ∉ found.seen)
      (inner : Discovers registry catalog (found.discover v)
        ((catalog.placementsOf v).map .place) below (.ok between))
      (others : Discovers registry catalog between agenda made ended) :
      Discovers registry catalog found (.visit v :: agenda) (.visit v :: (below ++ made)) ended
  | failVisit {found : Discovery} {agenda below : List Step} {fault : RegistrationFault} {v : Visit}
      (new : v ∉ found.seen)
      (inner : Discovers registry catalog (found.discover v)
        ((catalog.placementsOf v).map .place) below (.error fault)) :
      Discovers registry catalog found (.visit v :: agenda) (.visit v :: below) (.error fault)
  | place {found staged between : Discovery} {agenda below made : List Step}
      {ended : Except RegistrationFault Discovery} {p : Placement}
      (names : stage registry catalog found p = .ok staged)
      (inner : Discovers registry catalog staged
        ((catalog.visitsBelow p.definition).map .visit) below (.ok between))
      (others : Discovers registry catalog between agenda made ended) :
      Discovers registry catalog found (.place p :: agenda) (.place p :: (below ++ made)) ended
  | failPlace {found staged : Discovery} {agenda below : List Step} {fault : RegistrationFault}
      {p : Placement}
      (names : stage registry catalog found p = .ok staged)
      (inner : Discovers registry catalog staged
        ((catalog.visitsBelow p.definition).map .visit) below (.error fault)) :
      Discovers registry catalog found (.place p :: agenda) (.place p :: below) (.error fault)
  | refuse {found : Discovery} {agenda : List Step} {fault : RegistrationFault} {p : Placement}
      (names : stage registry catalog found p = .error fault) :
      Discovers registry catalog found (.place p :: agenda) [.place p] (.error fault)

variable {registry : Registry} {catalog : Catalog} {found between found' : Discovery}
  {agenda first made made' : List Step} {ended ended' : Except RegistrationFault Discovery}
  {fault : RegistrationFault} {start : Visit}

theorem Discovers.unique (one : Discovers registry catalog found agenda made ended)
    (other : Discovers registry catalog found agenda made' ended') :
    made = made' ∧ ended = ended' := by
  induction one generalizing made' ended' with
  | done =>
    cases other
    exact ⟨rfl, rfl⟩
  | pass known _ ih =>
    cases other with
    | pass _ others => exact ih others
    | visit new => exact absurd known new
    | failVisit new => exact absurd known new
  | visit new _ _ inner others =>
    cases other with
    | pass known => exact absurd known new
    | visit _ inner' others' =>
      obtain ⟨rfl, same⟩ := inner inner'
      obtain rfl := Except.ok.inj same
      obtain ⟨rfl, rfl⟩ := others others'
      exact ⟨rfl, rfl⟩
    | failVisit _ inner' => exact nomatch (inner inner').2
  | failVisit new _ inner =>
    cases other with
    | pass known => exact absurd known new
    | visit _ inner' => exact nomatch (inner inner').2
    | failVisit _ inner' =>
      obtain ⟨rfl, same⟩ := inner inner'
      exact ⟨rfl, same⟩
  | place names _ _ inner others =>
    cases other with
    | place names' inner' others' =>
      obtain rfl := Except.ok.inj (names.symm.trans names')
      obtain ⟨rfl, same⟩ := inner inner'
      obtain rfl := Except.ok.inj same
      obtain ⟨rfl, rfl⟩ := others others'
      exact ⟨rfl, rfl⟩
    | failPlace names' inner' =>
      obtain rfl := Except.ok.inj (names.symm.trans names')
      exact nomatch (inner inner').2
    | refuse names' => exact nomatch names.symm.trans names'
  | failPlace names _ inner =>
    cases other with
    | place names' inner' =>
      obtain rfl := Except.ok.inj (names.symm.trans names')
      exact nomatch (inner inner').2
    | failPlace names' inner' =>
      obtain rfl := Except.ok.inj (names.symm.trans names')
      obtain ⟨rfl, same⟩ := inner inner'
      exact ⟨rfl, same⟩
    | refuse names' => exact nomatch names.symm.trans names'
  | refuse names =>
    cases other with
    | place names' => exact nomatch names.symm.trans names'
    | failPlace names' => exact nomatch names.symm.trans names'
    | refuse names' => exact ⟨rfl, congrArg _ (Except.error.inj (names.symm.trans names'))⟩

/-! ### Steps in a row -/

/-- Takes steps one after the other up to the first that fails, and tells which were taken. -/
def takeSteps (registry : Registry) (catalog : Catalog) (found : Discovery) :
    List Step → List Step × Except RegistrationFault Discovery
  | [] => ([], .ok found)
  | .visit v :: steps =>
    let (made, ended) := takeSteps registry catalog (found.discover v) steps
    (.visit v :: made, ended)
  | .place p :: steps =>
    match stage registry catalog found p with
    | .error fault => ([.place p], .error fault)
    | .ok staged =>
      let (made, ended) := takeSteps registry catalog staged steps
      (.place p :: made, ended)

theorem takeSteps_visit (found : Discovery) (v : Visit) (steps : List Step) :
    takeSteps registry catalog found (.visit v :: steps) =
      (.visit v :: (takeSteps registry catalog (found.discover v) steps).1,
        (takeSteps registry catalog (found.discover v) steps).2) := rfl

theorem takeSteps_place {p : Placement} {staged : Discovery}
    (names : stage registry catalog found p = .ok staged) (steps : List Step) :
    takeSteps registry catalog found (.place p :: steps) =
      (.place p :: (takeSteps registry catalog staged steps).1,
        (takeSteps registry catalog staged steps).2) := by
  rw [takeSteps, names]

theorem takeSteps_refused {p : Placement} (names : stage registry catalog found p = .error fault)
    (steps : List Step) :
    takeSteps registry catalog found (.place p :: steps) = ([.place p], .error fault) := by
  rw [takeSteps, names]

theorem seen_stage {p : Placement} {staged : Discovery}
    (names : stage registry catalog found p = .ok staged) : staged.seen = found.seen := by
  unfold stage at names
  split at names
  · exact Except.ok.inj names ▸ rfl
  · exact nomatch names

theorem takeSteps_prefix (found : Discovery) (steps : List Step) :
    (takeSteps registry catalog found steps).1 <+: steps := by
  induction steps generalizing found with
  | nil => exact List.prefix_rfl
  | cons step steps ih =>
    cases step with
    | visit v => exact (List.prefix_cons_inj _).mpr (ih (found.discover v))
    | place p =>
      cases names : stage registry catalog found p with
      | error fault =>
        rw [takeSteps_refused names]
        exact (List.prefix_cons_inj _).mpr List.nil_prefix
      | ok staged =>
        rw [takeSteps_place names]
        exact (List.prefix_cons_inj _).mpr (ih staged)

theorem takeSteps_ok {steps : List Step}
    (through : (takeSteps registry catalog found steps).2 = .ok found') :
    (takeSteps registry catalog found steps).1 = steps ∧
      found'.seen = (Catalog.visits steps).reverse ++ found.seen := by
  induction steps generalizing found with
  | nil => exact ⟨rfl, Except.ok.inj through ▸ rfl⟩
  | cons step steps ih =>
    cases step with
    | visit v =>
      obtain ⟨made, seen⟩ := ih through
      refine ⟨congrArg (Step.visit v :: ·) made, ?_⟩
      rw [seen, Catalog.visits_visit, List.reverse_cons, List.append_assoc]
      rfl
    | place p =>
      cases names : stage registry catalog found p with
      | error fault =>
        rw [takeSteps_refused names] at through
        exact nomatch through
      | ok staged =>
        rw [takeSteps_place names] at through ⊢
        obtain ⟨made, seen⟩ := ih through
        exact ⟨congrArg (Step.place p :: ·) made, by rw [seen, seen_stage names]; rfl⟩

theorem takeSteps_append_of_ok (through : (takeSteps registry catalog found first).2 = .ok between)
    (second : List Step) : takeSteps registry catalog found (first ++ second) =
      (first ++ (takeSteps registry catalog between second).1,
        (takeSteps registry catalog between second).2) := by
  induction first generalizing found with
  | nil => rw [← Except.ok.inj through]; rfl
  | cons step first ih =>
    cases step with
    | visit v => rw [List.cons_append, takeSteps_visit, ih through]; rfl
    | place p =>
      cases names : stage registry catalog found p with
      | error fault =>
        rw [takeSteps_refused names] at through
        exact nomatch through
      | ok staged =>
        rw [takeSteps_place names] at through
        rw [List.cons_append, takeSteps_place names, ih through]
        rfl

theorem takeSteps_append_of_error
    (failed : (takeSteps registry catalog found first).2 = .error fault) (second : List Step) :
    takeSteps registry catalog found (first ++ second) =
      takeSteps registry catalog found first := by
  induction first generalizing found with
  | nil => exact nomatch failed
  | cons step first ih =>
    cases step with
    | visit v => rw [List.cons_append, takeSteps_visit, ih failed, takeSteps_visit]
    | place p =>
      cases names : stage registry catalog found p with
      | error fault => rw [List.cons_append, takeSteps_refused names, takeSteps_refused names]
      | ok staged =>
        rw [takeSteps_place names] at failed
        rw [List.cons_append, takeSteps_place names, ih failed, takeSteps_place names]

/-! ### The walk with an agenda -/

/-- A visit is fresh as long as it is not discovered. -/
def Tells (fresh : List Visit) (found : Discovery) (v : Visit) : Prop := v ∈ fresh ↔ v ∉ found.seen

theorem Tells.discover {fresh : List Visit} {v : Visit} (tells : Tells fresh found v) (w : Visit) :
    Tells (Catalog.without fresh w) (found.discover w) v := by
  unfold Tells at tells ⊢
  rw [Catalog.mem_without, tells, Discovery.discover, List.mem_cons, not_or, and_comm]

theorem Tells.stage {fresh : List Visit} {v : Visit} (tells : Tells fresh found v) {p : Placement}
    (names : stage registry catalog found p = .ok between) : Tells fresh between v := by
  unfold Tells at tells ⊢
  rw [tells, seen_stage names]

theorem Tells.takeSteps {fresh : List Visit} {v : Visit} (tells : Tells fresh found v)
    {steps : List Step} (through : (takeSteps registry catalog found steps).2 = .ok between) :
    Tells (Catalog.unvisited fresh steps) between v := by
  unfold Tells at tells ⊢
  rw [Catalog.mem_unvisited, tells, (takeSteps_ok through).2, List.mem_append, List.mem_reverse,
    Catalog.mem_visits, not_or, and_comm]

theorem length_unvisited_le (fresh : List Visit) (steps : List Step) :
    (Catalog.unvisited fresh steps).length ≤ fresh.length :=
  List.length_filter_le _ _

/-- The recursion takes the steps of the walk with an agenda, up to the first that fails. The walk
puts the inner steps in front of the rest of the agenda; the recursion comes back to the rest with
what the inner steps discovered, which is then no longer fresh. -/
theorem discovers_takeSteps (found : Discovery) (fresh : List Visit) (agenda : List Step)
    (tells : ∀ v, .visit v ∈ agenda ∨ (∃ d, v ∈ catalog.visitsBelow d) → Tells fresh found v) :
    Discovers registry catalog found agenda
      (takeSteps registry catalog found (catalog.walkAgenda fresh agenda)).1
      (takeSteps registry catalog found (catalog.walkAgenda fresh agenda)).2 := by
  match agenda with
  | [] =>
    rw [Catalog.walkAgenda]
    exact .done found
  | .visit v :: agenda =>
    rw [Catalog.walkAgenda]
    split <;> rename_i unseen
    · have new : v ∉ found.seen := (tells v (.inl List.mem_cons_self)).mp unseen
      have inner := discovers_takeSteps (found.discover v) (Catalog.without fresh v)
        ((catalog.placementsOf v).map .place) fun w source =>
          (tells w (.inr (source.resolve_left (by simp)))).discover v
      rw [Catalog.walkAgenda_append, takeSteps_visit]
      cases went : (takeSteps registry catalog (found.discover v) (catalog.walkAgenda
          (Catalog.without fresh v) ((catalog.placementsOf v).map .place))).2 with
      | error fault =>
        rw [takeSteps_append_of_error went, went]
        exact .failVisit new (went ▸ inner)
      | ok between =>
        rw [takeSteps_append_of_ok went]
        rw [went, (takeSteps_ok went).1] at inner
        exact .visit new inner (discovers_takeSteps between _ agenda fun w source =>
          ((tells w (source.imp_left (List.mem_cons_of_mem _))).discover v).takeSteps went)
    · have known : v ∈ found.seen := by
        by_contra new
        exact unseen ((tells v (.inl List.mem_cons_self)).mpr new)
      exact .pass known (discovers_takeSteps found fresh agenda fun w source =>
        tells w (source.imp_left (List.mem_cons_of_mem _)))
  | .place p :: agenda =>
    rw [Catalog.walkAgenda]
    cases names : stage registry catalog found p with
    | error fault =>
      rw [takeSteps_refused names]
      exact .refuse names
    | ok staged =>
      have inner := discovers_takeSteps staged fresh ((catalog.visitsBelow p.definition).map .visit)
        fun w source => by
          refine (tells w (.inr ?_)).stage names
          rcases source with member | below
          · exact ⟨p.definition, by simpa using member⟩
          · exact below
      rw [Catalog.walkAgenda_append, takeSteps_place names]
      cases went : (takeSteps registry catalog staged
          (catalog.walkAgenda fresh ((catalog.visitsBelow p.definition).map .visit))).2 with
      | error fault =>
        rw [takeSteps_append_of_error went, went]
        exact .failPlace names (went ▸ inner)
      | ok between =>
        rw [takeSteps_append_of_ok went]
        rw [went, (takeSteps_ok went).1] at inner
        exact .place names inner (discovers_takeSteps between _ agenda fun w source =>
          ((tells w (source.imp_left (List.mem_cons_of_mem _))).stage names).takeSteps went)
termination_by (fresh.length, catalog.totalWeight agenda)
decreasing_by
  · refine Prod.Lex.right _ ?_
    simp [Catalog.totalWeight, Catalog.weight]
  · exact Prod.Lex.left _ _ (Catalog.length_without_lt (by assumption))
  · exact Prod.Lex.left _ _ (Nat.lt_of_le_of_lt (length_unvisited_le _ _)
      (Catalog.length_without_lt (by assumption)))
  · refine Prod.Lex.right _ ?_
    rw [← List.append_nil (List.map _ _), Catalog.totalWeight_visits]
    simp only [Catalog.totalWeight, Catalog.weight]
    omega
  · refine Prod.Lex.right' _ (length_unvisited_le _ _) ?_
    simp only [Catalog.totalWeight, Catalog.weight]
    omega

theorem discovers_walk (registry : Registry) (catalog : Catalog) (found : Discovery)
    (start : Visit) : Discovers registry catalog found [.visit start]
      (takeSteps registry catalog found (catalog.walk found.seen start)).1
      (takeSteps registry catalog found (catalog.walk found.seen start)).2 := by
  refine discovers_takeSteps found _ _ fun v source => ?_
  have known : v = start ∨ v ∈ catalog.allVisits := by
    rcases source with member | ⟨d, below⟩
    · exact .inl (Step.visit.inj (List.mem_singleton.mp member))
    · exact .inr (Catalog.mem_allVisits_of_visitsBelow below)
  exact Catalog.mem_fresh.trans (and_iff_right known)

/-! ### Staging along the way -/

theorem perform_of_stage_ok {p : Placement} (names : stage registry catalog found p = .ok between) :
    ((catalog.claims p).foldlM (stageClaim catalog) found.staging).perform
      { registry, records := found.records } =
        (.ok between.staging, { registry, records := between.records }) := by
  have same : (((catalog.claims p).foldlM (stageClaim catalog) found.staging).perform
      { registry, records := found.records }).2.registry = registry := reads_stageAll _ _ _
  unfold stage at names
  split at names
  · rename_i staging desk performed
    rw [performed] at same ⊢
    rw [← Except.ok.inj names]
    obtain ⟨_, records⟩ := desk
    obtain rfl : _ = registry := same
    rfl
  · exact nomatch names

theorem perform_of_stage_error {p : Placement}
    (names : stage registry catalog found p = .error fault) :
    (((catalog.claims p).foldlM (stageClaim catalog) found.staging).perform
      { registry, records := found.records }).1 = .error fault := by
  unfold stage at names
  split at names
  · exact nomatch names
  · rename_i performed
    rw [performed, Except.error.inj names]

theorem strict_of_takeSteps_error {steps : List Step}
    (failed : (takeSteps registry catalog found steps).2 = .error fault) :
    registry.settings.strictAliases = true := by
  induction steps generalizing found with
  | nil => exact nomatch failed
  | cons step steps ih =>
    cases step with
    | visit v => exact ih failed
    | place p =>
      cases names : stage registry catalog found p with
      | ok staged =>
        rw [takeSteps_place names] at failed
        exact ih failed
      | error fault =>
        have refused := perform_of_stage_error names
        rw [perform_stageAll] at refused
        by_contra lenient
        rw [Bool.not_eq_true] at lenient
        simp [lenient] at refused

theorem perform_takeSteps (found : Discovery) (steps : List Step) :
    ((((Catalog.placements steps).flatMap catalog.claims).foldlM (stageClaim catalog)
        found.staging).perform { registry, records := found.records }).1 =
      (takeSteps registry catalog found steps).2.map (·.staging) := by
  induction steps generalizing found with
  | nil => rfl
  | cons step steps ih =>
    cases step with
    | visit v => exact ih (found.discover v)
    | place p =>
      rw [Catalog.placements_place, List.flatMap_cons, List.foldlM_append, Registering.perform_bind]
      cases names : stage registry catalog found p with
      | error fault =>
        rw [takeSteps_refused names]
        have refused := perform_of_stage_error names
        split
        · rename_i performed
          rw [performed] at refused
          exact nomatch refused
        · rename_i performed
          rw [performed] at refused
          exact congrArg _ (Except.error.inj refused)
      | ok staged =>
        rw [takeSteps_place names, perform_of_stage_ok names]
        exact ih staged

theorem outcome_attempt_eq {group : GroupId} {parent : Parent} (unfrozen : registry.frozen = false)
    (valid : registry.isParent catalog parent = true) :
    (registry.attempt catalog (.group group) parent).outcome =
      (takeSteps registry catalog {} (catalog.walk [] ⟨parent, group⟩)).2.map
        fun _ => catalog.members group := by
  have staged : (((catalog.claimed ⟨parent, group⟩).foldlM (stageClaim catalog) ∅).perform
      { registry }).1 =
        (takeSteps registry catalog {} (catalog.walk [] ⟨parent, group⟩)).2.map (·.staging) :=
    perform_takeSteps {} _
  rw [perform_stageAll] at staged
  rw [attempt_group registry unfrozen valid]
  generalize (takeSteps registry catalog {} (catalog.walk [] ⟨parent, group⟩)).2 = ended at staged ⊢
  cases ended <;> cases strict : registry.settings.strictAliases <;>
    cases met : registry.rivals ∅ (catalog.claimed ⟨parent, group⟩) <;>
    simp_all [Except.map]

open Catalog in
/-- A discovery ends, in one way, on every catalog and whatever was discovered, staged or registered
before. It goes through no group twice under one parent and into none that it cannot reach without
what was discovered before. Unless strict names refuse a name in between it goes through all of
these, and once through what each of them declares. If the group was discovered before it does
nothing. A registration discovers from nothing and ends as its discovery does. -/
theorem discovery_ends (registry : Registry) (catalog : Catalog) (found : Discovery)
    (start : Visit) :
    ∃ made ended, Discovers registry catalog found [.visit start] made ended ∧
      (∀ made' ended', Discovers registry catalog found [.visit start] made' ended' →
        made' = made ∧ ended' = ended) ∧
      (visits made).Nodup ∧ (visits made).length ≤ catalog.allVisits.length + 1 ∧
      (∀ v ∈ visits made, catalog.Meets found.seen start v) ∧
      (∀ found', ended = .ok found' → made = catalog.walk found.seen start ∧
        (∀ v, v ∈ visits made ↔ catalog.Meets found.seen start v) ∧
        (placements made).Perm ((visits made).flatMap catalog.placementsOf) ∧
        found'.seen = (visits made).reverse ++ found.seen) ∧
      (∀ fault, ended = .error fault → registry.settings.strictAliases = true ∧
        made <+: catalog.walk found.seen start) ∧
      (start ∈ found.seen → made = [] ∧ ended = .ok found) ∧
      (found = {} → registry.frozen = false → registry.isParent catalog start.parent = true →
        (registry.attempt catalog (.group start.group) start.parent).outcome =
          ended.map fun _ => catalog.members start.group) := by
  have early : (takeSteps registry catalog found (catalog.walk found.seen start)).1 <+:
      catalog.walk found.seen start := takeSteps_prefix _ _
  have some := early.sublist.filterMap Step.visit?
  refine ⟨_, _, discovers_walk registry catalog found start, fun made' ended' other =>
      other.unique (discovers_walk registry catalog found start),
    (nodup_visits_walkAgenda _ _).sublist some,
    Nat.le_trans some.length_le (length_visits_walk_le _ _),
    fun v visited => ?_, fun found' through => ?_, fun fault failed =>
      ⟨strict_of_takeSteps_error failed, early⟩, fun known => ?_, ?_⟩
  · exact visit_mem_walk.mp (early.subset (mem_visits.mp visited))
  · obtain ⟨all, seen⟩ := takeSteps_ok through
    rw [all]
    refine ⟨rfl, fun v => mem_visits.trans visit_mem_walk, ?_, seen⟩
    exact placements_walkAgenda _ [.visit start]
  · rw [walk_of_seen known]
    exact ⟨rfl, rfl⟩
  · rintro rfl unfrozen valid
    exact outcome_attempt_eq unfrozen valid

/-- The group with a command that leads back to it is gone through twice, the second time under that
command. -/
theorem discovery_ends_leadingBack : ∃ made found,
    Discovers {} leadingBack {} [.visit ⟨none, ⟨0⟩⟩] made (.ok found) ∧
      ∀ v, v ∈ Catalog.visits made ↔ v = ⟨none, ⟨0⟩⟩ ∨ v = ⟨some ⟨0⟩, ⟨0⟩⟩ := by
  obtain ⟨made, ended, discovers, -, -, -, -, through, failed, -⟩ :=
    discovery_ends {} leadingBack {} ⟨none, ⟨0⟩⟩
  cases ended with
  | error fault => exact nomatch (failed fault rfl).1
  | ok found =>
    refine ⟨made, found, discovers, fun v => ((through found rfl).2.1 v).trans ?_⟩
    have back : leadingBack.Reach ⟨0⟩ (some ⟨0⟩) := .nested .root (by decide) rfl
    refine Catalog.meets_iff.trans (or_congr_right ⟨?_, ?_⟩)
    · rintro ⟨d, parent, reach, nested⟩
      -- only the first command is nested
      have member : d = ⟨0⟩ ∨ d = ⟨1⟩ := by
        cases reach with
        | @nested p _ _ declared _ =>
          cases p with
          | none => exact mem_members_leadingBack declared
          | some e =>
            obtain ⟨g, -, listed⟩ := Catalog.mem_declaredUnder.mp declared
            exact mem_members_leadingBack listed
      rcases member with rfl | rfl
      · obtain ⟨q, g⟩ := v
        obtain rfl : q = some ⟨0⟩ := parent
        obtain rfl : g = ⟨0⟩ := List.mem_singleton.mp nested
        rfl
      · exact absurd nested List.not_mem_nil
    · rintro rfl
      exact ⟨⟨0⟩, rfl, back, by decide⟩

end Registry
end CommandTree
