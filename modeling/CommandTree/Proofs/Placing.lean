import Mathlib.Data.List.Induction
import CommandTree.Proofs.Staging

/-!
What is filed under one parent comes in the order in which the walk places definitions there, and
while the walk meets no group under a parent it places nothing new there.
-/

namespace CommandTree

def placedUnder (q : Parent) (placements : List Placement) : List DefId :=
  (placements.filter (·.parent = q)).map (·.definition)

theorem mem_placedUnder {q : Parent} {placements : List Placement} {d : DefId} :
    d ∈ placedUnder q placements ↔ ⟨q, d⟩ ∈ placements := by
  simp only [placedUnder, List.mem_map, List.mem_filter, decide_eq_true_eq]
  constructor
  · rintro ⟨⟨_, _⟩, ⟨member, rfl⟩, rfl⟩
    exact member
  · exact fun member => ⟨_, ⟨member, rfl⟩, rfl⟩

theorem placedUnder_append (q : Parent) (first second : List Placement) :
    placedUnder q (first ++ second) = placedUnder q first ++ placedUnder q second := by
  simp [placedUnder]

theorem placedUnder_cons (q : Parent) (p : Placement) (rest : List Placement) :
    placedUnder q (p :: rest) =
      (if p.parent = q then [p.definition] else []) ++ placedUnder q rest := by
  by_cases here : p.parent = q <;> simp [placedUnder, here]

def rootsAmong (placements : List Placement) : List DefId :=
  (placements.filter (·.parent = none)).map (·.definition)

theorem mem_rootsAmong {placements : List Placement} {d : DefId} :
    d ∈ rootsAmong placements ↔ ⟨none, d⟩ ∈ placements :=
  mem_placedUnder

theorem rootsAmong_append (first second : List Placement) :
    rootsAmong (first ++ second) = rootsAmong first ++ rootsAmong second :=
  placedUnder_append none first second

namespace Catalog
variable {catalog : Catalog} {fresh : List Visit} {agenda : List Step} {v : Visit} {q : Parent}

theorem placedUnder_placementsOf (q : Parent) (v : Visit) :
    placedUnder q (catalog.placementsOf v) =
      if v.parent = q then catalog.members v.group else [] := by
  unfold placedUnder placementsOf
  by_cases here : v.parent = q
  · have all : ∀ p ∈ (catalog.members v.group).map (Placement.mk v.parent), p.parent = q := by
      simp [here]
    rw [if_pos here, List.filter_eq_self.mpr fun p member => decide_eq_true (all p member),
      List.map_map]
    exact List.map_id _
  · simp [here]

/-! ### The placements of a walk -/

def placements (steps : List Step) : List Placement := steps.filterMap Step.placement?

theorem placements_visit (v : Visit) (steps : List Step) :
    placements (.visit v :: steps) = placements steps := rfl

theorem placements_place (p : Placement) (steps : List Step) :
    placements (.place p :: steps) = p :: placements steps := rfl

theorem placements_append (first second : List Step) :
    placements (first ++ second) = placements first ++ placements second :=
  List.filterMap_append

theorem placements_places (ps : List Placement) (steps : List Step) :
    placements (ps.map .place ++ steps) = ps ++ placements steps := by
  induction ps with
  | nil => rfl
  | cons p ps ih => exact congrArg (p :: ·) ih

theorem placements_visits (visits : List Visit) : placements (visits.map .visit) = [] := by
  simp [placements, Step.placement?]

theorem mem_placements {steps : List Step} {p : Placement} :
    p ∈ placements steps ↔ .place p ∈ steps := by
  simp only [placements, List.mem_filterMap]
  constructor
  · rintro ⟨step, member, placed⟩
    cases step with
    | visit v => exact nomatch placed
    | place q => exact Option.some.inj placed ▸ member
  · exact fun member => ⟨_, member, rfl⟩

theorem of_visit_mem_walkAgenda (visited : .visit v ∈ catalog.walkAgenda fresh agenda) :
    v ∈ fresh ∧ (.visit v ∈ agenda ∨ ∃ d, v ∈ catalog.visitsBelow d) := by
  fun_induction walkAgenda catalog fresh agenda with
  | case1 => exact absurd visited List.not_mem_nil
  | case2 fresh u agenda unseen ih =>
    rcases List.mem_cons.mp visited with same | later
    · obtain rfl := Step.visit.inj same
      exact ⟨unseen, .inl List.mem_cons_self⟩
    · obtain ⟨unseen, source⟩ := ih later
      refine ⟨(mem_without.mp unseen).1, source.imp_left fun member => List.mem_cons_of_mem _ ?_⟩
      simpa using member
  | case3 fresh u agenda _ ih =>
    obtain ⟨unseen, source⟩ := ih visited
    exact ⟨unseen, source.imp_left (List.mem_cons_of_mem _)⟩
  | case4 fresh p agenda ih =>
    obtain ⟨unseen, source⟩ := ih ((List.mem_cons.mp visited).resolve_left (by simp))
    refine ⟨unseen, ?_⟩
    rcases source with member | below
    · rcases List.mem_append.mp member with new | old
      · obtain ⟨w, below, same⟩ := List.mem_map.mp new
        obtain rfl := Step.visit.inj same
        exact .inr ⟨p.definition, below⟩
      · exact .inl (List.mem_cons_of_mem _ old)
    · exact .inr below

theorem placedUnder_walkAgenda
    (absent : ∀ v, .visit v ∈ catalog.walkAgenda fresh agenda → v.parent ≠ q) :
    placedUnder q (placements (catalog.walkAgenda fresh agenda)) =
      placedUnder q (placements agenda) := by
  fun_induction walkAgenda catalog fresh agenda with
  | case1 => rfl
  | case2 fresh v agenda _ ih =>
    have elsewhere : placedUnder q (catalog.placementsOf v) = [] := by
      rw [placedUnder_placementsOf, if_neg (absent v List.mem_cons_self)]
    have rest := ih fun w visited => absent w (List.mem_cons_of_mem _ visited)
    rw [placements_places, placedUnder_append, elsewhere] at rest
    exact rest
  | case3 fresh v agenda _ ih => exact ih absent
  | case4 fresh p agenda ih =>
    have rest := ih fun w visited => absent w (List.mem_cons_of_mem _ visited)
    rw [placements_append, placements_visits, List.nil_append] at rest
    rw [placements_place, placements_place, placedUnder_cons, placedUnder_cons, rest]

theorem rootsAmong_placed (start : Visit) :
    rootsAmong (catalog.placed start) =
      if start.parent = none then catalog.members start.group else [] := by
  have unseen : start ∈ (start :: catalog.allVisits).filter (· ∉ []) := by simp
  have steps : catalog.placed start = placements (catalog.walk [] start) := rfl
  rw [steps, walk, walkAgenda, if_pos unseen, placements_visit]
  refine (placedUnder_walkAgenda fun v visited => ?_).trans ?_
  · obtain ⟨-, member | ⟨d, below⟩⟩ := of_visit_mem_walkAgenda visited
    · simp at member
    · obtain ⟨g, -, rfl⟩ := mem_visitsBelow.mp below
      exact Option.some_ne_none d
  · rw [placements_places, placedUnder_append, placedUnder_placementsOf]
    exact List.append_nil _

/-! ### What is filed under one parent -/

/-- One of the names of a definition is the key in lower case. -/
def GoesBy (catalog : Catalog) (d : DefId) (key : String) : Prop :=
  ∃ name ∈ (catalog.definition d).aliases, Text.lower name = key

instance (d : DefId) (key : String) : Decidable (catalog.GoesBy d key) :=
  inferInstanceAs (Decidable (∃ name ∈ (catalog.definition d).aliases, Text.lower name = key))

theorem goesBy_name (d : DefId) : catalog.GoesBy d (Text.lower (catalog.name d)) :=
  ⟨_, List.mem_cons_self, rfl⟩

def lastCalled (catalog : Catalog) (key : String) (ds : List DefId) : Option DefId :=
  (ds.filter (catalog.GoesBy · key)).getLast?

theorem lastCalled_append (key : String) (first second : List DefId) :
    catalog.lastCalled key (first ++ second) =
      (catalog.lastCalled key second).or (catalog.lastCalled key first) := by
  rw [lastCalled, List.filter_append, List.getLast?_append]
  rfl

theorem lastCalled_singleton (key : String) (d : DefId) :
    catalog.lastCalled key [d] = if catalog.GoesBy d key then some d else none := by
  by_cases goes : catalog.GoesBy d key <;> simp [lastCalled, goes]

theorem mem_of_lastCalled {key : String} {ds : List DefId} {d : DefId}
    (last : catalog.lastCalled key ds = some d) : d ∈ ds ∧ catalog.GoesBy d key := by
  obtain ⟨member, goes⟩ := List.mem_filter.mp (List.mem_of_getLast? last)
  exact ⟨member, of_decide_eq_true goes⟩

theorem lastCalled_eq_none_iff {key : String} {ds : List DefId} :
    catalog.lastCalled key ds = none ↔ ∀ d ∈ ds, ¬ catalog.GoesBy d key := by
  simp [lastCalled]

def filings (catalog : Catalog) (d : DefId) : List (String × DefId) :=
  (catalog.definition d).aliases.map fun name => (Text.lower name, d)

theorem mem_filings {d e : DefId} {key : String} :
    (key, e) ∈ catalog.filings d ↔ e = d ∧ catalog.GoesBy d key := by
  simp only [filings, GoesBy, List.mem_map, Prod.mk.injEq]
  constructor
  · rintro ⟨name, named, lower, rfl⟩
    exact ⟨rfl, name, named, lower⟩
  · rintro ⟨rfl, name, named, lower⟩
    exact ⟨name, named, lower, rfl⟩

theorem lastOf?_filings (key : String) (d : DefId) :
    Ordered.lastOf? key (catalog.filings d) = if catalog.GoesBy d key then some d else none := by
  cases last : Ordered.lastOf? key (catalog.filings d) with
  | none =>
    rw [if_neg fun goes => Ordered.lastOf?_eq_none_iff.mp last d (mem_filings.mpr ⟨rfl, goes⟩)]
  | some e =>
    obtain ⟨rfl, goes⟩ := mem_filings.mp (Ordered.mem_of_lastOf? last)
    rw [if_pos goes]

theorem lastOf?_flatMap_filings (key : String) (ds : List DefId) :
    Ordered.lastOf? key (ds.flatMap catalog.filings) = catalog.lastCalled key ds := by
  induction ds using List.reverseRecOn with
  | nil => rfl
  | append_singleton ds d ih =>
    rw [List.flatMap_append, List.flatMap_singleton, Ordered.lastOf?_append, lastOf?_filings, ih,
      lastCalled_append, lastCalled_singleton]

theorem claimsUnder_claimed (start : Visit) (q : Parent) :
    (Staging.of (catalog.claimed start)).claimsUnder q =
      (placedUnder q (catalog.placed start)).flatMap catalog.filings := by
  rw [Staging.claimsUnder_of, claimed]
  induction catalog.placed start with
  | nil => rfl
  | cons p rest ih =>
    rw [List.flatMap_cons, List.filter_append, List.map_append, ih, placedUnder_cons,
      List.flatMap_append]
    congr 1
    by_cases here : p.parent = q
    · have all : ∀ c ∈ catalog.claims p, decide (c.parent = q) = true := fun c member =>
        decide_eq_true ((mem_claims.mp member).1.trans here)
      rw [if_pos here, List.flatMap_singleton, List.filter_eq_self.mpr all, claims, List.map_map]
      rfl
    · have none : ∀ c ∈ catalog.claims p, ¬ decide (c.parent = q) = true := fun c member there =>
        here ((mem_claims.mp member).1.symm.trans (of_decide_eq_true there))
      rw [if_neg here, List.filter_eq_nil_iff.mpr none]
      rfl

end Catalog
end CommandTree
