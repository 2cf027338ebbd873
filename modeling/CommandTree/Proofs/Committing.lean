import CommandTree.Proofs.Placing
import CommandTree.Proofs.Registering

namespace CommandTree

namespace Staging

theorem keys_claimAll (staging : Staging) (claims : List Claim) :
    (claims.foldl claim staging).keys = (claims.map (·.parent)).foldl addNew staging.keys := by
  induction claims generalizing staging with
  | nil => rfl
  | cons c claims ih =>
    have first : (staging.claim c).keys = addNew staging.keys c.parent := Ordered.keys_put _ _ _
    rw [List.foldl_cons, ih, first]
    rfl

theorem mem_keys_of {claims : List Claim} {q : Parent} :
    q ∈ (of claims).keys ↔ ∃ c ∈ claims, c.parent = q := by
  rw [of, keys_claimAll, mem_foldl_addNew, List.mem_map]
  exact ⟨fun h => h.resolve_left List.not_mem_nil, .inr⟩

end Staging

namespace Catalog
variable {catalog : Catalog}

def heading (catalog : Catalog) (d : DefId) : String × Value :=
  (Text.lower (catalog.name d), (catalog.definition d).synopsis)

/-- The nested commands among some placements, as parents. -/
def housed (catalog : Catalog) (placements : List Placement) : List Parent :=
  (placements.filter fun p => (catalog.definition p.definition).isNested).map fun p =>
    some p.definition

theorem housed_append (catalog : Catalog) (first second : List Placement) :
    catalog.housed (first ++ second) = catalog.housed first ++ catalog.housed second := by
  simp [housed]

theorem mem_housed {placements : List Placement} {q : Parent} :
    q ∈ catalog.housed placements ↔ ∃ p ∈ placements,
      (catalog.definition p.definition).isNested = true ∧ q = some p.definition := by
  simp only [housed, List.mem_map, List.mem_filter, and_assoc, eq_comm]

end Catalog

namespace Registry
variable {catalog : Catalog}

/-! ### Entering and filing -/

theorem enter_eq (registry : Registry) (p : Placement) :
    enter catalog registry p = { registry with
      definitions := addNew registry.definitions p.definition
      nodes := if (catalog.definition p.definition).isNested then
          registry.nodes.ensure (some p.definition) ∅ else registry.nodes
      roots := (rootsAmong [p]).foldl addNew registry.roots
      synopses := registry.synopses.putAll ((rootsAmong [p]).map catalog.heading) } := by
  obtain ⟨parent, d⟩ := p
  unfold enter
  cases parent <;> by_cases nested : (catalog.definition d).isNested = true <;> simp [nested] <;>
    exact ⟨rfl, rfl⟩

theorem enterAll_eq (placements : List Placement) (registry : Registry) :
    placements.foldl (enter catalog) registry = { registry with
      definitions := (placements.map (·.definition)).foldl addNew registry.definitions
      nodes := (placements.foldl (enter catalog) registry).nodes
      roots := (rootsAmong placements).foldl addNew registry.roots
      synopses := registry.synopses.putAll ((rootsAmong placements).map catalog.heading) } := by
  induction placements generalizing registry with
  | nil => rfl
  | cons p rest ih =>
    have roots : rootsAmong (p :: rest) = rootsAmong [p] ++ rootsAmong rest :=
      rootsAmong_append [p] rest
    rw [List.foldl_cons, ih, enter_eq, roots, List.map_append, List.foldl_append]
    simp only [Ordered.putAll, List.foldl_append, List.map_cons, List.foldl_cons]

theorem keys_enterAll (placements : List Placement) (registry : Registry) :
    (placements.foldl (enter catalog) registry).nodes.keys =
      (catalog.housed placements).foldl addNew registry.nodes.keys := by
  induction placements generalizing registry with
  | nil => rfl
  | cons p rest ih =>
    have first : (enter catalog registry p).nodes.keys =
        (catalog.housed [p]).foldl addNew registry.nodes.keys := by
      rw [enter_eq]
      by_cases nested : (catalog.definition p.definition).isNested = true
      · simp [Catalog.housed, nested, Ordered.keys_ensure]
      · simp [Catalog.housed, nested]
    have split : catalog.housed (p :: rest) = catalog.housed [p] ++ catalog.housed rest :=
      catalog.housed_append [p] rest
    rw [List.foldl_cons, ih, first, split, List.foldl_append]

theorem fileAll_eq (entries : List (Parent × List (String × DefId))) (registry : Registry) :
    ∃ nodes : Ordered Parent Node,
      entries.foldl (fun r (parent, claims) => r.fileUnder parent claims) registry =
        { registry with nodes } ∧
      nodes.keys = (entries.map (·.1)).foldl addNew registry.nodes.keys := by
  induction entries generalizing registry with
  | nil => exact ⟨registry.nodes, rfl, rfl⟩
  | cons entry rest ih =>
    obtain ⟨parent, claims⟩ := entry
    obtain ⟨nodes, filed, keys⟩ := ih (registry.fileUnder parent claims)
    have here : (registry.fileUnder parent claims).nodes.keys = addNew registry.nodes.keys parent :=
      Ordered.keys_put _ _ _
    rw [here] at keys
    exact ⟨nodes, filed, keys⟩

/-! ### Nodes that are there -/

theorem get?_nodes_of_mem {registry : Registry} {q : Parent} (member : q ∈ registry.nodes.keys) :
    registry.nodes.get? q = some (registry.node q) := by
  obtain ⟨there, found⟩ := Ordered.mem_keys_iff.mp member
  rw [Registry.node, found, Option.getD_some]

/-- A parent without a node reads like one with an empty node, so what is there has to be told from
what is read. -/
theorem get?_nodes_congr {one other : Registry} {q : Parent}
    (keys : q ∈ one.nodes.keys ↔ q ∈ other.nodes.keys) (same : one.node q = other.node q) :
    one.nodes.get? q = other.nodes.get? q := by
  by_cases member : q ∈ one.nodes.keys
  · rw [get?_nodes_of_mem member, get?_nodes_of_mem (keys.mp member), same]
  · have absent : ∀ m : Ordered Parent Node, q ∉ m.keys → m.get? q = none := fun _ =>
      Ordered.find?_eq_none_iff.mpr
    rw [absent _ member, absent _ (mt keys.mpr member)]

/-! ### Commits -/

theorem commit_eq (registry : Registry) (placements : List Placement) (staging : Staging) :
    registry.commit catalog placements staging = { registry with
      definitions := (placements.map (·.definition)).foldl addNew registry.definitions
      nodes := (registry.commit catalog placements staging).nodes
      roots := (rootsAmong placements).foldl addNew registry.roots
      synopses := registry.synopses.putAll ((rootsAmong placements).map catalog.heading) } := by
  obtain ⟨nodes, filed, -⟩ := fileAll_eq staging.entries registry
  unfold commit
  rw [filed, enterAll_eq]

def committed (registry : Registry) (catalog : Catalog) (start : Visit) : Registry :=
  registry.commit catalog (catalog.placed start) (Staging.of (catalog.claimed start))

theorem attempt_induction {P : Registry → Prop} (registry : Registry) (provider : Provider)
    (parent : Parent) (before : P registry)
    (commits : ∀ group, provider = .group group → registry.isParent catalog parent = true →
      (registry.settings.strictAliases = true →
        registry.rivals ∅ (catalog.claimed ⟨parent, group⟩) = []) →
      P (registry.committed catalog ⟨parent, group⟩)) :
    P (registry.attempt catalog provider parent).registry := by
  cases outcome : (registry.attempt catalog provider parent).outcome with
  | error fault =>
    rw [attempt_atomic registry outcome]
    exact before
  | ok ds =>
    obtain ⟨group, same, -, valid, -, calm, grown⟩ := attempt_ok registry outcome
    have committed : (registry.attempt catalog provider parent).registry =
        registry.committed catalog ⟨parent, group⟩ := grown
    rw [committed]
    exact commits group same valid calm

theorem attempt_of_lenient {registry : Registry} {group : GroupId} {parent : Parent}
    (lenient : registry.settings.strictAliases = false) (unfrozen : registry.frozen = false)
    (valid : registry.isParent catalog parent = true) :
    (registry.attempt catalog (.group group) parent).outcome = .ok (catalog.members group) ∧
      (registry.attempt catalog (.group group) parent).registry =
        registry.committed catalog ⟨parent, group⟩ := by
  rw [attempt_group registry unfrozen valid, lenient]
  exact ⟨rfl, rfl⟩

theorem register_committed (registry : Registry) {group : GroupId} {parent : Parent}
    {registration : Registration}
    (done : registry.register catalog (.group group) parent = .ok registration) :
    registration.registry = registry.committed catalog ⟨parent, group⟩ := by
  obtain ⟨outcome, grown⟩ := register_ok registry done
  obtain ⟨_, same, -, -, -, -, committed⟩ := attempt_ok registry outcome
  obtain rfl := Provider.group.inj same
  exact grown.symm.trans committed

section Committed
variable (registry : Registry) (start : Visit)

theorem settings_committed : (registry.committed catalog start).settings = registry.settings := by
  rw [committed, commit_eq]

theorem frozen_committed : (registry.committed catalog start).frozen = registry.frozen := by
  rw [committed, commit_eq]

theorem roots_committed : (registry.committed catalog start).roots =
    (rootsAmong (catalog.placed start)).foldl addNew registry.roots := by
  rw [committed, commit_eq]

theorem synopses_committed : (registry.committed catalog start).synopses =
    registry.synopses.putAll ((rootsAmong (catalog.placed start)).map catalog.heading) := by
  rw [committed, commit_eq]

theorem definitions_committed : (registry.committed catalog start).definitions =
    ((catalog.placed start).map (·.definition)).foldl addNew registry.definitions := by
  rw [committed, commit_eq]

theorem mem_definitions_committed {d : DefId} :
    d ∈ (registry.committed catalog start).definitions ↔
      d ∈ registry.definitions ∨ ∃ p ∈ catalog.placed start, p.definition = d := by
  rw [definitions_committed, mem_foldl_addNew, List.mem_map]

theorem keys_committed : (registry.committed catalog start).nodes.keys =
    (catalog.housed (catalog.placed start)).foldl addNew
      ((Staging.of (catalog.claimed start)).keys.foldl addNew registry.nodes.keys) := by
  obtain ⟨nodes, filed, keys⟩ := fileAll_eq (Staging.of (catalog.claimed start)).entries registry
  rw [committed, commit, filed, keys_enterAll, keys]
  rfl

theorem node_committed (q : Parent) :
    (registry.committed catalog start).node q =
      (registry.node q).putAll ((Staging.of (catalog.claimed start)).claimsUnder q) :=
  node_commit _ _ _ (Staging.nodup_keys_of _) q

theorem get?_committed (q : Parent) (key : String) :
    ((registry.committed catalog start).node q).get? key =
      (Ordered.lastOf? key ((Staging.of (catalog.claimed start)).claimsUnder q)).or
        ((registry.node q).get? key) := by
  rw [node_committed, Ordered.get?_putAll]

theorem get?_committed_eq (q : Parent) (key : String) :
    ((registry.committed catalog start).node q).get? key =
      (catalog.lastCalled key (placedUnder q (catalog.placed start))).or
        ((registry.node q).get? key) := by
  rw [get?_committed, Catalog.claimsUnder_claimed, Catalog.lastOf?_flatMap_filings]

variable {registry start}

theorem claimed_of_get?_committed {q : Parent} {key : String} {d : DefId}
    (found : ((registry.committed catalog start).node q).get? key = some d) :
    (registry.node q).get? key = some d ∨ ⟨q, key, d⟩ ∈ catalog.claimed start := by
  rw [get?_committed_eq, Option.or_eq_some_iff] at found
  obtain last | ⟨-, before⟩ := found
  · obtain ⟨member, goes⟩ := Catalog.mem_of_lastCalled last
    exact .inr (Catalog.mem_claimed_iff_placed.mpr ⟨mem_placedUnder.mp member, goes⟩)
  · exact .inl before

theorem mem_keys_committed {q : Parent} :
    q ∈ (registry.committed catalog start).nodes.keys ↔
      (q ∈ registry.nodes.keys ∨ ∃ c ∈ catalog.claimed start, c.parent = q) ∨
        ∃ p ∈ catalog.placed start,
          (catalog.definition p.definition).isNested = true ∧ q = some p.definition := by
  rw [keys_committed, mem_foldl_addNew, mem_foldl_addNew, Staging.mem_keys_of, Catalog.mem_housed]

theorem nodup_keys_committed (once : registry.nodes.keys.Nodup) :
    (registry.committed catalog start).nodes.keys.Nodup := by
  rw [keys_committed]
  exact nodup_foldl_addNew _ (nodup_foldl_addNew _ once)

end Committed

/-! ### Attempts -/

theorem settings_attempt (registry : Registry) (provider : Provider) (parent : Parent) :
    (registry.attempt catalog provider parent).registry.settings = registry.settings :=
  attempt_induction (P := (·.settings = registry.settings)) registry provider parent rfl
    fun _ _ _ _ => settings_committed ..

theorem frozen_attempt (registry : Registry) (provider : Provider) (parent : Parent) :
    (registry.attempt catalog provider parent).registry.frozen = registry.frozen :=
  attempt_induction (P := (·.frozen = registry.frozen)) registry provider parent rfl
    fun _ _ _ _ => frozen_committed ..

end Registry
end CommandTree
