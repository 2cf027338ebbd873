import Mathlib.Logic.Relation
import CommandTree.Proofs.Calling
import CommandTree.Proofs.Consistency
import CommandTree.Proofs.Noninterference

namespace CommandTree

namespace Catalog
variable {catalog : Catalog} {group : GroupId} {p q : Parent} {d : DefId}

/-- A parent is beyond a group at `p` when it is another and the group does not lead to it. -/
def Beyond (catalog : Catalog) (group : GroupId) (p q : Parent) : Prop :=
  q ≠ p ∧ ∀ d, q = some d → ¬ catalog.Reach group (some d)

theorem Beyond.not_placed (beyond : catalog.Beyond group p q) :
    ⟨q, d⟩ ∉ catalog.placed ⟨p, group⟩ := by
  intro placed
  obtain ⟨same, -⟩ | ⟨e, parent, reach, -⟩ := mem_placed_iff.mp placed
  · exact beyond.1 same
  · exact beyond.2 e parent reach

theorem reach_of_placed {placement : Placement} (placed : placement ∈ catalog.placed ⟨p, group⟩)
    (nested : (catalog.definition placement.definition).isNested = true) :
    catalog.Reach group (some placement.definition) := by
  obtain ⟨-, member⟩ | ⟨e, -, reach, member⟩ := mem_placed_iff.mp placed
  · exact .nested .root member nested
  · exact .nested reach member nested

end Catalog

namespace Registry
variable {registry : Registry} {catalog : Catalog} {group : GroupId} {p q : Parent}

/-! ### One commit -/

theorem keys_node_committed (start : Visit) (q : Parent) :
    (registry.node q).keys <+: ((registry.committed catalog start).node q).keys := by
  rw [node_committed, Ordered.keys_putAll]
  exact prefix_foldl_addNew _ _

theorem node_committed_of_beyond (beyond : catalog.Beyond group p q) :
    (registry.committed catalog ⟨p, group⟩).node q = registry.node q := by
  have nothing : placedUnder q (catalog.placed ⟨p, group⟩) = [] :=
    List.eq_nil_iff_forall_not_mem.mpr fun _ member =>
      beyond.not_placed (mem_placedUnder.mp member)
  rw [node_committed, Catalog.claimsUnder_claimed, nothing]
  rfl

theorem mem_keys_committed_of_beyond (beyond : catalog.Beyond group p q) :
    q ∈ (registry.committed catalog ⟨p, group⟩).nodes.keys ↔ q ∈ registry.nodes.keys := by
  rw [mem_keys_committed]
  constructor
  · rintro ((before | ⟨c, claimed, rfl⟩) | ⟨placement, placed, nested, rfl⟩)
    · exact before
    · exact absurd (Catalog.mem_claimed_iff_placed.mp claimed).1 beyond.not_placed
    · exact absurd (Catalog.reach_of_placed placed nested) (beyond.2 _ rfl)
  · exact fun before => .inl (.inl before)

theorem get?_nodes_committed (beyond : catalog.Beyond group p q) :
    (registry.committed catalog ⟨p, group⟩).nodes.get? q = registry.nodes.get? q :=
  get?_nodes_congr (mem_keys_committed_of_beyond beyond) (node_committed_of_beyond beyond)

theorem rootViews_committed (registry : Registry) (catalog : Catalog) (group : GroupId)
    (below : p ≠ none) :
    (registry.committed catalog ⟨p, group⟩).roots = registry.roots ∧
      (registry.committed catalog ⟨p, group⟩).synopses = registry.synopses := by
  have nothing : rootsAmong (catalog.placed ⟨p, group⟩) = [] := by
    rw [Catalog.rootsAmong_placed, if_neg below]
  rw [roots_committed, synopses_committed, nothing]
  exact ⟨rfl, rfl⟩

/-! ### After the freeze -/

theorem attempt_of_frozen (frozen : registry.frozen = true) (provider : Provider)
    (parent : Parent) :
    registry.attempt catalog provider parent = ⟨.error .frozen, registry, []⟩ := by
  have refused : (registerProvider catalog provider parent).perform { registry } =
      (.error .frozen, { registry }) := by
    unfold registerProvider
    rw [Registering.perform_bind, Registering.perform_get]
    simp [frozen]
  unfold attempt
  rw [refused]

theorem freeze_of_frozen (frozen : registry.frozen = true) : registry.freeze.1 = registry := by
  rw [freeze, if_pos frozen]

theorem Consistent.rootInfo_of_extends {grown : Catalog} (consistent : registry.Consistent catalog)
    (extended : catalog.Extends grown) : registry.rootInfo grown = registry.rootInfo catalog := by
  refine List.map_congr_left fun d member => ?_
  have kept := extended.definition d (consistent.declared d (consistent.rootsRegistered d member))
  rw [Catalog.info, Catalog.info, kept]

end Registry

namespace Host
variable {h next later : Host}

abbrev Leads : Host → Host → Prop := Relation.ReflTransGen Step

theorem step_of_frozen (frozen : h.registry.frozen = true) (step : Step h next) :
    next.registry = h.registry ∧ h.catalog.Extends next.catalog := by
  obtain ⟨catalog, grows, rfl⟩ | ⟨provider, parent, rfl⟩ | rfl := step_cases step
  · exact ⟨rfl, grows.extends⟩
  · rw [Registry.attempt_of_frozen frozen]
    exact ⟨rfl, Catalog.extends_refl _⟩
  · exact ⟨Registry.freeze_of_frozen frozen, Catalog.extends_refl _⟩

theorem leads_of_frozen (frozen : h.registry.frozen = true) (leads : Leads h later) :
    later.registry = h.registry ∧ h.catalog.Extends later.catalog := by
  induction leads with
  | refl => exact ⟨rfl, Catalog.extends_refl _⟩
  | tail _ step ih =>
    obtain ⟨same, extended⟩ := ih
    obtain ⟨kept, more⟩ := step_of_frozen (same ▸ frozen) step
    exact ⟨kept.trans same, extended.trans more⟩

end Host

namespace Dispatcher
variable {C : Type} {dispatcher : Dispatcher C} {grown : Catalog}

/-- Of a registered definition a larger catalog has nothing else to say. -/
def Kept (dispatcher : Dispatcher C) (d e : DefId) : Prop :=
  d = e ∧ d ∈ dispatcher.registry.definitions

theorem sameKeys_kept (consistent : dispatcher.registry.Consistent dispatcher.catalog)
    (q : Parent) :
    Ordered.SameKeys dispatcher.Kept (dispatcher.registry.node q) (dispatcher.registry.node q) := by
  refine List.forall₂_same.mpr fun entry member => ⟨rfl, rfl, ?_⟩
  have found := (Ordered.get?_eq_some_iff (consistent.namesOnce q)).mpr member
  exact (consistent.filed q _ _ found).1

theorem mirrors_grown (consistent : dispatcher.registry.Consistent dispatcher.catalog)
    (extended : dispatcher.catalog.Extends grown) (caller : C) :
    Mirrors dispatcher.Kept dispatcher { dispatcher with catalog := grown } caller := by
  have kept : ∀ {d e}, dispatcher.Kept d e →
      grown.definition e = dispatcher.catalog.definition d := by
    rintro d e ⟨rfl, member⟩
    exact extended.definition d (consistent.declared d member)
  exact {
    unique := ⟨fun _ _ _ first second => first.1.trans second.1.symm,
      fun _ _ _ first second => first.1.symm.trans second.1⟩
    aliases := fun twins => by rw [kept twins]
    permissions := fun twins => by rw [kept twins]
    use := fun {d e} twins _ => by
      rw [kept twins]
      refine ⟨rfl, rfl, rfl, ?_⟩
      cases (dispatcher.catalog.definition d).body with
      | leaf handler => exact .leaf handler
      | nested first others => exact .nested first first others others
    root := sameKeys_kept consistent none
    below := fun {d e} twins _ _ => by
      obtain ⟨rfl, -⟩ := twins
      exact sameKeys_kept consistent (some d)
    check := rfl
    settings := rfl
    phase := fun _ => rfl
    depth := rfl }

theorem execute_of_extends (consistent : dispatcher.registry.Consistent dispatcher.catalog)
    (extended : dispatcher.catalog.Extends grown) (tokens : List String) (caller : C)
    (extras : List Value) :
    { dispatcher with catalog := grown }.execute tokens caller extras =
      dispatcher.execute tokens caller extras := by
  -- A dispatch meets registered definitions only, and these say the same in the larger catalog.
  have mirrored : ∀ standing, Mirrors dispatcher.Kept dispatcher.anyone
      { dispatcher with catalog := grown }.anyone standing := fun standing =>
    @mirrors_grown _ dispatcher.anyone grown consistent extended standing
  obtain ⟨result, events⟩ : (dispatcher.execute tokens caller extras).Matches _ _
      ({ dispatcher with catalog := grown }.execute tokens caller extras) :=
    execute_matches (fun standing _ => mirrored standing) rfl rfl tokens extras
  have alike : ∀ event event', SameEvent dispatcher.Kept dispatcher
      { dispatcher with catalog := grown } event event' → event = event' := by
    rintro _ _ (_ | _ | ⟨_, _, ⟨rfl, -⟩, -, -⟩)
    · rfl
    · rfl
    · rfl
  have trace := List.forall₂_eq_eq_eq ▸ events.imp alike
  exact (congrArg₂ Run.mk result.eq trace).symm

end Dispatcher

/-! ### The frame of a registration -/

/-- A registration takes no name away and leaves the names of a parent in their order. A parent that
it was not asked for and that its group does not lead to keeps its node, and below a command the
root commands stay as they are. From the freeze on, whatever a host declares and attempts, every
registration is refused, the registry stays the same and shows the same root commands, and every
dispatch, which only reads, runs as it did at the freeze. -/
theorem Host.registration_frame {h : Host} (reachable : h.Reachable) :
    (∀ group p registration,
      h.registry.register h.catalog (.group group) p = .ok registration →
      (∀ q, (h.registry.node q).keys <+: (registration.registry.node q).keys) ∧
      (∀ q, q ≠ p → (∀ d, q = some d → ¬ h.catalog.Reach group (some d)) →
        registration.registry.nodes.get? q = h.registry.nodes.get? q ∧
        registration.registry.node q = h.registry.node q) ∧
      (p ≠ none → registration.registry.node none = h.registry.node none ∧
        registration.registry.synopses = h.registry.synopses ∧
        registration.registry.rootInfo h.catalog = h.registry.rootInfo h.catalog)) ∧
    ∀ later, Host.Leads { h with registry := h.registry.freeze.1 } later →
      later.registry = h.registry.freeze.1 ∧
      later.registry.rootInfo later.catalog = h.registry.freeze.1.rootInfo h.catalog ∧
      (∀ provider parent, later.registry.attempt later.catalog provider parent =
        ⟨.error .frozen, h.registry.freeze.1, []⟩) ∧
      ∀ (C : Type) (dispatcher : Dispatcher C) (tokens : List String) (caller : C)
        (extras : List Value),
        { dispatcher with catalog := later.catalog, registry := later.registry }.execute
            tokens caller extras =
          { dispatcher with catalog := h.catalog, registry := h.registry.freeze.1 }.execute
            tokens caller extras := by
  refine ⟨fun group p registration done => ?_, fun later leads => ?_⟩
  · have committed := Registry.register_committed h.registry done
    have kept : ∀ q, h.catalog.Beyond group p q →
        registration.registry.node q = h.registry.node q := fun q beyond => by
      rw [committed, Registry.node_committed_of_beyond beyond]
    refine ⟨fun q => ?_, fun q other beyond => ⟨?_, kept q ⟨other, beyond⟩⟩, fun below => ?_⟩
    · rw [committed]
      exact Registry.keys_node_committed _ q
    · rw [committed, Registry.get?_nodes_committed ⟨other, beyond⟩]
    · have root : h.catalog.Beyond group p none := ⟨below.symm, fun _ same => nomatch same⟩
      obtain ⟨roots, synopses⟩ :=
        Registry.rootViews_committed h.registry h.catalog group below
      rw [kept none root, committed, Registry.rootInfo, Registry.rootInfo, roots, synopses]
      exact ⟨rfl, rfl, rfl⟩
  · have frozen : h.registry.freeze.1.frozen = true := h.registry.frozen_freeze
    have consistent := (Host.reachable_consistent reachable).freeze
    obtain ⟨same, extended⟩ := Host.leads_of_frozen frozen leads
    change later.registry = h.registry.freeze.1 at same
    change h.catalog.Extends later.catalog at extended
    rw [same]
    refine ⟨rfl, consistent.rootInfo_of_extends extended,
      Registry.attempt_of_frozen frozen, fun C dispatcher tokens caller extras => ?_⟩
    let serving : Dispatcher C :=
      { dispatcher with catalog := h.catalog, registry := h.registry.freeze.1 }
    have served : serving.registry.Consistent serving.catalog := consistent
    exact Dispatcher.execute_of_extends served extended tokens caller extras

/-- The roundabout with its root command in the group of two commands as well. -/
def Host.returning : Host where
  catalog := roundaboutCatalog.add ⟨2⟩ ⟨0⟩
  registry := roundabout.registry

theorem Host.reachable_returning : returning.Reachable :=
  reachable_roundabout.step (.add _ ⟨2⟩ (by decide))

theorem Host.registration_frame_returning :
    ∃ registration, returning.registry.register returning.catalog (.group ⟨2⟩) (some ⟨0⟩) =
        .ok registration ∧
      (registration.registry.node (some ⟨0⟩)).keys = ["go", "again", "turn", "stop"] ∧
      ["go", "again"] <+: (registration.registry.node (some ⟨0⟩)).keys ∧
      registration.registry.node none = returning.registry.node none ∧
      ∃ later, Leads { returning with registry := returning.registry.freeze.1 } later ∧
        later.catalog.members ⟨0⟩ = [⟨0⟩, ⟨1⟩] ∧ later.registry.lookup "stop" none = none := by
  obtain ⟨frames, freezes⟩ := registration_frame reachable_returning
  have outcome : (returning.registry.attempt returning.catalog (.group ⟨2⟩) (some ⟨0⟩)).outcome =
      .ok (returning.catalog.members ⟨2⟩) := by decide +kernel
  obtain ⟨registration, done⟩ := Registry.register_of_outcome _ outcome
  obtain ⟨grows, -, below⟩ := frames ⟨2⟩ (some ⟨0⟩) registration done
  have before : (returning.registry.node (some ⟨0⟩)).keys = ["go", "again"] := by decide +kernel
  have after : (registration.registry.node (some ⟨0⟩)).keys = ["go", "again", "turn", "stop"] := by
    rw [Registry.register_committed _ done]
    decide +kernel
  have keys := grows (some ⟨0⟩)
  rw [before] at keys
  let later : Host :=
    ⟨returning.catalog.add ⟨0⟩ ⟨1⟩, returning.registry.freeze.1⟩
  have leads : Leads { returning with registry := returning.registry.freeze.1 } later :=
    .single (.add _ ⟨0⟩ (by decide))
  refine ⟨registration, done, after, keys, (below (Option.some_ne_none _)).1, later, leads, rfl, ?_⟩
  rw [(freezes later leads).1]
  decide +kernel

end CommandTree
