import CommandTree.Proofs.Strict

/-!
While names are strict no command ever loses a name, so that the three views of the root commands
grow in step.
-/

namespace CommandTree

namespace Registry
variable {registry : Registry} {catalog : Catalog} {start : Visit} {q : Parent}

theorem children_committed (calm : ¬ registry.Contested catalog start) (q : Parent) :
    (registry.committed catalog start).children q =
      (placedUnder q (catalog.placed start)).foldl addNew (registry.children q) := by
  let final := ((registry.committed catalog start).node q).get?
  have kept : ∀ key d, (registry.node q).get? key = some d → final key = some d :=
    fun _ _ found => (get?_committed_iff calm).mpr (.inl found)
  have entered : ∀ key d,
      (key, d) ∈ (placedUnder q (catalog.placed start)).flatMap catalog.filings →
        final key = some d := by
    intro key d filed
    rw [← Catalog.claimsUnder_claimed] at filed
    exact (get?_committed_iff calm).mpr (claimed_iff.mpr (.inr (Staging.mem_claimsUnder_of.mp filed)))
  have same : ∀ d, ∀ e ∈ (catalog.filings d).map (·.2), e = d := by
    intro d e member
    obtain ⟨⟨key, e⟩, filed, rfl⟩ := List.mem_map.mp member
    exact (Catalog.mem_filings.mp filed).1
  have given : ∀ d, (catalog.filings d).map (·.2) ≠ [] := fun d => List.cons_ne_nil _ _
  rw [children, node_committed, Catalog.claimsUnder_claimed,
    Ordered.distinct_values_putAll kept entered, List.map_flatMap, foldl_addNew_flatMap same given]
  rfl

/-- The children of the root are the roots, and so are the commands of the help entries. -/
structure Aligned (registry : Registry) (catalog : Catalog) : Prop where
  children : registry.children none = registry.roots
  headings : registry.synopses.keys = registry.roots.map fun d => Text.lower (catalog.name d)

theorem Resolves.name_injective (resolves : registry.Resolves catalog) :
    ∀ d ∈ registry.roots, ∀ e ∈ registry.roots,
      Text.lower (catalog.name d) = Text.lower (catalog.name e) → d = e := by
  intro d member e member' same
  have here := resolves d member (catalog.name d) List.mem_cons_self
  have there := resolves e member' (catalog.name e) List.mem_cons_self
  rw [same, there] at here
  exact (Option.some.inj here).symm

theorem Aligned.committed (aligned : registry.Aligned catalog) (resolves : registry.Resolves catalog)
    (calm : ¬ registry.Contested catalog start) :
    (registry.committed catalog start).Aligned catalog where
  children := by
    rw [children_committed calm, aligned.children, roots_committed]
    rfl
  headings := by
    have apart := (resolves.committed calm).name_injective
    rw [roots_committed] at apart ⊢
    rw [map_foldl_addNew apart, synopses_committed, Ordered.keys_putAll, aligned.headings,
      List.map_map]
    rfl

theorem Aligned.of_extends {grown : Catalog} (aligned : registry.Aligned catalog)
    (consistent : registry.Consistent catalog) (extended : catalog.Extends grown) :
    registry.Aligned grown where
  children := aligned.children
  headings := by
    rw [aligned.headings]
    refine List.map_congr_left fun d member => ?_
    have inside := consistent.declared d (consistent.rootsRegistered d member)
    exact congrArg Prod.fst (extended.heading inside).symm

end Registry

namespace Host

theorem reachable_aligned {h : Host} (reachable : Reachable h)
    (strict : h.registry.settings.strictAliases = true) : h.registry.Aligned h.catalog := by
  have both : h.registry.Resolves h.catalog ∧ h.registry.Aligned h.catalog :=
    reachable.strict_induction strict
      (P := fun registry catalog => registry.Resolves catalog ∧ registry.Aligned catalog)
      (fun _ => ⟨fun _ member => (nomatch member), rfl, rfl⟩)
      (fun _ _ _ consistent extended ⟨resolves, aligned⟩ =>
        ⟨resolves.of_extends consistent extended, aligned.of_extends consistent extended⟩)
      (fun _ _ _ calm ⟨resolves, aligned⟩ => ⟨resolves.committed calm, aligned.committed resolves calm⟩)
      (fun _ _ ⟨resolves, aligned⟩ => ⟨resolves, { aligned with }⟩)
  exact both.2

theorem entries_synopses {h : Host} (reachable : Reachable h)
    (strict : h.registry.settings.strictAliases = true) :
    h.registry.synopses.entries = h.registry.roots.map h.catalog.heading := by
  have found : ∀ d ∈ h.registry.roots,
      (h.registry.synopses.get? (Text.lower (h.catalog.name d))).map
        (Text.lower (h.catalog.name d), ·) = some (h.catalog.heading d) := by
    intro d member
    have here := (get?_synopses_iff reachable strict).mpr ⟨d, member, rfl⟩
    rw [here]
    rfl
  rw [Ordered.entries_eq (reachable_consistent reachable).headingsOnce,
    (reachable_aligned reachable strict).headings, List.filterMap_map]
  exact (List.filterMap_congr found).trans (congrFun List.filterMap_eq_map' _)

/-- The roundabout with another group at the root, and with its first group registered once more. -/
def crossroads : Host where
  catalog := roundaboutCatalog
  registry := ((roundabout.registry.attempt roundaboutCatalog (.group ⟨2⟩) none).registry.attempt
    roundaboutCatalog (.group ⟨0⟩) none).registry

theorem reachable_crossroads : crossroads.Reachable :=
  (reachable_roundabout.step (.register _ (.group ⟨2⟩) none)).step (.register _ (.group ⟨0⟩) none)

end Host

/-- While names are strict the list of roots, the help entries and the children of the root show the
same commands in the same order, and each of them has all of its names. -/
theorem Registry.root_views_agree {h : Host} (reachable : Host.Reachable h)
    (strict : h.registry.settings.strictAliases = true) :
    h.registry.rootInfo h.catalog = (h.registry.children none).map (fun d =>
      let definition := h.catalog.definition d
      ⟨definition.aliases, definition.usage, definition.desc, definition.permissions⟩) ∧
    h.registry.synopses.entries = (h.registry.children none).map (fun d =>
      (Text.lower (h.catalog.definition d).name, (h.catalog.definition d).synopsis)) ∧
    ∀ d ∈ h.registry.children none, ∀ name ∈ (h.catalog.definition d).aliases,
      h.registry.hasCommand name = true ∧ h.registry.lookup name none = some d := by
  have listed := (Host.reachable_aligned reachable strict).children
  rw [listed]
  refine ⟨rfl, Host.entries_synopses reachable strict, fun d member name named => ?_⟩
  have found : h.registry.lookup name none = some d :=
    Host.reachable_resolves reachable strict d member name named
  exact ⟨by rw [hasCommand, found]; rfl, found⟩

theorem Registry.root_views_agree_crossroads :
    Host.crossroads.registry.children none = [⟨0⟩, ⟨2⟩, ⟨1⟩] ∧
      (Host.crossroads.registry.rootInfo Host.crossroads.catalog).map (·.aliases) =
        [["Go", "again"], ["turn"], ["stop"]] ∧
      Host.crossroads.registry.synopses.keys = ["go", "turn", "stop"] ∧
      Host.crossroads.registry.lookup "AGAIN" none = some ⟨0⟩ := by
  have strict : Host.crossroads.registry.settings.strictAliases = true := by decide +kernel
  have listed : Host.crossroads.registry.children none = [⟨0⟩, ⟨2⟩, ⟨1⟩] := by decide +kernel
  obtain ⟨infos, entries, found⟩ := Registry.root_views_agree Host.reachable_crossroads strict
  refine ⟨listed, ?_, ?_, ?_⟩
  · rw [infos, listed]
    rfl
  · rw [Ordered.keys, entries, listed]
    decide
  · have member : ⟨0⟩ ∈ Host.crossroads.registry.children none := by
      rw [listed]
      exact List.mem_cons_self
    exact (found ⟨0⟩ member "again" (by decide)).2

end CommandTree
