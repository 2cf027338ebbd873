import CommandTree.Proofs.Growth
import CommandTree.Proofs.Mirror

namespace CommandTree

namespace Catalog
variable {catalog : Catalog} {start : Visit}

theorem parent_of_placed {p : Placement} (placed : p ∈ catalog.placed start) :
    p.parent = start.parent ∨ ∃ q ∈ catalog.placed start,
      (catalog.definition q.definition).isNested = true ∧ p.parent = some q.definition := by
  obtain ⟨v, met, declared⟩ := mem_placed.mp placed
  have same : p.parent = v.parent := (mem_placementsOf.mp declared).1
  rw [same]
  cases met with
  | start => exact .inl rfl
  | @next u _ met leads _ =>
    obtain ⟨d, member, below⟩ := leads
    obtain ⟨g, provider, rfl⟩ := mem_visitsBelow.mp below
    have above : ⟨u.parent, d⟩ ∈ catalog.placed start :=
      mem_placed.mpr ⟨u, met, mem_placementsOf.mpr ⟨rfl, member⟩⟩
    exact .inr ⟨_, above, isNested_iff.mpr ⟨g, provider⟩, rfl⟩

theorem IsNamed.of_placed (named : catalog.IsNamed) {p : Placement}
    (placed : p ∈ catalog.placed start) : p.definition.index < catalog.definitions.size := by
  obtain ⟨v, -, declared⟩ := mem_placed.mp placed
  exact named.inside v.group _ (mem_placementsOf.mp declared).2

end Catalog

namespace Registry

/-- The parts of a registry are in step, and its maps hold each key once. -/
structure Consistent (registry : Registry) (catalog : Catalog) : Prop where
  declared : ∀ d ∈ registry.definitions, d.index < catalog.definitions.size
  parents : ∀ q, q ∈ registry.nodes.keys ↔ q = none ∨
    ∃ d ∈ registry.definitions, (catalog.definition d).isNested = true ∧ q = some d
  parentsOnce : registry.nodes.keys.Nodup
  namesOnce : ∀ q, (registry.node q).keys.Nodup
  filed : ∀ q key d, (registry.node q).get? key = some d → d ∈ registry.definitions ∧
    ∃ name ∈ (catalog.definition d).aliases, Text.lower name = key
  rootsOnce : registry.roots.Nodup
  rootsRegistered : ∀ d ∈ registry.roots, d ∈ registry.definitions
  rootsFiled : ∀ key d, (registry.node none).get? key = some d → d ∈ registry.roots
  headingsOnce : registry.synopses.keys.Nodup
  headed : ∀ d ∈ registry.roots, Text.lower (catalog.name d) ∈ registry.synopses.keys
  headings : ∀ key synopsis, registry.synopses.get? key = some synopsis →
    ∃ d ∈ registry.roots, catalog.heading d = (key, synopsis)

variable {registry : Registry} {catalog : Catalog} {group : GroupId} {parent : Parent}

theorem isParent_some_iff {d : DefId} : registry.isParent catalog (some d) = true ↔
    d ∈ registry.definitions ∧ (catalog.definition d).isNested = true := by
  simp [isParent]

theorem isParent_committed {start : Visit} (valid : registry.isParent catalog parent = true) :
    (registry.committed catalog start).isParent catalog parent = true := by
  cases parent with
  | none => rfl
  | some d =>
    obtain ⟨member, nested⟩ := isParent_some_iff.mp valid
    exact isParent_some_iff.mpr ⟨(mem_definitions_committed ..).mpr (.inl member), nested⟩

theorem consistent_fresh (settings : Settings) (catalog : Catalog) :
    ({ settings } : Registry).Consistent catalog where
  declared _ member := nomatch member
  parents q := by
    have keys : ({ settings } : Registry).nodes.keys = [none] := rfl
    simp [keys]
  parentsOnce := List.nodup_cons.mpr ⟨List.not_mem_nil, List.nodup_nil⟩
  namesOnce q := by cases q <;> exact Ordered.nodup_keys_empty
  filed q _ _ found := by cases q <;> exact nomatch found
  rootsOnce := List.nodup_nil
  rootsRegistered _ member := nomatch member
  rootsFiled _ _ found := nomatch found
  headingsOnce := List.nodup_nil
  headed _ member := nomatch member
  headings _ _ found := nomatch found

/-- Only what is registered is read of the catalog, so what is declared later does not matter. -/
theorem Consistent.of_extends {grown : Catalog} (consistent : registry.Consistent catalog)
    (extended : catalog.Extends grown) : registry.Consistent grown := by
  have kept : ∀ d ∈ registry.definitions, grown.definition d = catalog.definition d :=
    fun d member => extended.definition d (consistent.declared d member)
  have named : ∀ d ∈ registry.roots, grown.heading d = catalog.heading d := fun d member =>
    extended.heading (consistent.declared d (consistent.rootsRegistered d member))
  refine { consistent with
    declared := ?_, parents := ?_, filed := ?_, headed := ?_, headings := ?_ }
  · exact fun d member => Nat.lt_of_lt_of_le (consistent.declared d member) extended.size
  · intro q
    rw [consistent.parents]
    refine or_congr_right (exists_congr fun d => and_congr_right fun member => ?_)
    rw [kept d member]
  · intro q key d found
    obtain ⟨member, names⟩ := consistent.filed q key d found
    rw [kept d member]
    exact ⟨member, names⟩
  · intro d member
    have heading : Text.lower (grown.name d) = Text.lower (catalog.name d) :=
      congrArg Prod.fst (named d member)
    rw [heading]
    exact consistent.headed d member
  · intro key synopsis found
    obtain ⟨d, member, heading⟩ := consistent.headings key synopsis found
    exact ⟨d, member, (named d member).trans heading⟩

theorem Consistent.freeze (consistent : registry.Consistent catalog) :
    registry.freeze.1.Consistent catalog := by
  unfold Registry.freeze
  split
  · exact consistent
  · exact { consistent with }

/-! ### Registrations -/

section Committed
variable (consistent : registry.Consistent catalog) {start : Visit}
include consistent

theorem Consistent.parents_committed (valid : registry.isParent catalog start.parent = true)
    (q : Parent) :
    q ∈ (registry.committed catalog start).nodes.keys ↔ q = none ∨
      ∃ d ∈ (registry.committed catalog start).definitions,
        (catalog.definition d).isNested = true ∧ q = some d := by
  have kept : ∀ d ∈ registry.definitions, d ∈ (registry.committed catalog start).definitions :=
    fun d member => (mem_definitions_committed ..).mpr (.inl member)
  have new : ∀ p ∈ catalog.placed start,
      p.definition ∈ (registry.committed catalog start).definitions :=
    fun p placed => (mem_definitions_committed ..).mpr (.inr ⟨p, placed, rfl⟩)
  rw [mem_keys_committed]
  constructor
  · rintro ((before | ⟨c, claimed, rfl⟩) | ⟨p, placed, nested, same⟩)
    · rcases (consistent.parents q).mp before with root | ⟨d, member, nested, same⟩
      · exact .inl root
      · exact .inr ⟨d, kept d member, nested, same⟩
    · rcases Catalog.parent_of_placed (Catalog.mem_claimed_iff_placed.mp claimed).1 with
        same | ⟨p, placed, nested, same⟩
      · change c.parent = start.parent at same
        rw [same]
        cases there : start.parent with
        | none => exact .inl rfl
        | some d =>
          rw [there] at valid
          obtain ⟨member, nested⟩ := isParent_some_iff.mp valid
          exact .inr ⟨d, kept d member, nested, rfl⟩
      · exact .inr ⟨p.definition, new p placed, nested, same⟩
    · exact .inr ⟨p.definition, new p placed, nested, same⟩
  · rintro (root | ⟨d, member, nested, same⟩)
    · exact .inl (.inl ((consistent.parents q).mpr (.inl root)))
    · rcases (mem_definitions_committed ..).mp member with before | ⟨p, placed, rfl⟩
      · exact .inl (.inl ((consistent.parents q).mpr (.inr ⟨d, before, nested, same⟩)))
      · exact .inr ⟨p, placed, nested, same⟩

theorem Consistent.filed_committed {q : Parent} {key : String} {d : DefId}
    (found : ((registry.committed catalog start).node q).get? key = some d) :
    d ∈ (registry.committed catalog start).definitions ∧
      ∃ name ∈ (catalog.definition d).aliases, Text.lower name = key := by
  rw [mem_definitions_committed]
  rcases claimed_of_get?_committed found with before | claimed
  · obtain ⟨member, names⟩ := consistent.filed q key d before
    exact ⟨.inl member, names⟩
  · obtain ⟨placed, names⟩ := Catalog.mem_claimed_iff_placed.mp claimed
    exact ⟨.inr ⟨_, placed, rfl⟩, names⟩

theorem Consistent.rootsFiled_committed {key : String} {d : DefId}
    (found : ((registry.committed catalog start).node none).get? key = some d) :
    d ∈ (registry.committed catalog start).roots := by
  rw [roots_committed, mem_foldl_addNew, mem_rootsAmong]
  rcases claimed_of_get?_committed found with before | claimed
  · exact .inl (consistent.rootsFiled key d before)
  · exact .inr (Catalog.mem_claimed_iff_placed.mp claimed).1

theorem Consistent.headings_committed {key : String} {synopsis : Value}
    (found : (registry.committed catalog start).synopses.get? key = some synopsis) :
    ∃ d ∈ (registry.committed catalog start).roots, catalog.heading d = (key, synopsis) := by
  rw [synopses_committed, Ordered.get?_putAll] at found
  rw [roots_committed]
  cases last : Ordered.lastOf? key ((rootsAmong (catalog.placed start)).map catalog.heading) with
  | none =>
    rw [last] at found
    obtain ⟨d, member, heading⟩ := consistent.headings key synopsis found
    exact ⟨d, mem_foldl_addNew.mpr (.inl member), heading⟩
  | some there =>
    rw [last] at found
    obtain rfl := Option.some.inj found
    obtain ⟨d, member, heading⟩ := List.mem_map.mp (Ordered.mem_of_lastOf? last)
    exact ⟨d, mem_foldl_addNew.mpr (.inr member), heading⟩

theorem Consistent.committed (named : catalog.IsNamed)
    (valid : registry.isParent catalog start.parent = true) :
    (registry.committed catalog start).Consistent catalog where
  declared d member := by
    rcases (mem_definitions_committed ..).mp member with before | ⟨p, placed, rfl⟩
    · exact consistent.declared d before
    · exact named.of_placed placed
  parents := consistent.parents_committed valid
  parentsOnce := nodup_keys_committed consistent.parentsOnce
  namesOnce q := by
    rw [node_committed]
    exact Ordered.nodup_keys_putAll (consistent.namesOnce q) _
  filed _ _ _ found := consistent.filed_committed found
  rootsOnce := by
    rw [roots_committed]
    exact nodup_foldl_addNew _ consistent.rootsOnce
  rootsRegistered d member := by
    rw [roots_committed, mem_foldl_addNew, mem_rootsAmong] at member
    rw [mem_definitions_committed]
    rcases member with before | placed
    · exact .inl (consistent.rootsRegistered d before)
    · exact .inr ⟨_, placed, rfl⟩
  rootsFiled _ _ found := consistent.rootsFiled_committed found
  headingsOnce := by
    rw [synopses_committed]
    exact Ordered.nodup_keys_putAll consistent.headingsOnce _
  headed d member := by
    rw [roots_committed, mem_foldl_addNew] at member
    rw [synopses_committed, Ordered.keys_putAll, mem_foldl_addNew, List.map_map]
    rcases member with before | new
    · exact .inl (consistent.headed d before)
    · exact .inr (List.mem_map.mpr ⟨d, new, rfl⟩)
  headings _ _ found := consistent.headings_committed found

end Committed

theorem Consistent.attempt (consistent : registry.Consistent catalog) (named : catalog.IsNamed)
    (provider : Provider) (parent : Parent) :
    (registry.attempt catalog provider parent).registry.Consistent catalog :=
  attempt_induction (P := (Consistent · catalog)) registry provider parent consistent
    fun _ _ valid _ => consistent.committed named valid

end Registry

/-! ### Reachable states -/

namespace Host

theorem step_consistent {h next : Host} (named : h.catalog.IsNamed)
    (consistent : h.registry.Consistent h.catalog) (step : Step h next) :
    next.registry.Consistent next.catalog := by
  obtain ⟨catalog, grows, rfl⟩ | ⟨provider, parent, rfl⟩ | rfl := step_cases step
  · exact consistent.of_extends grows.extends
  · exact consistent.attempt named provider parent
  · exact consistent.freeze

theorem reachable_consistent {h : Host} (reachable : Reachable h) :
    h.registry.Consistent h.catalog := by
  induction reachable with
  | fresh settings => exact Registry.consistent_fresh settings {}
  | step before step ih => exact step_consistent (reachable_isNamed before) ih step

theorem Reachable.registry_induction {P : Registry → Catalog → Prop} {h : Host}
    (reachable : Reachable h) (fresh : ∀ settings, P { settings } {})
    (grows : ∀ (registry : Registry) (before after : Catalog), registry.Consistent before →
      before.Extends after → P registry before → P registry after)
    (commits : ∀ (registry : Registry) (catalog : Catalog) (start : Visit),
      (registry.settings.strictAliases = true → ¬ registry.Contested catalog start) →
      P registry catalog → P (registry.committed catalog start) catalog)
    (freezes : ∀ (registry : Registry) (catalog : Catalog), P registry catalog →
      P { registry with frozen := true } catalog) :
    P h.registry h.catalog := by
  induction reachable with
  | fresh settings => exact fresh settings
  | @step h next before step ih =>
    obtain ⟨catalog, extended, rfl⟩ | ⟨provider, parent, rfl⟩ | rfl := step_cases step
    · exact grows h.registry h.catalog catalog (reachable_consistent before) extended.extends ih
    · refine Registry.attempt_induction (P := (P · h.catalog)) h.registry provider parent ih ?_
      intro group _ _ calm
      exact commits _ _ _ (fun strict => Registry.rivals_eq_nil_iff_not_contested.mp (calm strict)) ih
    · change P h.registry.freeze.1 h.catalog
      unfold Registry.freeze
      split
      · exact ih
      · exact freezes _ _ ih

end Host

namespace Host

def goDraft : Draft where
  aliases := .list [.str "Go", .str "again"]
  nested := [.group ⟨0⟩]

def leafDraft (name : String) : Draft where
  aliases := .str name
  handler := some fun _ _ => .give .null

/-- A group whose only command leads back to it, and two groups that have a command in common. -/
def roundaboutCatalog : Catalog where
  groups := #[{ members := [⟨0⟩] }, { members := [⟨1⟩] }, { members := [⟨2⟩, ⟨1⟩] }]
  definitions := #[{ name := "Go", synonyms := ["again"], body := .nested ⟨0⟩ [] },
    { name := "stop", body := .leaf fun _ _ => .give .null },
    { name := "turn", body := .leaf fun _ _ => .give .null }]

def roundabout : Host where
  catalog := roundaboutCatalog
  registry := (Registry.attempt { settings := { strictAliases := true } } roundaboutCatalog
    (.group ⟨0⟩) none).registry

theorem reachable_roundabout : roundabout.Reachable := by
  let empty : Host := { registry := { settings := { strictAliases := true } } }
  let grouped : Catalog := { groups := #[{}, {}, {}] }
  let going : Catalog :=
    ⟨#[{ members := [⟨0⟩] }, {}, {}], #[roundaboutCatalog.definition ⟨0⟩]⟩
  let stopping : Catalog := ⟨#[{ members := [⟨0⟩] }, { members := [⟨1⟩] }, {}],
    #[roundaboutCatalog.definition ⟨0⟩, roundaboutCatalog.definition ⟨1⟩]⟩
  let turning : Catalog := ⟨#[{ members := [⟨0⟩] }, { members := [⟨1⟩] }, { members := [⟨2⟩] }],
    roundaboutCatalog.definitions⟩
  have grouping : Reachable { empty with catalog := grouped } :=
    (((Reachable.fresh _).step (.group _ (.str ""))).step (.group _ (.str ""))).step
      (.group _ (.str ""))
  have went : grouped.nest ⟨0⟩ goDraft = .ok (⟨0⟩, going) := rfl
  have stopped : going.command ⟨1⟩ (leafDraft "stop") .null = .ok (⟨1⟩, stopping) := rfl
  have turned : stopping.command ⟨2⟩ (leafDraft "turn") .null = .ok (⟨2⟩, turning) := rfl
  have declaring : Reachable { empty with catalog := turning } :=
    ((grouping.step (.nest ⟨⟨0, rfl⟩, ⟨-1, rfl⟩, _, rfl⟩ went)).step
      (.command ⟨⟨0, rfl⟩, ⟨-1, rfl⟩, _, rfl⟩ stopped)).step
      (.command ⟨⟨0, rfl⟩, ⟨-1, rfl⟩, _, rfl⟩ turned)
  have adding : Reachable { empty with catalog := roundaboutCatalog } :=
    declaring.step (.add _ ⟨2⟩ (d := ⟨1⟩) (by decide))
  exact adding.step (.register _ (.group ⟨0⟩) none)

end Host

/-! ### The parts of a registry -/

/-- In every state that a host can reach, exactly the root and the registered nested commands have a
node. Whatever stands in a node is registered, under one of its names. Each root is there once, and
every root command in a node is one. The help entries are those of the roots. -/
theorem Registry.parts_in_step {h : Host} (reachable : Host.Reachable h) :
    (∀ q, q ∈ h.registry.nodes.keys ↔ q = none ∨
      ∃ d ∈ h.registry.definitions, (h.catalog.definition d).isNested = true ∧ q = some d) ∧
    (∀ q node, (q, node) ∈ h.registry.nodes.entries → ∀ key d, (key, d) ∈ node.entries →
      d ∈ h.registry.definitions ∧
        ∃ name ∈ (h.catalog.definition d).aliases, Text.lower name = key) ∧
    h.registry.roots.Nodup ∧
    (∀ d ∈ h.registry.roots, d ∈ h.registry.definitions) ∧
    (∀ node, (none, node) ∈ h.registry.nodes.entries → ∀ d ∈ node.values, d ∈ h.registry.roots) ∧
    (∀ d ∈ h.registry.roots, Text.lower (h.catalog.name d) ∈ h.registry.synopses.keys) ∧
    ∀ key synopsis, (key, synopsis) ∈ h.registry.synopses.entries →
      ∃ d ∈ h.registry.roots, Text.lower (h.catalog.name d) = key ∧
        (h.catalog.definition d).synopsis = synopsis := by
  have consistent := Host.reachable_consistent reachable
  have stored : ∀ q node, (q, node) ∈ h.registry.nodes.entries → h.registry.node q = node := by
    intro q node member
    have found := (Ordered.get?_eq_some_iff consistent.parentsOnce).mpr member
    rw [Registry.node, found]
    rfl
  refine ⟨consistent.parents, ?_, consistent.rootsOnce, consistent.rootsRegistered, ?_,
    consistent.headed, ?_⟩
  · intro q node member key d entry
    obtain rfl := stored q node member
    exact consistent.filed q key d
      ((Ordered.get?_eq_some_iff (consistent.namesOnce q)).mpr entry)
  · intro node member d value
    obtain rfl := stored none node member
    obtain ⟨key, found⟩ := (Ordered.mem_values_iff (consistent.namesOnce none)).mp value
    exact consistent.rootsFiled key d found
  · intro key synopsis entry
    obtain ⟨d, member, heading⟩ := consistent.headings key synopsis
      ((Ordered.get?_eq_some_iff consistent.headingsOnce).mpr entry)
    exact ⟨d, member, congrArg Prod.fst heading, congrArg Prod.snd heading⟩

theorem Registry.parts_in_step_roundabout :
    some ⟨0⟩ ∈ Host.roundabout.registry.nodes.keys ∧
      some ⟨1⟩ ∉ Host.roundabout.registry.nodes.keys ∧
      Host.roundabout.registry.roots = [⟨0⟩] ∧ "go" ∈ Host.roundabout.registry.synopses.keys := by
  have registered : Host.roundabout.registry.definitions = [⟨0⟩] := by decide +kernel
  have listed : Host.roundabout.registry.roots = [⟨0⟩] := by decide +kernel
  obtain ⟨parents, -, -, -, -, headed, -⟩ := Registry.parts_in_step Host.reachable_roundabout
  refine ⟨(parents _).mpr (.inr ⟨⟨0⟩, ?_, rfl, rfl⟩), fun there => ?_, listed, ?_⟩
  · rw [registered]
    exact List.mem_cons_self
  · obtain root | ⟨d, member, -, same⟩ := (parents _).mp there
    · exact absurd root (Option.some_ne_none _)
    · rw [registered, List.mem_singleton] at member
      rw [member] at same
      exact absurd same (by decide)
  · have heading : Text.lower (Host.roundabout.catalog.name ⟨0⟩) = "go" := by decide
    rw [← heading]
    refine headed ⟨0⟩ ?_
    rw [listed]
    exact List.mem_cons_self

end CommandTree
