import CommandTree.Proofs.Growth
import CommandTree.Proofs.Mirror

namespace CommandTree

/-- Hosts that add to groups and register one group at the root, as often as they like. -/
inductive Host.Devoted (settings : Settings) (group : GroupId) : Host → Prop where
  | fresh : Devoted settings group { registry := { settings } }
  | grow {h : Host} {catalog : Catalog} : Devoted settings group h → h.catalog.Grows catalog →
      Devoted settings group { h with catalog }
  | register {h : Host} : Devoted settings group h → Devoted settings group
      { h with registry := (h.registry.attempt h.catalog (.group group) none).registry }

namespace Registry
variable {registry : Registry} {catalog : Catalog} {settings : Settings} {group : GroupId}

/-- All that a registry holds is claimed by a group, and its roots and help entries are those of the
commands that the group listed at some time. -/
structure Rehearsed (registry : Registry) (catalog : Catalog) (group : GroupId) : Prop where
  filed : ∀ q key d, (registry.node q).get? key = some d →
    ⟨q, key, d⟩ ∈ catalog.claimed ⟨none, group⟩
  listed : ∃ earlier, earlier <+: catalog.members group ∧ registry.roots = distinct earlier ∧
    registry.synopses.keys = distinct ((earlier.map catalog.heading).map (·.1))

theorem rehearsed_fresh (settings : Settings) (catalog : Catalog) (group : GroupId) :
    ({ settings } : Registry).Rehearsed catalog group where
  filed q key d found := by
    rw [node_fresh] at found
    exact nomatch found
  listed := ⟨[], List.nil_prefix, rfl, rfl⟩

theorem Rehearsed.of_extends {grown : Catalog} (rehearsed : registry.Rehearsed catalog group)
    (named : catalog.IsNamed) (extended : catalog.Extends grown) :
    registry.Rehearsed grown group := by
  obtain ⟨filed, earlier, before, roots, keys⟩ := rehearsed
  refine ⟨fun q key d found => extended.claimed named (filed q key d found), earlier,
    before.trans (extended.members group), roots, ?_⟩
  have same : earlier.map grown.heading = earlier.map catalog.heading :=
    List.map_congr_left fun d member =>
      extended.heading (named.inside group d (before.subset member))
  rw [same]
  exact keys

/-! ### What a rehearsed registration leaves behind -/

section Committed
variable (rehearsed : registry.Rehearsed catalog group)
include rehearsed

theorem Rehearsed.get?_committed (q : Parent) (key : String) :
    ((registry.committed catalog ⟨none, group⟩).node q).get? key =
      Ordered.lastOf? key ((Staging.of (catalog.claimed ⟨none, group⟩)).claimsUnder q) := by
  rw [Registry.get?_committed]
  cases last : Ordered.lastOf? key ((Staging.of (catalog.claimed ⟨none, group⟩)).claimsUnder q) with
  | some d => rfl
  | none =>
    refine Option.eq_none_iff_forall_ne_some.mpr fun d found => ?_
    exact Ordered.lastOf?_eq_none_iff.mp last d
      (Staging.mem_claimsUnder_of.mpr (rehearsed.filed q key d found))

theorem Rehearsed.roots_committed :
    (registry.committed catalog ⟨none, group⟩).roots = distinct (catalog.members group) := by
  obtain ⟨-, earlier, before, roots, -⟩ := rehearsed
  rw [Registry.roots_committed, Catalog.rootsAmong_placed, if_pos rfl, roots]
  exact foldl_addNew_distinct before

theorem Rehearsed.keys_synopses_committed :
    (registry.committed catalog ⟨none, group⟩).synopses.keys =
      distinct (((catalog.members group).map catalog.heading).map (·.1)) := by
  obtain ⟨-, earlier, before, -, keys⟩ := rehearsed
  rw [synopses_committed, Catalog.rootsAmong_placed, if_pos rfl, Ordered.keys_putAll, keys]
  exact foldl_addNew_distinct ((before.map _).map _)

theorem Rehearsed.get?_synopses_committed (key : String) :
    (registry.committed catalog ⟨none, group⟩).synopses.get? key =
      Ordered.lastOf? key ((catalog.members group).map catalog.heading) := by
  rw [synopses_committed, Catalog.rootsAmong_placed, if_pos rfl, Ordered.get?_putAll]
  cases last : Ordered.lastOf? key ((catalog.members group).map catalog.heading) with
  | some synopsis => rfl
  | none =>
    obtain ⟨-, earlier, before, -, keys⟩ := rehearsed
    refine Option.eq_none_iff_forall_ne_some.mpr fun synopsis found => ?_
    have known : key ∈ registry.synopses.keys := Ordered.mem_keys_iff.mpr ⟨synopsis, found⟩
    rw [keys, mem_distinct] at known
    obtain ⟨entry, member, rfl⟩ := List.mem_map.mp known
    exact Ordered.lastOf?_eq_none_iff.mp last entry.2 ((before.map _).subset member)

theorem Rehearsed.committed :
    (registry.committed catalog ⟨none, group⟩).Rehearsed catalog group where
  filed q key d found := by
    rw [rehearsed.get?_committed] at found
    exact Staging.mem_claimsUnder_of.mp (Ordered.mem_of_lastOf? found)
  listed := ⟨_, List.prefix_rfl, rehearsed.roots_committed, rehearsed.keys_synopses_committed⟩

theorem Rehearsed.contested_iff (settings : Settings) :
    registry.Contested catalog ⟨none, group⟩ ↔
      ({ settings } : Registry).Contested catalog ⟨none, group⟩ := by
  have claimed : ∀ q key d, registry.Claimed catalog ⟨none, group⟩ q key d ↔
      ({ settings } : Registry).Claimed catalog ⟨none, group⟩ q key d := by
    intro q key d
    rw [claimed_iff, claimed_iff]
    constructor
    · rintro (found | claim)
      · exact .inr (rehearsed.filed q key d found)
      · exact .inr claim
    · rintro (found | claim)
      · rw [node_fresh] at found
        exact nomatch found
      · exact .inr claim
  simp only [Contested, claimed]

end Committed

/-! ### Hosts that register one group -/

theorem Rehearsed.attempt (rehearsed : registry.Rehearsed catalog group) :
    (registry.attempt catalog (.group group) none).registry.Rehearsed catalog group := by
  refine attempt_induction (P := (Rehearsed · catalog group)) registry (.group group) none rehearsed
    fun _ same _ _ => ?_
  obtain rfl := Provider.group.inj same
  exact rehearsed.committed

end Registry

namespace Host.Devoted
variable {settings : Settings} {group : GroupId} {h : Host} (devoted : Devoted settings group h)
include devoted

theorem named : h.catalog.IsNamed := by
  induction devoted with
  | fresh => exact Catalog.isNamed_empty
  | grow _ grows ih => exact grows.isNamed ih
  | register _ ih => exact ih

theorem settings_eq : h.registry.settings = settings := by
  induction devoted with
  | fresh => rfl
  | grow _ _ ih => exact ih
  | register _ ih => rwa [Registry.settings_attempt]

theorem unfrozen : h.registry.frozen = false := by
  induction devoted with
  | fresh => rfl
  | grow _ _ ih => exact ih
  | register _ ih => rwa [Registry.frozen_attempt]

theorem rehearsed : h.registry.Rehearsed h.catalog group := by
  induction devoted with
  | fresh => exact Registry.rehearsed_fresh settings {} group
  | grow before grows ih => exact ih.of_extends before.named grows.extends
  | register _ ih => exact ih.attempt

end Host.Devoted

namespace Host

def leafNamed (name : String) : Draft where
  aliases := .str name
  handler := some fun _ _ => .give .null

def regionDraft : Draft where
  aliases := .str "region"
  nested := [.group ⟨1⟩]

/-- A group with a leaf and a command that leads to a second, empty group. -/
def sketch : Catalog where
  groups := #[{ members := [⟨0⟩, ⟨1⟩] }, {}]
  definitions := #[{ name := "set", body := .leaf fun _ _ => .give .null },
    { name := "region", body := .nested ⟨1⟩ [] }]

/-- Another leaf takes the name of the first one, and the second group has a command. -/
def survey : Catalog where
  groups := #[{ members := [⟨0⟩, ⟨1⟩, ⟨2⟩] }, { members := [⟨3⟩] }]
  definitions := #[sketch.definition ⟨0⟩, sketch.definition ⟨1⟩,
    { name := "SET", body := .leaf fun _ _ => .give .null },
    { name := "expand", body := .leaf fun _ _ => .give .null }]

def surveyor : Host where
  catalog := survey
  registry := (Registry.attempt {} sketch (.group ⟨0⟩) none).registry

theorem devoted_surveyor : Devoted {} ⟨0⟩ surveyor := by
  let grouped : Catalog := { groups := #[{}, {}] }
  let begun : Catalog := ⟨#[{ members := [⟨0⟩] }, {}], #[survey.definition ⟨0⟩]⟩
  let extended : Catalog := ⟨#[{ members := [⟨0⟩, ⟨1⟩, ⟨2⟩] }, {}],
    #[survey.definition ⟨0⟩, survey.definition ⟨1⟩, survey.definition ⟨2⟩]⟩
  have leaf : ∀ name, (leafNamed name).IsTyped := fun name => ⟨⟨0, rfl⟩, ⟨-1, rfl⟩, _, rfl⟩
  have grouping : Devoted {} ⟨0⟩ { catalog := grouped, registry := {} } :=
    (Devoted.fresh.grow (.group _ (.str ""))).grow (.group _ (.str ""))
  have set : (leafNamed "set").check grouped = .ok (survey.definition ⟨0⟩) := rfl
  have region : regionDraft.check begun = .ok (survey.definition ⟨1⟩) := rfl
  have sketching : Devoted {} ⟨0⟩ { catalog := sketch, registry := {} } :=
    (grouping.grow (.declare ⟨0⟩ (leaf _) set)).grow
      (.declare ⟨0⟩ ⟨⟨0, rfl⟩, ⟨-1, rfl⟩, _, rfl⟩ region)
  have another : (leafNamed "SET").check sketch = .ok (survey.definition ⟨2⟩) := rfl
  have expand : (leafNamed "expand").check extended = .ok (survey.definition ⟨3⟩) := rfl
  exact (sketching.register.grow (.declare ⟨0⟩ (leaf _) another)).grow
    (.declare ⟨1⟩ (leaf _) expand)

end Host

namespace Registry
variable {settings : Settings} {group : GroupId} {h : Host}

/-- A host that adds to groups and registers one group ends where a single registration would have
taken it: the last registration succeeds when one on a fresh registry does, and then both find the
same commands and list the same roots and help entries in the same order. -/
theorem register_again (devoted : Host.Devoted settings group h) :
    ((∃ last, h.registry.register h.catalog (.group group) none = .ok last) ↔
      ∃ anew, ({ settings } : Registry).register h.catalog (.group group) none = .ok anew) ∧
    ∀ last anew, h.registry.register h.catalog (.group group) none = .ok last →
      ({ settings } : Registry).register h.catalog (.group group) none = .ok anew →
      (∀ a p, last.registry.lookup a p = anew.registry.lookup a p) ∧
      last.registry.synopses = anew.registry.synopses ∧
      last.registry.rootInfo h.catalog = anew.registry.rootInfo h.catalog := by
  have rehearsed := devoted.rehearsed
  have blank := rehearsed_fresh settings h.catalog group
  refine ⟨?_, fun last anew done done' => ⟨fun a p => ?_, ?_, ?_⟩⟩
  · rw [register_ok_iff, register_ok_iff, attempt_ok_iff devoted.unfrozen rfl,
      attempt_ok_iff rfl rfl, devoted.settings_eq, rehearsed.contested_iff settings]
  · rw [register_committed _ done, register_committed _ done', lookup, lookup,
      rehearsed.get?_committed, blank.get?_committed]
  · rw [register_committed _ done, register_committed _ done']
    have once : (h.registry.committed h.catalog ⟨none, group⟩).synopses.keys.Nodup := by
      rw [rehearsed.keys_synopses_committed]
      exact nodup_distinct _
    refine Ordered.ext_get? once ?_ fun key => ?_
    · rw [rehearsed.keys_synopses_committed, blank.keys_synopses_committed]
    · rw [rehearsed.get?_synopses_committed, blank.get?_synopses_committed]
  · rw [register_committed _ done, register_committed _ done', rootInfo, rootInfo,
      rehearsed.roots_committed, blank.roots_committed]

theorem register_again_surveyor :
    ∃ last, Host.surveyor.registry.register Host.survey (.group ⟨0⟩) none = .ok last ∧
      last.registry.lookup "set" none = some ⟨2⟩ ∧
      last.registry.lookup "Expand" (some ⟨1⟩) = some ⟨3⟩ ∧
      last.registry.synopses.keys = ["set", "region"] := by
  obtain ⟨succeeds, alike⟩ := register_again Host.devoted_surveyor
  obtain ⟨anew, done'⟩ : ∃ anew, ({} : Registry).register Host.survey (.group ⟨0⟩) none = .ok anew :=
    register_ok_iff.mpr ((attempt_ok_iff rfl rfl).mpr nofun)
  obtain ⟨last, done⟩ := succeeds.mpr ⟨anew, done'⟩
  obtain ⟨lookups, synopses, -⟩ := alike last anew done done'
  refine ⟨last, done, ?_, ?_, ?_⟩
  · rw [lookups, register_committed _ done']
    decide +kernel
  · rw [lookups, register_committed _ done']
    decide +kernel
  · rw [synopses, register_committed _ done']
    decide +kernel

end Registry
end CommandTree
