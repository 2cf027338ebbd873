import CommandTree.Proofs.Strict

/-!
A registration that is repeated meets its own outcome. What lost a name the first time takes it
again and loses it again.
-/

namespace CommandTree

namespace Registry

section Committed
variable (registry : Registry) (catalog : Catalog) (start : Visit)

theorem committed_eq : registry.committed catalog start = { registry with
    definitions := (registry.committed catalog start).definitions
    nodes := (registry.committed catalog start).nodes
    roots := (registry.committed catalog start).roots
    synopses := (registry.committed catalog start).synopses } := by
  rw [definitions_committed, roots_committed, synopses_committed]
  exact commit_eq registry _ _

theorem definitions_committed_committed :
    ((registry.committed catalog start).committed catalog start).definitions =
      (registry.committed catalog start).definitions := by
  rw [definitions_committed]
  apply foldl_addNew_of_known
  intro d placed
  rw [definitions_committed, mem_foldl_addNew]
  exact .inr placed

theorem roots_committed_committed :
    ((registry.committed catalog start).committed catalog start).roots =
      (registry.committed catalog start).roots := by
  rw [roots_committed]
  apply foldl_addNew_of_known
  intro d placed
  rw [roots_committed, mem_foldl_addNew]
  exact .inr placed

theorem keys_committed_committed :
    ((registry.committed catalog start).committed catalog start).nodes.keys =
      (registry.committed catalog start).nodes.keys := by
  have staged : ∀ q ∈ (Staging.of (catalog.claimed start)).keys,
      q ∈ (registry.committed catalog start).nodes.keys := by
    intro q member
    rw [mem_keys_committed, ← Staging.mem_keys_of]
    exact .inl (.inr member)
  have housed : ∀ q ∈ catalog.housed (catalog.placed start),
      q ∈ (registry.committed catalog start).nodes.keys := by
    intro q member
    rw [mem_keys_committed, ← Catalog.mem_housed]
    exact .inr member
  rw [keys_committed, foldl_addNew_of_known staged, foldl_addNew_of_known housed]

end Committed

variable {registry : Registry} {catalog : Catalog}

section Consistent
variable (consistent : registry.Consistent catalog) (start : Visit)
include consistent

theorem Consistent.synopses_committed_committed :
    ((registry.committed catalog start).committed catalog start).synopses =
      (registry.committed catalog start).synopses := by
  rw [synopses_committed, synopses_committed]
  exact Ordered.putAll_putAll consistent.headingsOnce _

theorem Consistent.node_committed_committed (q : Parent) :
    ((registry.committed catalog start).committed catalog start).node q =
      (registry.committed catalog start).node q := by
  rw [node_committed, node_committed]
  exact Ordered.putAll_putAll (consistent.namesOnce q) _

theorem Consistent.nodes_committed_committed :
    ((registry.committed catalog start).committed catalog start).nodes =
      (registry.committed catalog start).nodes := by
  have keys := keys_committed_committed registry catalog start
  apply Ordered.ext_get? _ keys
  · intro q
    exact get?_nodes_congr (by rw [keys]) (consistent.node_committed_committed start q)
  · rw [keys]
    exact nodup_keys_committed consistent.parentsOnce

theorem Consistent.committed_committed :
    (registry.committed catalog start).committed catalog start =
      registry.committed catalog start := by
  rw [committed_eq (registry.committed catalog start), definitions_committed_committed,
    roots_committed_committed, consistent.nodes_committed_committed,
    consistent.synopses_committed_committed]

end Consistent

/-! ### A repeated registration -/

theorem not_contested_committed {start : Visit} (calm : ¬ registry.Contested catalog start) :
    ¬ (registry.committed catalog start).Contested catalog start := by
  have claimed : ∀ q key d, (registry.committed catalog start).Claimed catalog start q key d →
      registry.Claimed catalog start q key d := by
    intro q key d claim
    rw [claimed_iff, get?_committed_iff calm] at claim
    rcases claim with before | new
    · exact before
    · exact claimed_iff.mpr (.inr new)
  rintro ⟨q, key, d, e, different, first, second⟩
  exact calm ⟨q, key, d, e, different, claimed q key d first, claimed q key e second⟩

theorem definitions_register {group : GroupId} {parent : Parent} {registration : Registration}
    (done : registry.register catalog (.group group) parent = .ok registration) :
    registration.definitions = catalog.members group := by
  obtain ⟨outcome, -⟩ := register_ok registry done
  obtain ⟨_, same, -, -, listed, -, -⟩ := attempt_ok registry outcome
  obtain rfl := Provider.group.inj same
  exact listed

end Registry

namespace Host

/-- The group leads back to itself, and its second command takes a name of its first. -/
def echoes : Catalog where
  groups := #[{ members := [⟨0⟩, ⟨1⟩] }, { members := [⟨2⟩] }]
  definitions := #[{ name := "Go", synonyms := ["again"], body := .nested ⟨0⟩ [] },
    { name := "again", body := .leaf fun _ _ => .give .null },
    { name := "go", body := .leaf fun _ _ => .give .null }]

/-- Another group has the name of the first command already. -/
def canyon : Host where
  catalog := echoes
  registry := Registry.committed {} echoes ⟨none, ⟨1⟩⟩

theorem reachable_canyon : canyon.Reachable := by
  let empty : Host := { registry := {} }
  let grouped : Catalog := { groups := #[{}, {}] }
  let going : Catalog := ⟨#[{ members := [⟨0⟩] }, {}], #[echoes.definition ⟨0⟩]⟩
  let again : Catalog :=
    ⟨#[{ members := [⟨0⟩, ⟨1⟩] }, {}], #[echoes.definition ⟨0⟩, echoes.definition ⟨1⟩]⟩
  have grouping : Reachable { empty with catalog := grouped } :=
    ((Reachable.fresh {}).step (.group _ (.str ""))).step (.group _ (.str ""))
  have first : grouped.nest ⟨0⟩ goDraft = .ok (⟨0⟩, going) := rfl
  have second : going.command ⟨0⟩ (leafDraft "again") .null = .ok (⟨1⟩, again) := rfl
  have third : again.command ⟨1⟩ (leafDraft "go") .null = .ok (⟨2⟩, echoes) := rfl
  have declaring : Reachable { empty with catalog := echoes } :=
    ((grouping.step (.nest ⟨⟨0, rfl⟩, ⟨-1, rfl⟩, _, rfl⟩ first)).step
      (.command ⟨⟨0, rfl⟩, ⟨-1, rfl⟩, _, rfl⟩ second)).step
      (.command ⟨⟨0, rfl⟩, ⟨-1, rfl⟩, _, rfl⟩ third)
  have registering := declaring.step (.register _ (.group ⟨1⟩) none)
  rwa [(Registry.attempt_of_lenient rfl rfl rfl).2] at registering

end Host

namespace Registry

/-- In every state that a host can reach, with strict names or without, a registration that succeeds
can be repeated, and then every part of the registry is as the first one left it: the nodes with
their names in order, the help entries, the roots and the registered definitions. -/
theorem register_twice {h : Host} (reachable : Host.Reachable h) {provider : Provider}
    {parent : Parent} {once : Registration}
    (done : h.registry.register h.catalog provider parent = .ok once) :
    ∃ again, once.registry.register h.catalog provider parent = .ok again ∧
      again.registry = once.registry ∧ again.definitions = once.definitions := by
  have consistent := Host.reachable_consistent reachable
  obtain ⟨outcome, -⟩ := register_ok h.registry done
  obtain ⟨group, rfl, unfrozen, valid, -⟩ := attempt_ok h.registry outcome
  have calm := (attempt_ok_iff unfrozen valid).mp ⟨_, outcome⟩
  have committed := register_committed h.registry done
  have unfrozen' : (h.registry.committed h.catalog ⟨parent, group⟩).frozen = false := by
    rwa [frozen_committed]
  have repeats : ∃ again, once.registry.register h.catalog (.group group) parent = .ok again := by
    rw [committed, register_ok_iff, attempt_ok_iff unfrozen' (isParent_committed valid),
      settings_committed]
    exact fun strict => not_contested_committed (calm strict)
  obtain ⟨again, done'⟩ := repeats
  refine ⟨again, done', ?_, ?_⟩
  · rw [register_committed _ done', committed, consistent.committed_committed]
  · rw [definitions_register done', definitions_register done]

theorem register_twice_canyon :
    ∃ once again,
      Host.canyon.registry.register Host.echoes (.group ⟨0⟩) none = .ok once ∧
      once.registry.register Host.echoes (.group ⟨0⟩) none = .ok again ∧
      again.registry = once.registry ∧
      Host.canyon.registry.lookup "go" none = some ⟨2⟩ ∧
      again.registry.lookup "go" none = some ⟨0⟩ ∧
      again.registry.lookup "again" (some ⟨0⟩) = some ⟨1⟩ := by
  have lenient : Host.canyon.registry.settings.strictAliases = false := by
    rw [Host.canyon, settings_committed]
  have unfrozen : Host.canyon.registry.frozen = false := by
    rw [Host.canyon, frozen_committed]
  obtain ⟨once, done⟩ : ∃ once,
      Host.canyon.registry.register Host.echoes (.group ⟨0⟩) none = .ok once :=
    register_of_outcome _ (attempt_of_lenient lenient unfrozen rfl).1
  obtain ⟨again, done', same, -⟩ := register_twice Host.reachable_canyon done
  refine ⟨once, again, done, done', same, by decide +kernel, ?_, ?_⟩
  · rw [same, register_committed _ done]
    decide +kernel
  · rw [same, register_committed _ done]
    decide +kernel

end Registry
end CommandTree
