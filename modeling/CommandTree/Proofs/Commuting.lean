import CommandTree.Proofs.Strict

namespace CommandTree

namespace Registry

def registerBoth (registry : Registry) (catalog : Catalog) (first second : Visit) :
    Except RegistrationFault Registry := do
  let one ← registry.register catalog (.group first.group) first.parent
  let two ← one.registry.register catalog (.group second.group) second.parent
  return two.registry

/-- Registries that answer alike but for the order in which they list. -/
structure SameHoldings (catalog : Catalog) (one other : Registry) : Prop where
  lookup : ∀ name p, one.lookup name p = other.lookup name p
  children : ∀ p d, d ∈ one.children p ↔ d ∈ other.children p
  synopses : ∀ key, one.synopses.get? key = other.synopses.get? key
  rootInfo : ∀ info, info ∈ one.rootInfo catalog ↔ info ∈ other.rootInfo catalog

variable {registry both : Registry} {catalog : Catalog} {first second : Visit}

theorem registerBoth_eq_ok_iff : registry.registerBoth catalog first second = .ok both ↔
    ∃ one two, registry.register catalog (.group first.group) first.parent = .ok one ∧
      one.registry.register catalog (.group second.group) second.parent = .ok two ∧
      two.registry = both := by
  constructor
  · intro done
    unfold registerBoth at done
    obtain ⟨one, begun, done⟩ := bind_ok done
    obtain ⟨two, ended, done⟩ := bind_ok done
    exact ⟨one, two, begun, ended, Except.ok.inj done⟩
  · rintro ⟨one, two, begun, ended, rfl⟩
    rw [registerBoth, begun]
    change (one.registry.register _ _ _ >>= _) = _
    rw [ended]
    rfl

theorem registerBoth_committed (done : registry.registerBoth catalog first second = .ok both) :
    both = (registry.committed catalog first).committed catalog second := by
  obtain ⟨one, two, begun, ended, rfl⟩ := registerBoth_eq_ok_iff.mp done
  rw [register_committed _ ended, register_committed _ begun]

/-! ### Two registrations without a rival -/

/-- Neither of two registrations contests a name, the second one after the first. -/
structure Calm (registry : Registry) (catalog : Catalog) (first second : Visit) : Prop where
  begins : ¬ registry.Contested catalog first
  follows : ¬ (registry.committed catalog first).Contested catalog second

theorem registerBoth_iff_calm (unfrozen : registry.frozen = false)
    (strict : registry.settings.strictAliases = true)
    (valid : registry.isParent catalog first.parent = true)
    (valid' : registry.isParent catalog second.parent = true) :
    (∃ both, registry.registerBoth catalog first second = .ok both) ↔
      registry.Calm catalog first second := by
  have begins : (∃ one, registry.register catalog (.group first.group) first.parent = .ok one) ↔
      ¬ registry.Contested catalog first := by
    rw [register_ok_iff, attempt_ok_iff unfrozen valid]
    exact forall_prop_of_true strict
  have ends : (∃ two, (registry.committed catalog first).register catalog (.group second.group)
      second.parent = .ok two) ↔ ¬ (registry.committed catalog first).Contested catalog second := by
    rw [register_ok_iff, attempt_ok_iff (by rwa [frozen_committed]) (isParent_committed valid'),
      settings_committed]
    exact forall_prop_of_true strict
  constructor
  · rintro ⟨both, done⟩
    obtain ⟨one, two, begun, ended, -⟩ := registerBoth_eq_ok_iff.mp done
    rw [register_committed _ begun] at ended
    exact ⟨begins.mp ⟨one, begun⟩, ends.mp ⟨two, ended⟩⟩
  · rintro ⟨calm, calm'⟩
    obtain ⟨one, begun⟩ := begins.mpr calm
    obtain ⟨two, ended⟩ := ends.mpr calm'
    rw [← register_committed _ begun] at ended
    exact ⟨two.registry, registerBoth_eq_ok_iff.mpr ⟨one, two, begun, ended, rfl⟩⟩

section Calm
variable (calm : registry.Calm catalog first second)
include calm

theorem Calm.get?_iff {q : Parent} {key : String} {d : DefId} :
    (((registry.committed catalog first).committed catalog second).node q).get? key = some d ↔
      (registry.node q).get? key = some d ∨ ⟨q, key, d⟩ ∈ catalog.claimed first ∨
        ⟨q, key, d⟩ ∈ catalog.claimed second := by
  rw [get?_committed_iff calm.follows, claimed_iff, get?_committed_iff calm.begins, claimed_iff,
    or_assoc]

theorem Calm.swap : registry.Calm catalog second first := by
  have early : ∀ q key d, registry.Claimed catalog second q key d →
      (registry.committed catalog first).Claimed catalog second q key d := by
    intro q key d claimed
    rw [claimed_iff, get?_committed_iff calm.begins, claimed_iff]
    rw [claimed_iff] at claimed
    exact claimed.imp_left .inl
  have late : ∀ q key d, (registry.committed catalog second).Claimed catalog first q key d →
      (registry.committed catalog first).Claimed catalog second q key d := by
    intro q key d claimed
    rcases claimed_iff.mp claimed with found | claim
    · exact early q key d (claimed_iff.mpr (claimed_of_get?_committed found))
    · have filed := (get?_committed_iff calm.begins).mpr (claimed_iff.mpr (.inr claim))
      exact claimed_iff.mpr (.inl filed)
  constructor
  · rintro ⟨q, key, d, e, different, hd, he⟩
    exact calm.follows ⟨q, key, d, e, different, early q key d hd, early q key e he⟩
  · rintro ⟨q, key, d, e, different, hd, he⟩
    exact calm.follows ⟨q, key, d, e, different, late q key d hd, late q key e he⟩

end Calm

theorem mem_roots_committed_comm (d : DefId) :
    d ∈ ((registry.committed catalog first).committed catalog second).roots ↔
      d ∈ ((registry.committed catalog second).committed catalog first).roots := by
  simp only [roots_committed, mem_foldl_addNew]
  exact or_right_comm

end Registry

namespace Host
variable {h : Host}

theorem reachable_registerBoth (reachable : Reachable h) {first second : Visit} {both : Registry}
    (done : h.registry.registerBoth h.catalog first second = .ok both) :
    Reachable { h with registry := both } := by
  obtain ⟨one, two, begun, ended, rfl⟩ := Registry.registerBoth_eq_ok_iff.mp done
  have middle := reachable.step (.register h (.group first.group) first.parent)
  rw [(Registry.register_ok _ begun).2] at middle
  have last := middle.step (.register _ (.group second.group) second.parent)
  rwa [(Registry.register_ok _ ended).2] at last

end Host

namespace Registry
variable {h : Host} {first second : Visit}

theorem sameHoldings_of_registerBoth (reachable : Host.Reachable h)
    (strict : h.registry.settings.strictAliases = true)
    (calm : h.registry.Calm h.catalog first second) {one other : Registry}
    (done : h.registry.registerBoth h.catalog first second = .ok one)
    (done' : h.registry.registerBoth h.catalog second first = .ok other) :
    SameHoldings h.catalog one other := by
  have here := Host.reachable_registerBoth reachable done
  have there := Host.reachable_registerBoth reachable done'
  obtain rfl := registerBoth_committed done
  obtain rfl := registerBoth_committed done'
  have filed : ∀ q key,
      (((h.registry.committed h.catalog first).committed h.catalog second).node q).get? key =
        (((h.registry.committed h.catalog second).committed h.catalog first).node q).get? key := by
    intro q key
    refine Option.ext fun d => ?_
    rw [calm.get?_iff, calm.swap.get?_iff, or_comm (a := _ ∈ h.catalog.claimed first)]
  refine ⟨fun name p => filed p (Text.lower name), fun p d => ?_, fun key => ?_, fun info => ?_⟩
  · rw [mem_children_iff ((Host.reachable_consistent here).namesOnce p),
      mem_children_iff ((Host.reachable_consistent there).namesOnce p)]
    exact exists_congr fun key => by rw [filed p key]
  · refine Option.ext fun synopsis => ?_
    rw [Host.get?_synopses_iff here (by simpa only [settings_committed] using strict),
      Host.get?_synopses_iff there (by simpa only [settings_committed] using strict)]
    exact exists_congr fun d => and_congr_left fun _ => mem_roots_committed_comm d
  · simp only [rootInfo, List.mem_map]
    exact exists_congr fun d => and_congr_left fun _ => mem_roots_committed_comm d

/-- While names are strict, two groups can be registered in one order exactly when they can in the
other, and either order leads to the same holdings. -/
theorem register_commutes (reachable : Host.Reachable h) (unfrozen : h.registry.frozen = false)
    (strict : h.registry.settings.strictAliases = true)
    (valid : h.registry.isParent h.catalog first.parent = true)
    (valid' : h.registry.isParent h.catalog second.parent = true) :
    ((∃ one, h.registry.registerBoth h.catalog first second = .ok one) ↔
      ∃ other, h.registry.registerBoth h.catalog second first = .ok other) ∧
    ∀ one other, h.registry.registerBoth h.catalog first second = .ok one →
      h.registry.registerBoth h.catalog second first = .ok other →
      SameHoldings h.catalog one other := by
  have forth := registerBoth_iff_calm unfrozen strict valid valid'
  have back := registerBoth_iff_calm unfrozen strict valid' valid
  refine ⟨?_, fun one other done done' => ?_⟩
  · rw [forth, back]
    exact ⟨Calm.swap, Calm.swap⟩
  · exact sameHoldings_of_registerBoth reachable strict (forth.mp ⟨one, done⟩) done done'

/-- Two groups with a command in common, under a command that leads back to its own group. Only the
order of its sub-commands tells which group came first. -/
theorem register_commutes_roundabout :
    ∃ one other,
      Host.roundabout.registry.registerBoth Host.roundabout.catalog
        ⟨some ⟨0⟩, ⟨1⟩⟩ ⟨some ⟨0⟩, ⟨2⟩⟩ = .ok one ∧
      Host.roundabout.registry.registerBoth Host.roundabout.catalog
        ⟨some ⟨0⟩, ⟨2⟩⟩ ⟨some ⟨0⟩, ⟨1⟩⟩ = .ok other ∧
      one.children (some ⟨0⟩) = [⟨0⟩, ⟨1⟩, ⟨2⟩] ∧ other.children (some ⟨0⟩) = [⟨0⟩, ⟨2⟩, ⟨1⟩] ∧
      SameHoldings Host.roundabout.catalog one other := by
  obtain ⟨either, same⟩ := @register_commutes _ ⟨some ⟨0⟩, ⟨1⟩⟩ ⟨some ⟨0⟩, ⟨2⟩⟩
    Host.reachable_roundabout (by decide +kernel) (by decide +kernel) (by decide +kernel)
    (by decide +kernel)
  have calm : Host.roundabout.registry.Calm Host.roundabout.catalog
      ⟨some ⟨0⟩, ⟨1⟩⟩ ⟨some ⟨0⟩, ⟨2⟩⟩ := by
    constructor
    · rw [← rivals_eq_nil_iff_not_contested]
      decide +kernel
    · rw [← rivals_eq_nil_iff_not_contested]
      decide +kernel
  obtain ⟨one, done⟩ := (registerBoth_iff_calm (by decide +kernel) (by decide +kernel)
    (by decide +kernel) (by decide +kernel)).mpr calm
  obtain ⟨other, done'⟩ := either.mp ⟨one, done⟩
  refine ⟨one, other, done, done', ?_, ?_, same one other done done'⟩
  · rw [registerBoth_committed done]
    decide +kernel
  · rw [registerBoth_committed done']
    decide +kernel

end Registry
end CommandTree
