import CommandTree.Proofs.Consistency

/-!
While names are strict a registration only adds: whoever has a name keeps it, and whoever claims one
gets it.
-/

namespace CommandTree

namespace Registry
variable {registry : Registry} {catalog : Catalog} {start : Visit}

theorem get?_committed_iff (calm : ¬ registry.Contested catalog start) {q : Parent} {key : String}
    {d : DefId} :
    ((registry.committed catalog start).node q).get? key = some d ↔
      registry.Claimed catalog start q key d := by
  rw [claimed_iff]
  refine ⟨claimed_of_get?_committed, fun claimed => ?_⟩
  rw [get?_committed]
  cases last : Ordered.lastOf? key ((Staging.of (catalog.claimed start)).claimsUnder q) with
  | none =>
    have unclaimed : ⟨q, key, d⟩ ∉ catalog.claimed start := fun claim =>
      Ordered.lastOf?_eq_none_iff.mp last d (Staging.mem_claimsUnder_of.mpr claim)
    exact claimed.resolve_right unclaimed
  | some e =>
    have claim : ⟨q, key, e⟩ ∈ catalog.claimed start :=
      Staging.mem_claimsUnder_of.mp (Ordered.mem_of_lastOf? last)
    refine congrArg some (Decidable.byContradiction fun different => calm ?_)
    exact ⟨q, key, e, d, different, claimed_iff.mpr (.inr claim), claimed_iff.mpr claimed⟩

/-- Every root command has all of its names. -/
def Resolves (registry : Registry) (catalog : Catalog) : Prop :=
  ∀ d ∈ registry.roots, ∀ name ∈ (catalog.definition d).aliases,
    (registry.node none).get? (Text.lower name) = some d

theorem Resolves.committed (resolves : registry.Resolves catalog)
    (calm : ¬ registry.Contested catalog start) :
    (registry.committed catalog start).Resolves catalog := by
  intro d member name named
  rw [get?_committed_iff calm, claimed_iff]
  rw [roots_committed, mem_foldl_addNew, mem_rootsAmong] at member
  rcases member with before | placed
  · exact .inl (resolves d before name named)
  · exact .inr (Catalog.mem_claimed_iff_placed.mpr ⟨placed, name, named, rfl⟩)

theorem Resolves.of_extends {grown : Catalog} (resolves : registry.Resolves catalog)
    (consistent : registry.Consistent catalog) (extended : catalog.Extends grown) :
    registry.Resolves grown := by
  intro d member name named
  have inside := consistent.declared d (consistent.rootsRegistered d member)
  rw [extended.definition d inside] at named
  exact resolves d member name named

/-- Every command that has one of its names under a parent has all of them there. -/
def Keeps (registry : Registry) (catalog : Catalog) : Prop :=
  ∀ q key d, (registry.node q).get? key = some d → ∀ name ∈ (catalog.definition d).aliases,
    (registry.node q).get? (Text.lower name) = some d

theorem Keeps.committed (keeps : registry.Keeps catalog)
    (calm : ¬ registry.Contested catalog start) :
    (registry.committed catalog start).Keeps catalog := by
  intro q key d found name named
  rw [get?_committed_iff calm, claimed_iff] at found ⊢
  rcases found with before | claimed
  · exact .inl (keeps q key d before name named)
  · have placed := (Catalog.mem_claimed_iff_placed.mp claimed).1
    exact .inr (Catalog.mem_claimed_iff_placed.mpr ⟨placed, name, named, rfl⟩)

theorem Keeps.of_extends {grown : Catalog} (keeps : registry.Keeps catalog)
    (consistent : registry.Consistent catalog) (extended : catalog.Extends grown) :
    registry.Keeps grown := by
  intro q key d found name named
  have inside := consistent.declared d (consistent.filed q key d found).1
  rw [extended.definition d inside] at named
  exact keeps q key d found name named

end Registry

namespace Host

theorem Reachable.strict_induction {P : Registry → Catalog → Prop} {h : Host}
    (reachable : Reachable h) (strict : h.registry.settings.strictAliases = true)
    (fresh : ∀ settings, P { settings } {})
    (grows : ∀ (registry : Registry) (before after : Catalog), registry.Consistent before →
      before.Extends after → P registry before → P registry after)
    (commits : ∀ (registry : Registry) (catalog : Catalog) (start : Visit),
      ¬ registry.Contested catalog start → P registry catalog →
        P (registry.committed catalog start) catalog)
    (freezes : ∀ (registry : Registry) (catalog : Catalog), P registry catalog →
      P { registry with frozen := true } catalog) :
    P h.registry h.catalog := by
  refine reachable.registry_induction
    (P := fun registry catalog => registry.settings.strictAliases = true → P registry catalog)
    (fun settings _ => fresh settings) ?_ ?_ (fun _ _ ih strict => freezes _ _ (ih strict)) strict
  · exact fun _ _ _ consistent extended ih strict => grows _ _ _ consistent extended (ih strict)
  · intro registry catalog start calm ih strict
    rw [Registry.settings_committed] at strict
    exact commits _ _ _ (calm strict) (ih strict)

theorem reachable_resolves {h : Host} (reachable : Reachable h)
    (strict : h.registry.settings.strictAliases = true) : h.registry.Resolves h.catalog :=
  reachable.strict_induction strict (P := Registry.Resolves) (fun _ _ member => nomatch member)
    (fun _ _ _ consistent extended resolves => resolves.of_extends consistent extended)
    (fun _ _ _ calm resolves => resolves.committed calm) (fun _ _ resolves => resolves)

theorem reachable_keeps {h : Host} (reachable : Reachable h)
    (strict : h.registry.settings.strictAliases = true) : h.registry.Keeps h.catalog :=
  reachable.strict_induction strict (P := Registry.Keeps)
    (fun _ q _ _ found => by cases q <;> exact nomatch found)
    (fun _ _ _ consistent extended keeps => keeps.of_extends consistent extended)
    (fun _ _ _ calm keeps => keeps.committed calm) (fun _ _ keeps => keeps)

theorem get?_synopses_iff {h : Host} (reachable : Reachable h)
    (strict : h.registry.settings.strictAliases = true) {key : String} {synopsis : Value} :
    h.registry.synopses.get? key = some synopsis ↔
      ∃ d ∈ h.registry.roots, h.catalog.heading d = (key, synopsis) := by
  have consistent := reachable_consistent reachable
  have resolves := reachable_resolves reachable strict
  refine ⟨consistent.headings key synopsis, ?_⟩
  rintro ⟨d, member, heading⟩
  obtain ⟨rfl, rfl⟩ := Prod.mk.inj heading
  obtain ⟨other, found⟩ := Ordered.mem_keys_iff.mp (consistent.headed d member)
  obtain ⟨e, member', heading'⟩ := consistent.headings _ _ found
  obtain ⟨same, rfl⟩ := Prod.mk.inj heading'
  -- Both commands have the name that the entry stands under, so they are one.
  have here := resolves d member (h.catalog.name d) List.mem_cons_self
  have there := resolves e member' (h.catalog.name e) List.mem_cons_self
  rw [same, here] at there
  obtain rfl := Option.some.inj there
  exact found

end Host
end CommandTree
