import CommandTree.Proofs.Collisions

namespace CommandTree

namespace Catalog
variable {catalog : Catalog} {group : GroupId}

/-- What is declared under a parent while a group stands at the root. -/
def declared (catalog : Catalog) (group : GroupId) : Parent → List DefId
  | none => catalog.members group
  | some d => catalog.declaredUnder d

/-- The parents that a group at the root leads to. -/
inductive Reach (catalog : Catalog) (group : GroupId) : Parent → Prop where
  | root : Reach catalog group none
  | nested {p : Parent} {d : DefId} : Reach catalog group p → d ∈ catalog.declared group p →
      (catalog.definition d).isNested = true → Reach catalog group (some d)

theorem isNested_iff {d : Definition} : d.isNested = true ↔ ∃ g, g ∈ d.nested := by
  cases nested : d.nested <;> simp [Definition.isNested, nested]

theorem mem_declaredUnder {p d : DefId} :
    d ∈ catalog.declaredUnder p ↔ ∃ g ∈ (catalog.definition p).nested, d ∈ catalog.members g :=
  List.mem_flatMap

/-- The visits that a group meets are its own and those below the nested definitions that it leads
to, wherever it stands. -/
theorem meets_iff {p : Parent} {v : Visit} :
    catalog.Meets [] ⟨p, group⟩ v ↔ v = ⟨p, group⟩ ∨
      ∃ d, v.parent = some d ∧ catalog.Reach group (some d) ∧
        v.group ∈ (catalog.definition d).nested := by
  constructor
  · intro met
    induction met with
    | start => exact .inl rfl
    | @next v w _ leads _ ih =>
      obtain ⟨d, member, below⟩ := leads
      obtain ⟨g, nested, rfl⟩ := mem_visitsBelow.mp below
      have isNested := isNested_iff.mpr ⟨g, nested⟩
      refine .inr ⟨d, rfl, ?_, nested⟩
      rcases ih with rfl | ⟨p, parent, reach, provider⟩
      · exact .nested .root member isNested
      · exact .nested reach (mem_declaredUnder.mpr ⟨v.group, provider, member⟩) isNested
  · have descend : ∀ q, catalog.Reach group q → ∀ d ∈ catalog.declared group q,
        ∀ g ∈ (catalog.definition d).nested, catalog.Meets [] ⟨p, group⟩ ⟨some d, g⟩ := by
      intro q reach
      induction reach with
      | root =>
        intro d member g nested
        exact .next (.start List.not_mem_nil) ⟨d, member, mem_visitsBelow.mpr ⟨g, nested, rfl⟩⟩
          List.not_mem_nil
      | @nested q e _ member _ ih =>
        intro d declared g nested
        obtain ⟨f, provider, declared⟩ := mem_declaredUnder.mp declared
        exact .next (ih e member f provider) ⟨d, declared, mem_visitsBelow.mpr ⟨g, nested, rfl⟩⟩
          List.not_mem_nil
    rintro (rfl | ⟨d, parent, reach, nested⟩)
    · exact .start List.not_mem_nil
    · obtain ⟨q, g⟩ := v
      obtain rfl : q = some d := parent
      cases reach with
      | nested reach member _ => exact descend _ reach d member g nested

theorem mem_placed_iff {p q : Parent} {d : DefId} :
    ⟨q, d⟩ ∈ catalog.placed ⟨p, group⟩ ↔ (q = p ∧ d ∈ catalog.members group) ∨
      ∃ e, q = some e ∧ catalog.Reach group (some e) ∧ d ∈ catalog.declaredUnder e := by
  rw [mem_placed]
  constructor
  · rintro ⟨v, met, declared⟩
    obtain ⟨rfl, member⟩ := mem_placementsOf.mp declared
    obtain rfl | ⟨e, parent, reach, provider⟩ := meets_iff.mp met
    · exact .inl ⟨rfl, member⟩
    · exact .inr ⟨e, parent, reach, mem_declaredUnder.mpr ⟨_, provider, member⟩⟩
  · rintro (⟨rfl, member⟩ | ⟨e, rfl, reach, member⟩)
    · exact ⟨_, .start List.not_mem_nil, mem_placementsOf.mpr ⟨rfl, member⟩⟩
    · obtain ⟨g, provider, member⟩ := mem_declaredUnder.mp member
      exact ⟨⟨some e, g⟩, meets_iff.mpr (.inr ⟨e, rfl, reach, provider⟩),
        mem_placementsOf.mpr ⟨rfl, member⟩⟩

theorem mem_placed_root_iff {q : Parent} {d : DefId} :
    ⟨q, d⟩ ∈ catalog.placed ⟨none, group⟩ ↔
      catalog.Reach group q ∧ d ∈ catalog.declared group q := by
  rw [mem_placed_iff]
  constructor
  · rintro (⟨rfl, member⟩ | ⟨e, rfl, reach, member⟩)
    · exact ⟨.root, member⟩
    · exact ⟨reach, member⟩
  · rintro ⟨reach, member⟩
    cases q with
    | none => exact .inl ⟨rfl, member⟩
    | some e => exact .inr ⟨e, rfl, reach, member⟩

theorem mem_claimed_root_iff {parent : Parent} {key : String} {d : DefId} :
    ⟨parent, key, d⟩ ∈ catalog.claimed ⟨none, group⟩ ↔
      catalog.Reach group parent ∧ d ∈ catalog.declared group parent ∧
        ∃ name ∈ (catalog.definition d).aliases, Text.lower name = key := by
  rw [mem_claimed_iff_placed, mem_placed_root_iff, and_assoc]

end Catalog

namespace Registry
variable {settings : Settings} {catalog : Catalog} {group : GroupId} {registration : Registration}

theorem node_fresh (settings : Settings) (parent : Parent) :
    ({ settings } : Registry).node parent = ∅ := by
  cases parent <;> rfl

theorem mem_children_iff {registry : Registry} {p : Parent}
    (once : (registry.node p).keys.Nodup) {d : DefId} :
    d ∈ registry.children p ↔ ∃ key, (registry.node p).get? key = some d := by
  rw [children, mem_distinct, Ordered.mem_values_iff once]

section Registered
variable (done : ({ settings } : Registry).register catalog (.group group) none = .ok registration)
include done

theorem node_registered (parent : Parent) :
    registration.registry.node parent =
      Ordered.putAll ∅ ((Staging.of (catalog.claimed ⟨none, group⟩)).claimsUnder parent) := by
  obtain ⟨outcome, grown⟩ := register_ok _ done
  rw [← grown, node_attempt _ outcome, node_fresh]

theorem nodup_keys_registered (parent : Parent) :
    (registration.registry.node parent).keys.Nodup := by
  rw [node_registered done]
  exact Ordered.nodup_keys_putAll Ordered.nodup_keys_empty _

theorem get?_registered (parent : Parent) (key : String) :
    (registration.registry.node parent).get? key =
      Ordered.lastOf? key ((Staging.of (catalog.claimed ⟨none, group⟩)).claimsUnder parent) := by
  rw [node_registered done, Ordered.get?_putAll, Ordered.get?_empty, Option.or_none]

theorem claim_of_get?_registered {parent : Parent} {key : String} {d : DefId}
    (found : (registration.registry.node parent).get? key = some d) :
    ⟨parent, key, d⟩ ∈ catalog.claimed ⟨none, group⟩ := by
  rw [get?_registered done] at found
  exact Staging.mem_claimsUnder_of.mp (Ordered.mem_of_lastOf? found)

theorem isSome_get?_registered {parent : Parent} {key : String} {d : DefId}
    (claim : ⟨parent, key, d⟩ ∈ catalog.claimed ⟨none, group⟩) :
    ∃ e, (registration.registry.node parent).get? key = some e := by
  rw [get?_registered done]
  refine Option.ne_none_iff_exists'.mp fun absent => ?_
  exact Ordered.lastOf?_eq_none_iff.mp absent d (Staging.mem_claimsUnder_of.mpr claim)

theorem get?_registered_strict (strict : settings.strictAliases = true) {parent : Parent}
    {key : String} {d : DefId} (claim : ⟨parent, key, d⟩ ∈ catalog.claimed ⟨none, group⟩) :
    (registration.registry.node parent).get? key = some d := by
  obtain ⟨_, same, -, -, -, calm, -⟩ := attempt_ok _ (register_ok _ done).1
  obtain rfl := Provider.group.inj same
  obtain ⟨e, found⟩ := isSome_get?_registered done claim
  have alike : e = d := (rivals_eq_nil_iff.mp (calm strict)).together _
    (claim_of_get?_registered done found) _ claim rfl rfl
  rw [found, alike]

theorem get?_registered_iff (strict : settings.strictAliases = true) {parent : Parent}
    {key : String} {d : DefId} : (registration.registry.node parent).get? key = some d ↔
      catalog.Reach group parent ∧ d ∈ catalog.declared group parent ∧
        ∃ name ∈ (catalog.definition d).aliases, Text.lower name = key := by
  rw [← Catalog.mem_claimed_root_iff]
  exact ⟨claim_of_get?_registered done, get?_registered_strict done strict⟩

theorem mem_children_registered (strict : settings.strictAliases = true) {parent : Parent}
    (reach : catalog.Reach group parent) {d : DefId} :
    d ∈ registration.registry.children parent ↔ d ∈ catalog.declared group parent := by
  rw [mem_children_iff (nodup_keys_registered done parent)]
  constructor
  · rintro ⟨key, found⟩
    exact ((get?_registered_iff done strict).mp found).2.1
  · intro member
    exact ⟨_, (get?_registered_iff done strict).mpr
      ⟨reach, member, catalog.name d, List.mem_cons_self, rfl⟩⟩

end Registered

/-- A group that is registered on a fresh registry can be found exactly as it is declared: under
each parent that it leads to, by the names of what is declared there in any letter case. With strict
names each name finds the definition that declares it, and the children are the declared
definitions. -/
theorem register_mirrors (settings : Settings) (catalog : Catalog) (group : GroupId)
    (registration : Registration)
    (done : ({ settings } : Registry).register catalog (.group group) none = .ok registration) :
    (∀ p, catalog.Reach group p → ∀ a,
      ((∃ d, registration.registry.lookup a p = some d) ↔
        ∃ d ∈ catalog.declared group p, ∃ x ∈ (catalog.definition d).aliases,
          Text.lower x = Text.lower a) ∧
      ∀ d, registration.registry.lookup a p = some d →
        d ∈ catalog.declared group p ∧
          ∃ x ∈ (catalog.definition d).aliases, Text.lower x = Text.lower a) ∧
    (∀ p, ¬ catalog.Reach group p → ∀ a, registration.registry.lookup a p = none) ∧
    (settings.strictAliases = true → ∀ p, catalog.Reach group p →
      (∀ a, ∀ d ∈ catalog.declared group p,
        (∃ x ∈ (catalog.definition d).aliases, Text.lower x = Text.lower a) →
          registration.registry.lookup a p = some d) ∧
      (registration.registry.children p).Nodup ∧
      ∀ d, d ∈ registration.registry.children p ↔ d ∈ catalog.declared group p) := by
  refine ⟨fun p reach a => ⟨⟨?_, ?_⟩, ?_⟩, fun p beyond a => ?_, fun strict p reach => ⟨?_, ?_, ?_⟩⟩
  · rintro ⟨d, found⟩
    obtain ⟨-, member, names⟩ :=
      Catalog.mem_claimed_root_iff.mp (claim_of_get?_registered done found)
    exact ⟨d, member, names⟩
  · rintro ⟨d, member, names⟩
    exact isSome_get?_registered done (Catalog.mem_claimed_root_iff.mpr ⟨reach, member, names⟩)
  · intro d found
    exact (Catalog.mem_claimed_root_iff.mp (claim_of_get?_registered done found)).2
  · refine Option.eq_none_iff_forall_ne_some.mpr fun d found => beyond ?_
    exact (Catalog.mem_claimed_root_iff.mp (claim_of_get?_registered done found)).1
  · intro a d member names
    exact get?_registered_strict done strict
      (Catalog.mem_claimed_root_iff.mpr ⟨reach, member, names⟩)
  · exact nodup_distinct _
  · intro d
    rw [children, mem_distinct, Ordered.mem_values_iff (nodup_keys_registered done p)]
    constructor
    · rintro ⟨key, found⟩
      exact (Catalog.mem_claimed_root_iff.mp (claim_of_get?_registered done found)).2.1
    · intro member
      have named : ∃ x ∈ (catalog.definition d).aliases, Text.lower x = Text.lower (catalog.name d) :=
        ⟨_, List.mem_cons_self, rfl⟩
      exact ⟨_, get?_registered_strict done strict
        (Catalog.mem_claimed_root_iff.mpr ⟨reach, member, named⟩)⟩

/-- A group of two commands of which one leads back to the group. -/
def leadingBack : Catalog where
  groups := #[{ members := [⟨0⟩, ⟨1⟩] }]
  definitions := #[{ name := "go", body := .nested ⟨0⟩ [] },
    { name := "stop", body := .leaf fun _ _ => .give .null }]

theorem mem_members_leadingBack {group : GroupId} {d : DefId}
    (member : d ∈ leadingBack.members group) : d = ⟨0⟩ ∨ d = ⟨1⟩ := by
  obtain ⟨index⟩ := group
  cases index with
  | zero => simpa using (show d ∈ [⟨0⟩, ⟨1⟩] from member)
  | succ n => simp [Catalog.members, Catalog.group, leadingBack] at member

theorem not_contested_leadingBack (settings : Settings) :
    ¬ Registry.Contested { settings } leadingBack ⟨none, ⟨0⟩⟩ := by
  rintro ⟨parent, key, d, e, different, hd, he⟩
  have names : ∀ {d}, Registry.Claimed { settings } leadingBack ⟨none, ⟨0⟩⟩ parent key d →
      d = ⟨0⟩ ∧ key = "go" ∨ d = ⟨1⟩ ∧ key = "stop" := by
    rintro d (found | ⟨v, -, -, member, name, named, rfl⟩)
    · rw [node_fresh] at found
      exact nomatch found
    · rcases mem_members_leadingBack member with rfl | rfl
      · rw [List.mem_singleton.mp named]
        exact .inl ⟨rfl, by decide⟩
      · rw [List.mem_singleton.mp named]
        exact .inr ⟨rfl, by decide⟩
  rcases names hd with ⟨rfl, rfl⟩ | ⟨rfl, rfl⟩
  · rcases names he with ⟨rfl, -⟩ | ⟨-, same⟩
    · exact different rfl
    · exact absurd same (by decide)
  · rcases names he with ⟨-, same⟩ | ⟨rfl, -⟩
    · exact absurd same (by decide)
    · exact different rfl

theorem register_mirrors_leadingBack :
    ∃ registration, Registry.register { settings := { strictAliases := true } } leadingBack
        (.group ⟨0⟩) none = .ok registration ∧
      registration.registry.lookup "STOP" (some ⟨0⟩) = some ⟨1⟩ ∧
      registration.registry.lookup "stop" (some ⟨1⟩) = none ∧
      ∀ d, d ∈ registration.registry.children (some ⟨0⟩) ↔ d ∈ [⟨0⟩, ⟨1⟩] := by
  have outcome : (Registry.attempt { settings := { strictAliases := true } } leadingBack
      (.group ⟨0⟩) none).outcome = .ok (leadingBack.members ⟨0⟩) := by
    rw [attempt_group _ rfl rfl, rivals_eq_nil_iff_not_contested.mpr (not_contested_leadingBack _)]
  obtain ⟨registration, done⟩ := register_of_outcome _ outcome
  obtain ⟨-, beyond, strict⟩ := register_mirrors _ _ _ _ done
  have reach : leadingBack.Reach ⟨0⟩ (some ⟨0⟩) := .nested .root (by decide) rfl
  refine ⟨registration, done, ?_, beyond (some ⟨1⟩) ?_ _, (strict rfl _ reach).2.2⟩
  · exact (strict rfl _ reach).1 "STOP" ⟨1⟩ (by decide) ⟨"stop", by decide, by decide⟩
  · intro reach
    cases reach with
    | nested _ _ isNested => exact nomatch isNested

end Registry
end CommandTree
