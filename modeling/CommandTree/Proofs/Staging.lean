import CommandTree.Proofs.Ordered
import CommandTree.Proofs.Walk
import CommandTree.Registry

namespace CommandTree

theorem Catalog.mem_claims {catalog : Catalog} {p : Placement} {c : Claim} :
    c ∈ catalog.claims p ↔ c.parent = p.parent ∧ c.holder = p.definition ∧
      ∃ name ∈ (catalog.definition p.definition).aliases, Text.lower name = c.key := by
  simp only [claims, List.mem_map]
  constructor
  · rintro ⟨name, member, rfl⟩
    exact ⟨rfl, rfl, name, member, rfl⟩
  · rintro ⟨parent, holder, name, member, key⟩
    exact ⟨name, member, by rw [← parent, ← holder, key]⟩

theorem Catalog.mem_claimed_iff_placed {catalog : Catalog} {start : Visit} {c : Claim} :
    c ∈ catalog.claimed start ↔ ⟨c.parent, c.holder⟩ ∈ catalog.placed start ∧
      ∃ name ∈ (catalog.definition c.holder).aliases, Text.lower name = c.key := by
  simp only [claimed, List.mem_flatMap, mem_claims]
  constructor
  · rintro ⟨p, placed, parent, holder, names⟩
    rw [parent, holder]
    exact ⟨placed, names⟩
  · rintro ⟨placed, names⟩
    exact ⟨_, placed, rfl, rfl, names⟩

theorem Catalog.mem_claimed {catalog : Catalog} {start : Visit} {c : Claim} :
    c ∈ catalog.claimed start ↔ ∃ v, catalog.Meets [] start v ∧ c.parent = v.parent ∧
      c.holder ∈ catalog.members v.group ∧
        ∃ name ∈ (catalog.definition c.holder).aliases, Text.lower name = c.key := by
  simp only [claimed, List.mem_flatMap, mem_placed, mem_claims, mem_placementsOf]
  constructor
  · rintro ⟨p, ⟨v, met, parent, member⟩, same, holder, names⟩
    exact ⟨v, met, same.trans parent, holder ▸ member, holder ▸ names⟩
  · rintro ⟨v, met, parent, member, names⟩
    exact ⟨⟨c.parent, c.holder⟩, ⟨v, met, parent, member⟩, rfl, rfl, names⟩

namespace Staging
variable (staging : Staging)

theorem claimsUnder_claim (c : Claim) (parent : Parent) :
    (staging.claim c).claimsUnder parent =
      staging.claimsUnder parent ++ if c.parent = parent then [(c.key, c.holder)] else [] := by
  unfold claimsUnder claim
  rw [Ordered.get?_put]
  by_cases same : c.parent = parent
  · simp [claimsUnder, same]
  · simp [same, Ne.symm same]

theorem holder?_claim (c : Claim) (parent : Parent) (key : String) :
    (staging.claim c).holder? parent key =
      if c.parent = parent ∧ c.key = key then some c.holder else staging.holder? parent key := by
  unfold holder?
  rw [claimsUnder_claim]
  by_cases same : c.parent = parent
  · simp [same, Ordered.lastOf?_append_singleton]
  · simp [same]

theorem nodup_keys_claim (once : staging.keys.Nodup) (c : Claim) : (staging.claim c).keys.Nodup :=
  Ordered.nodup_keys_put once _ _

theorem nodup_keys_claimAll (once : staging.keys.Nodup) (claims : List Claim) :
    (claims.foldl claim staging).keys.Nodup := by
  induction claims generalizing staging with
  | nil => exact once
  | cons c claims ih => exact ih (staging.claim c) (staging.nodup_keys_claim once c)

def of (claims : List Claim) : Staging := claims.foldl claim ∅

theorem nodup_keys_of (claims : List Claim) : (of claims).keys.Nodup :=
  nodup_keys_claimAll _ Ordered.nodup_keys_empty claims

theorem claimsUnder_claimAll (claims : List Claim) (parent : Parent) :
    (claims.foldl claim staging).claimsUnder parent = staging.claimsUnder parent ++
      (claims.filter (·.parent = parent)).map fun c => (c.key, c.holder) := by
  induction claims generalizing staging with
  | nil => simp
  | cons c claims ih =>
    rw [List.foldl_cons, ih, claimsUnder_claim]
    by_cases same : c.parent = parent <;> simp [same]

theorem claimsUnder_of (claims : List Claim) (parent : Parent) :
    (of claims).claimsUnder parent =
      (claims.filter (·.parent = parent)).map fun c => (c.key, c.holder) :=
  claimsUnder_claimAll ∅ claims parent

theorem mem_claimsUnder_of {claims : List Claim} {parent : Parent} {key : String} {d : DefId} :
    (key, d) ∈ (of claims).claimsUnder parent ↔ ⟨parent, key, d⟩ ∈ claims := by
  simp only [claimsUnder_of, List.mem_map, List.mem_filter, Prod.mk.injEq, decide_eq_true_eq]
  constructor
  · rintro ⟨c, ⟨member, rfl⟩, rfl, rfl⟩
    exact member
  · exact fun member => ⟨_, ⟨member, rfl⟩, rfl, rfl⟩

end Staging

namespace Registry
variable (registry : Registry)

theorem node_fileUnder (parent other : Parent) (claims : List (String × DefId)) :
    (registry.fileUnder parent claims).node other =
      if other = parent then (registry.node parent).putAll claims else registry.node other := by
  simp only [node, fileUnder, Ordered.get?_put]
  split <;> rfl

theorem node_ensure (parent other : Parent) :
    ((registry.nodes.ensure parent ∅).get? other).getD ∅ = registry.node other := by
  unfold Ordered.ensure node
  split
  · rfl
  · rename_i absent
    rw [Ordered.get?_put]
    split <;> rename_i same
    · rw [same, Option.not_isSome_iff_eq_none.mp absent]
      rfl
    · rfl

/-- Entering a definition may give it a node, but changes nothing that stands in a node. -/
theorem node_enter (catalog : Catalog) (p : Placement) (parent : Parent) :
    (enter catalog registry p).node parent = registry.node parent := by
  have housed : ∀ r : Registry, r.nodes = registry.nodes ∨
      r.nodes = registry.nodes.ensure (some p.definition) ∅ → r.node parent = registry.node parent := by
    rintro r (same | same)
    · rw [node, same, node]
    · rw [node, same, node_ensure]
  apply housed
  unfold enter
  by_cases nested : (catalog.definition p.definition).isNested = true
  · exact .inr (by cases p.parent <;> simp [nested])
  · exact .inl (by cases p.parent <;> simp [nested])

theorem node_enterAll (catalog : Catalog) (placements : List Placement) (parent : Parent) :
    (placements.foldl (enter catalog) registry).node parent = registry.node parent := by
  induction placements generalizing registry with
  | nil => rfl
  | cons p placements ih => rw [List.foldl_cons, ih, node_enter]

theorem node_fileAll (entries : List (Parent × List (String × DefId)))
    (once : (entries.map (·.1)).Nodup) (parent : Parent) :
    (entries.foldl (fun r (parent, claims) => r.fileUnder parent claims) registry).node parent =
      (registry.node parent).putAll ((Ordered.find? parent entries).getD []) := by
  induction entries generalizing registry with
  | nil => rfl
  | cons entry entries ih =>
    obtain ⟨first, claims⟩ := entry
    obtain ⟨fresh, once⟩ := List.nodup_cons.mp once
    rw [List.foldl_cons, ih _ once]
    by_cases same : parent = first
    · subst same
      have absent : Ordered.find? parent entries = none := by
        refine Option.eq_none_iff_forall_ne_some.mpr fun claims found => fresh ?_
        exact List.mem_map.mpr ⟨_, Ordered.mem_of_find? found, rfl⟩
      simp [absent, node_fileUnder, Ordered.find?, Ordered.putAll]
    · simp [node_fileUnder, same, Ordered.find?, Ne.symm same]

theorem node_commit (catalog : Catalog) (placements : List Placement) {staging : Staging}
    (once : staging.keys.Nodup) (parent : Parent) :
    (registry.commit catalog placements staging).node parent =
      (registry.node parent).putAll (staging.claimsUnder parent) := by
  unfold commit
  rw [node_enterAll, node_fileAll _ _ once]
  rfl

end Registry
end CommandTree
