import CommandTree.Proofs.Committing
import CommandTree.Proofs.Naming

/-!
A host adds to the end of groups and never changes a definition. What a group claims is therefore
still claimed when the catalog has grown.
-/

namespace CommandTree.Catalog

/-- A later catalog has the definitions of an earlier one, and what its groups list at the front. -/
structure Extends (before after : Catalog) : Prop where
  size : before.definitions.size ≤ after.definitions.size
  definition : ∀ d : DefId, d.index < before.definitions.size →
    after.definition d = before.definition d
  members : ∀ g, before.members g <+: after.members g

variable {before after catalog : Catalog}

theorem extends_refl (catalog : Catalog) : Extends catalog catalog :=
  ⟨Nat.le_refl _, fun _ _ => rfl, fun _ => List.prefix_rfl⟩

theorem Extends.trans {later : Catalog} (first : Extends before after)
    (second : Extends after later) : Extends before later where
  size := Nat.le_trans first.size second.size
  definition d inside := by
    rw [second.definition d (Nat.lt_of_lt_of_le inside first.size), first.definition d inside]
  members g := (first.members g).trans (second.members g)

theorem extends_newGroup (name : Value) : Extends catalog (catalog.newGroup name).2 where
  size := Nat.le_refl _
  definition _ _ := rfl
  members g := by
    simp only [members, group, newGroup, Array.getElem?_push]
    split <;> rename_i new
    · simp [new]
    · exact List.prefix_rfl

theorem extends_define (d : Definition) : Extends catalog (catalog.define d).2 where
  size := by
    rw [size_define]
    exact Nat.le_succ _
  definition e inside := by
    rw [definition_define, if_neg (Nat.ne_of_lt inside)]
  members _ := List.prefix_rfl

theorem extends_add (id : GroupId) (d : DefId) : Extends catalog (catalog.add id d) where
  size := Nat.le_refl _
  definition _ _ := rfl
  members g := by
    simp only [members, group, add, Array.getElem?_modify]
    split
    · cases catalog.groups[g.index]? with
      | none => exact List.prefix_rfl
      | some there => exact List.prefix_append _ _
    · exact List.prefix_rfl

theorem extends_declare (id : GroupId) (d : Definition) :
    Extends catalog (catalog.declare id d).2 := (extends_define d).trans (extends_add id _)

theorem Grows.extends (grows : Grows before after) : Extends before after := by
  cases grows with
  | same => exact extends_refl before
  | group name => exact extends_newGroup name
  | declare group _ _ => exact extends_declare group _
  | define _ _ => exact extends_define _
  | add group _ => exact extends_add group _

namespace Extends
variable (grown : Extends before after) {seen : List Visit} {start v : Visit}
include grown

theorem heading {d : DefId} (inside : d.index < before.definitions.size) :
    after.heading d = before.heading d := by
  rw [Catalog.heading, Catalog.heading, Catalog.name, Catalog.name, grown.definition d inside]

theorem mem_visitsBelow {d : DefId} {w : Visit} (below : w ∈ before.visitsBelow d) :
    w ∈ after.visitsBelow d := by
  rw [visitsBelow, grown.definition d (index_lt_of_visitsBelow below)]
  exact below

theorem meets (met : before.Meets seen start v) : after.Meets seen start v := by
  induction met with
  | start unseen => exact .start unseen
  | next _ leads unseen ih =>
    obtain ⟨d, member, below⟩ := leads
    exact .next ih ⟨d, (grown.members _).subset member, grown.mem_visitsBelow below⟩ unseen

theorem claimed (named : before.IsNamed) {c : Claim} (claimed : c ∈ before.claimed start) :
    c ∈ after.claimed start := by
  obtain ⟨v, met, parent, member, names⟩ := mem_claimed.mp claimed
  have kept := grown.definition _ (named.inside _ _ member)
  rw [← kept] at names
  exact mem_claimed.mpr ⟨v, grown.meets met, parent, (grown.members _).subset member, names⟩

end Extends
end CommandTree.Catalog
