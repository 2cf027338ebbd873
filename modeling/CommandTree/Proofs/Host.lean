import CommandTree.Proofs.Declaration
import CommandTree.Registry

/-!
A host declares groups and commands, adds commands to groups, registers groups, with success or not,
and freezes the registry, in any order.
-/

namespace CommandTree

structure Draft.IsTyped (draft : Draft) : Prop where
  minArgs : ∃ n, draft.minArgs = .int n
  maxArgs : ∃ n, draft.maxArgs = .int n
  usage : ∃ s, draft.usage = .str s

/-- A definition that takes at least and at most some whole numbers of arguments, or any number from
the least on if the most is minus one. -/
structure Definition.IsTyped (d : Definition) (least most : Int) (usage : String) : Prop where
  minArgs : d.minArgs = .int least
  maxArgs : d.maxArgs = .int most
  usage : d.usage = .str usage
  valid : -1 ≤ most
  bounds : d.bounds = ⟨Bounds.leastOf (.ofInt least), Bounds.mostOf (.ofInt most)⟩

namespace Definition
variable {d : Definition} {least most : Int} {usage : String}

theorem isTyped_default : (default : Definition).IsTyped 0 (-1) "" :=
  ⟨rfl, rfl, rfl, by decide, rfl⟩

theorem isTyped_of_check {catalog : Catalog} {draft : Draft} (typed : draft.IsTyped)
    (done : draft.check catalog = .ok d) : ∃ least most usage, d.IsTyped least most usage := by
  obtain ⟨⟨least, minArgs⟩, ⟨most, maxArgs⟩, usage, text⟩ := typed
  have passed := Draft.check_ok done
  have bounded := passed.bounds
  rw [minArgs, maxArgs] at bounded
  obtain ⟨-, valid, -, bounds⟩ := Draft.checkBounds_int_iff.mp bounded
  exact ⟨least, most, usage, passed.minArgs.trans minArgs, passed.maxArgs.trans maxArgs,
    passed.usage.trans text, valid, bounds⟩

theorem IsTyped.isReached_iff (typed : d.IsTyped least most usage) (n : Nat) :
    d.bounds.least.isReached n = true ↔ least ≤ n := by
  rw [typed.bounds, Bounds.isReached_leastOf_ofInt]

theorem IsTyped.isKept_iff (typed : d.IsTyped least most usage) (n : Nat) :
    d.bounds.most.isKept n = true ↔ most = -1 ∨ n ≤ most := by
  rw [typed.bounds, Bounds.isKept_mostOf_ofInt typed.valid]

end Definition

structure Host where
  catalog : Catalog := {}
  registry : Registry

namespace Host

inductive Step : Host → Host → Prop where
  | group (h : Host) (name : Value) : Step h { h with catalog := (h.catalog.newGroup name).2 }
  | command {h : Host} {group : GroupId} {draft : Draft} {documentation : Value} {d : DefId}
      {catalog : Catalog} (typed : draft.IsTyped)
      (done : h.catalog.command group draft documentation = .ok (d, catalog)) :
      Step h { h with catalog }
  | nest {h : Host} {group : GroupId} {draft : Draft} {d : DefId} {catalog : Catalog}
      (typed : draft.IsTyped) (done : h.catalog.nest group draft = .ok (d, catalog)) :
      Step h { h with catalog }
  | define {h : Host} {draft : Draft} {d : DefId} {catalog : Catalog} (typed : draft.IsTyped)
      (done : h.catalog.declareAlone draft = .ok (d, catalog)) : Step h { h with catalog }
  | add (h : Host) (group : GroupId) {d : DefId} (declared : d.index < h.catalog.definitions.size) :
      Step h { h with catalog := h.catalog.add group d }
  | register (h : Host) (provider : Provider) (parent : Parent) :
      Step h { h with registry := (h.registry.attempt h.catalog provider parent).registry }
  | freeze (h : Host) : Step h { h with registry := h.registry.freeze.1 }

inductive Reachable : Host → Prop where
  | fresh (settings : Settings) : Reachable { registry := { settings } }
  | step {h next : Host} : Reachable h → Step h next → Reachable next

end Host

namespace Catalog
variable {catalog : Catalog}

theorem definition_define (d : Definition) (id : DefId) :
    (catalog.define d).2.definition id =
      if id.index = catalog.definitions.size then d else catalog.definition id := by
  simp only [define, definition, Array.getElem?_push]
  split <;> rfl

/-- The bounds of every definition are integers, and its usage is a text. -/
def IsTyped (catalog : Catalog) : Prop :=
  ∀ id, ∃ least most usage, (catalog.definition id).IsTyped least most usage

theorem isTyped_define (typed : catalog.IsTyped) {d : Definition}
    (new : ∃ least most usage, d.IsTyped least most usage) : (catalog.define d).2.IsTyped := by
  intro id
  rw [definition_define]
  split
  · exact new
  · exact typed id

theorem isTyped_declare (typed : catalog.IsTyped) (group : GroupId) {d : Definition}
    (new : ∃ least most usage, d.IsTyped least most usage) : (catalog.declare group d).2.IsTyped :=
  isTyped_define typed new

end Catalog

/-- What a step of a host can do to its catalog. Definitions come from drafts that pass their
checks. -/
inductive Catalog.Grows : Catalog → Catalog → Prop where
  | same (catalog : Catalog) : Grows catalog catalog
  | group (catalog : Catalog) (name : Value) : Grows catalog (catalog.newGroup name).2
  | declare {catalog : Catalog} {draft : Draft} {d : Definition} (group : GroupId)
      (typed : draft.IsTyped) (checked : draft.check catalog = .ok d) :
      Grows catalog (catalog.declare group d).2
  | define {catalog : Catalog} {draft : Draft} {d : Definition} (typed : draft.IsTyped)
      (checked : draft.check catalog = .ok d) : Grows catalog (catalog.define d).2
  | add {catalog : Catalog} {d : DefId} (group : GroupId)
      (declared : d.index < catalog.definitions.size) : Grows catalog (catalog.add group d)

namespace Host

theorem Step.grows {h next : Host} (step : Step h next) : Catalog.Grows h.catalog next.catalog := by
  cases step with
  | group name => exact .group _ name
  | @command group draft _ _ _ typed done =>
    obtain ⟨desc, d, -, checked, same⟩ := Catalog.command_ok done
    have described : ({ draft with desc } : Draft).IsTyped :=
      ⟨typed.minArgs, typed.maxArgs, typed.usage⟩
    have grown := Catalog.Grows.declare group described checked
    rwa [same] at grown
  | @nest group _ _ _ typed done =>
    obtain ⟨d, -, checked, same⟩ := Catalog.nest_ok done
    have grown := Catalog.Grows.declare group typed checked
    rwa [same] at grown
  | define typed done =>
    obtain ⟨d, checked, same⟩ := Catalog.declareAlone_ok done
    have grown := Catalog.Grows.define typed checked
    rwa [same] at grown
  | add group declared => exact .add group declared
  | register provider parent => exact .same _
  | freeze => exact .same _

theorem step_cases {h next : Host} (step : Step h next) :
    (∃ catalog, h.catalog.Grows catalog ∧ next = { h with catalog }) ∨
    (∃ provider parent, next =
      { h with registry := (h.registry.attempt h.catalog provider parent).registry }) ∨
    next = { h with registry := h.registry.freeze.1 } := by
  have grows := step.grows
  cases step with
  | register provider parent => exact .inr (.inl ⟨provider, parent, rfl⟩)
  | freeze => exact .inr (.inr rfl)
  | group => exact .inl ⟨_, grows, rfl⟩
  | command => exact .inl ⟨_, grows, rfl⟩
  | nest => exact .inl ⟨_, grows, rfl⟩
  | define => exact .inl ⟨_, grows, rfl⟩
  | add => exact .inl ⟨_, grows, rfl⟩

theorem Reachable.catalog_induction {P : Catalog → Prop} {h : Host} (reachable : Reachable h)
    (empty : P {}) (grows : ∀ before after, P before → Catalog.Grows before after → P after) :
    P h.catalog := by
  induction reachable with
  | fresh settings => exact empty
  | step _ step ih => exact grows _ _ ih step.grows

end Host

theorem Catalog.Grows.isTyped {before after : Catalog} (typed : before.IsTyped)
    (grows : Grows before after) : after.IsTyped := by
  cases grows with
  | same => exact typed
  | group name => exact typed
  | declare group draftTyped checked =>
    exact isTyped_declare typed group (Definition.isTyped_of_check draftTyped checked)
  | define draftTyped checked =>
    exact isTyped_define typed (Definition.isTyped_of_check draftTyped checked)
  | add group declared => exact typed

theorem Host.reachable_isTyped {h : Host} (reachable : Reachable h) : h.catalog.IsTyped :=
  reachable.catalog_induction (fun _ => ⟨0, -1, "", Definition.isTyped_default⟩)
    fun _ _ => Catalog.Grows.isTyped

end CommandTree
