import CommandTree.Proofs.Casing
import CommandTree.Proofs.Consistency

/-!
Unless names are strict a command takes the names it claims from whoever had them. A name that is
held once stays held, by a command that answers to it.
-/

namespace CommandTree

namespace Catalog
variable {catalog : Catalog} {d : DefId} {key : String} {ds : List DefId}

/-- If the last definition that goes by a name has it as its canonical name, then the last help
entry under the name is the one of this definition. -/
theorem lastOf?_headings (last : catalog.lastCalled key ds = some d)
    (canonical : Text.lower (catalog.name d) = key) :
    Ordered.lastOf? key (ds.map catalog.heading) = some (catalog.definition d).synopsis := by
  induction ds using List.reverseRecOn with
  | nil => exact nomatch last
  | append_singleton ds e ih =>
    rw [lastCalled_append, lastCalled_singleton] at last
    rw [List.map_append, List.map_singleton, heading, Ordered.lastOf?_append_singleton]
    by_cases goes : catalog.GoesBy e key
    · rw [if_pos goes, Option.some_or] at last
      obtain rfl := Option.some.inj last
      rw [if_pos canonical]
    · rw [if_neg goes, Option.none_or] at last
      have different : Text.lower (catalog.name e) ≠ key := fun same => goes (same ▸ goesBy_name e)
      rw [if_neg different]
      exact ih last

theorem lastOf?_headings_eq_none (unnamed : catalog.lastCalled key ds = none) :
    Ordered.lastOf? key (ds.map catalog.heading) = none := by
  rw [Ordered.lastOf?_eq_none_iff]
  intro synopsis headed
  obtain ⟨e, member, heading⟩ := List.mem_map.mp headed
  obtain ⟨rfl, -⟩ := Prod.mk.inj heading
  exact lastCalled_eq_none_iff.mp unnamed e member (goesBy_name e)

end Catalog

namespace Registry
variable {registry : Registry} {catalog grown : Catalog} {start : Visit} {q : Parent} {key : String}
  {d : DefId}

/-! ### Held names -/

def Held (registry : Registry) (q : Parent) (key : String) : Prop :=
  ∃ d, (registry.node q).get? key = some d

theorem Held.committed (held : registry.Held q key) :
    (registry.committed catalog start).Held q key := by
  obtain ⟨d, found⟩ := held
  rw [Held, get?_committed_eq, found]
  cases catalog.lastCalled key (placedUnder q (catalog.placed start)) with
  | none => exact ⟨d, rfl⟩
  | some e => exact ⟨e, rfl⟩

theorem held_of_placed (placed : ⟨q, d⟩ ∈ catalog.placed start) {name : String}
    (named : name ∈ (catalog.definition d).aliases) :
    (registry.committed catalog start).Held q (Text.lower name) := by
  rw [Held, get?_committed_eq]
  cases last : catalog.lastCalled (Text.lower name) (placedUnder q (catalog.placed start)) with
  | none =>
    exact absurd ⟨name, named, rfl⟩
      (Catalog.lastCalled_eq_none_iff.mp last d (mem_placedUnder.mpr placed))
  | some e => exact ⟨e, rfl⟩

/-- All names of the roots, and of every command that has one of its names, are held. A root command
that has its canonical name has the help entry of the name too. -/
structure Covered (registry : Registry) (catalog : Catalog) : Prop where
  roots : ∀ d ∈ registry.roots, ∀ name ∈ (catalog.definition d).aliases,
    registry.Held none (Text.lower name)
  kin : ∀ q key d, (registry.node q).get? key = some d →
    ∀ name ∈ (catalog.definition d).aliases, registry.Held q (Text.lower name)
  captions : ∀ key d, (registry.node none).get? key = some d → Text.lower (catalog.name d) = key →
    registry.synopses.get? key = some (catalog.definition d).synopsis

theorem covered_fresh (settings : Settings) (catalog : Catalog) :
    ({ settings } : Registry).Covered catalog where
  roots _ member := nomatch member
  kin q _ _ found := by cases q <;> exact nomatch found
  captions _ _ found := nomatch found

theorem Covered.captions_committed (covered : registry.Covered catalog)
    (found : ((registry.committed catalog start).node none).get? key = some d)
    (canonical : Text.lower (catalog.name d) = key) :
    (registry.committed catalog start).synopses.get? key =
      some (catalog.definition d).synopsis := by
  have headings : (rootsAmong (catalog.placed start)).map catalog.heading =
      (placedUnder none (catalog.placed start)).map catalog.heading := rfl
  rw [get?_committed_eq] at found
  rw [synopses_committed, Ordered.get?_putAll, headings]
  cases last : catalog.lastCalled key (placedUnder none (catalog.placed start)) with
  | none =>
    rw [last] at found
    rw [Catalog.lastOf?_headings_eq_none last]
    exact covered.captions key d found canonical
  | some e =>
    rw [last] at found
    obtain rfl := Option.some.inj found
    rw [Catalog.lastOf?_headings last canonical]
    rfl

theorem Covered.committed (covered : registry.Covered catalog) :
    (registry.committed catalog start).Covered catalog where
  roots d member name named := by
    rw [roots_committed, mem_foldl_addNew, mem_rootsAmong] at member
    rcases member with before | placed
    · exact (covered.roots d before name named).committed
    · exact held_of_placed placed named
  kin q key d found name named := by
    rcases claimed_of_get?_committed found with before | claimed
    · exact (covered.kin q key d before name named).committed
    · exact held_of_placed (Catalog.mem_claimed_iff_placed.mp claimed).1 named
  captions _ _ found canonical := covered.captions_committed found canonical

theorem Covered.of_extends (covered : registry.Covered catalog)
    (consistent : registry.Consistent catalog) (extended : catalog.Extends grown) :
    registry.Covered grown := by
  have kept : ∀ d ∈ registry.definitions, grown.definition d = catalog.definition d :=
    fun d member => extended.definition d (consistent.declared d member)
  refine ⟨fun d member name named => ?_, fun q key d found name named => ?_,
    fun key d found canonical => ?_⟩
  · rw [kept d (consistent.rootsRegistered d member)] at named
    exact covered.roots d member name named
  · rw [kept d (consistent.filed q key d found).1] at named
    exact covered.kin q key d found name named
  · have same := kept d (consistent.filed none key d found).1
    rw [Catalog.name, same] at canonical
    rw [same]
    exact covered.captions key d found canonical

end Registry

namespace Host

theorem reachable_covered {h : Host} (reachable : Reachable h) : h.registry.Covered h.catalog :=
  reachable.registry_induction (P := Registry.Covered) (Registry.covered_fresh · {})
    (fun _ _ _ consistent extended covered => covered.of_extends consistent extended)
    (fun _ _ _ _ covered => covered.committed) (fun _ _ covered => { covered with })

theorem mem_children {h : Host} (reachable : Reachable h) {q : Parent} {d : DefId} :
    d ∈ h.registry.children q ↔
      ∃ name ∈ (h.catalog.definition d).aliases, h.registry.lookup name q = some d := by
  have consistent := reachable_consistent reachable
  rw [Registry.mem_children_iff (consistent.namesOnce q)]
  constructor
  · rintro ⟨key, found⟩
    obtain ⟨-, name, named, rfl⟩ := consistent.filed q key d found
    exact ⟨name, named, found⟩
  · rintro ⟨name, -, found⟩
    exact ⟨Text.lower name, found⟩

theorem exists_child_of_held {h : Host} (reachable : Reachable h) {q : Parent} {key : String}
    (held : h.registry.Held q key) :
    ∃ d ∈ h.registry.children q, (h.registry.node q).get? key = some d ∧ h.catalog.GoesBy d key := by
  obtain ⟨d, found⟩ := held
  obtain ⟨-, name, named, rfl⟩ := (reachable_consistent reachable).filed q key d found
  exact ⟨d, (mem_children reachable).mpr ⟨name, named, found⟩, found, name, named, rfl⟩

theorem root_of_child {h : Host} (reachable : Reachable h) {d : DefId}
    (member : d ∈ h.registry.children none) : d ∈ h.registry.roots := by
  obtain ⟨name, -, found⟩ := (mem_children reachable).mp member
  exact (reachable_consistent reachable).rootsFiled _ d found

def setDraft : Draft where
  aliases := .str "set"
  handler := some fun _ _ => .give .null
  desc := .str "Set blocks"

def paintDraft : Draft where
  aliases := .list [.str "paint", .str "set"]
  handler := some fun _ _ => .give .null
  desc := .str "Paint blocks"

def murals : Catalog where
  groups := #[{ members := [⟨0⟩, ⟨1⟩] }]
  definitions := #[
    { name := "set", desc := .str "Set blocks", body := .leaf fun _ _ => .give .null },
    { name := "paint", synonyms := ["set"], desc := .str "Paint blocks"
      body := .leaf fun _ _ => .give .null }]

/-- The second command takes the only name of the first. -/
def muralist : Host where
  catalog := murals
  registry := Registry.committed {} murals ⟨none, ⟨0⟩⟩

theorem reachable_muralist : muralist.Reachable := by
  let empty : Host := { registry := {} }
  let grouped : Catalog := { groups := #[{}] }
  let begun : Catalog := ⟨#[{ members := [⟨0⟩] }], #[murals.definition ⟨0⟩]⟩
  have grouping : Reachable { empty with catalog := grouped } :=
    (Reachable.fresh {}).step (.group _ (.str ""))
  have set : grouped.command ⟨0⟩ setDraft .null = .ok (⟨0⟩, begun) := rfl
  have paint : begun.command ⟨0⟩ paintDraft .null = .ok (⟨1⟩, murals) := rfl
  have declaring : Reachable { empty with catalog := murals } :=
    (grouping.step (.command ⟨⟨0, rfl⟩, ⟨-1, rfl⟩, _, rfl⟩ set)).step
      (.command ⟨⟨0, rfl⟩, ⟨-1, rfl⟩, _, rfl⟩ paint)
  have registering := declaring.step (.register _ (.group ⟨0⟩) none)
  rwa [(Registry.attempt_of_lenient rfl rfl rfl).2] at registering

end Host

/-- Every help entry stands under a name that a root command has. If the name is canonical for that
command the entry is its own. All names of a root command stay with root commands that answer to
them, and it is a child of the root while one of them is still its own. -/
theorem Registry.root_listing {h : Host} (reachable : Host.Reachable h) :
    (∀ key synopsis, (key, synopsis) ∈ h.registry.synopses.entries →
      ∃ d ∈ h.registry.roots, h.registry.lookup key none = some d ∧ h.catalog.GoesBy d key ∧
        (Text.lower (h.catalog.name d) = key → (h.catalog.definition d).synopsis = synopsis)) ∧
    (∀ d ∈ h.registry.roots, ∀ name ∈ (h.catalog.definition d).aliases, ∃ e ∈ h.registry.roots,
      h.registry.lookup name none = some e ∧ h.catalog.GoesBy e (Text.lower name)) ∧
    ∀ d, d ∈ h.registry.children none ↔ d ∈ h.registry.roots ∧
      ∃ name ∈ (h.catalog.definition d).aliases, h.registry.lookup name none = some d := by
  have consistent := Host.reachable_consistent reachable
  have covered := Host.reachable_covered reachable
  refine ⟨fun key synopsis entry => ?_, fun d member name named => ?_, fun d => ?_⟩
  · have headed := (Ordered.get?_eq_some_iff consistent.headingsOnce).mpr entry
    obtain ⟨first, member, heading⟩ := consistent.headings key synopsis headed
    obtain ⟨lowered, -⟩ := Prod.mk.inj heading
    have settled : Text.lower key = key := by
      rw [← lowered]
      exact Text.lower_lower _
    have held : h.registry.Held none key := by
      rw [← lowered]
      exact covered.roots first member _ List.mem_cons_self
    obtain ⟨d, child, found, goes⟩ := Host.exists_child_of_held reachable held
    refine ⟨d, Host.root_of_child reachable child, ?_, goes, fun canonical => ?_⟩
    · rw [lookup, settled]
      exact found
    · have caption := covered.captions key d found canonical
      rw [headed] at caption
      exact (Option.some.inj caption).symm
  · obtain ⟨e, child, found, goes⟩ :=
      Host.exists_child_of_held reachable (covered.roots d member name named)
    exact ⟨e, Host.root_of_child reachable child, found, goes⟩
  · rw [Host.mem_children reachable]
    refine ⟨fun named => ⟨?_, named⟩, And.right⟩
    exact Host.root_of_child reachable ((Host.mem_children reachable).mpr named)

theorem Registry.root_listing_muralist :
    ∃ d ∈ Host.muralist.registry.roots, Host.muralist.registry.lookup "paint" none = some d ∧
      Host.murals.GoesBy d "paint" ∧ d ∈ Host.muralist.registry.children none ∧
      (Host.murals.definition d).synopsis = .str "Paint blocks" := by
  obtain ⟨entries, -, children⟩ := Registry.root_listing Host.reachable_muralist
  have entry : ("paint", Value.str "Paint blocks") ∈ Host.muralist.registry.synopses.entries := by
    have listed : Host.muralist.registry.synopses.entries =
        [("set", .str "Set blocks"), ("paint", .str "Paint blocks")] := by with_unfolding_all rfl
    rw [listed]
    exact List.mem_cons_of_mem _ List.mem_cons_self
  obtain ⟨d, root, found, goes, own⟩ := entries _ _ entry
  have paint : Host.muralist.registry.lookup "paint" none = some ⟨1⟩ := by decide +kernel
  obtain rfl := Option.some.inj (found.symm.trans paint)
  have named : "paint" ∈ (Host.murals.definition ⟨1⟩).aliases := List.mem_cons_self
  exact ⟨_, root, found, goes, (children _).mpr ⟨root, "paint", named, found⟩, own rfl⟩

/-- The help entry of a name may show a command that has lost it, and a root command may have lost
every name. -/
theorem Registry.root_listing_stale :
    Host.Reachable Host.muralist ∧ Host.muralist.registry.settings.strictAliases = false ∧
      ("set", .str "Set blocks") ∈ Host.muralist.registry.synopses.entries ∧
      Host.muralist.registry.lookup "set" none = some ⟨1⟩ ∧
      Text.lower (Host.muralist.catalog.name ⟨1⟩) ≠ "set" ∧
      (Host.muralist.catalog.definition ⟨1⟩).synopsis ≠ .str "Set blocks" ∧
      ⟨0⟩ ∈ Host.muralist.registry.roots ∧
      ∀ name ∈ (Host.muralist.catalog.definition ⟨0⟩).aliases,
        Host.muralist.registry.lookup name none ≠ some ⟨0⟩ := by
  have listed : Host.muralist.registry.synopses.entries =
      [("set", .str "Set blocks"), ("paint", .str "Paint blocks")] := by with_unfolding_all rfl
  have roots : Host.muralist.registry.roots = [⟨0⟩, ⟨1⟩] := by decide +kernel
  have taken : Host.muralist.registry.lookup "set" none = some ⟨1⟩ := by decide +kernel
  refine ⟨Host.reachable_muralist, by decide +kernel, ?_, taken, by decide,
    fun same => absurd (Value.str.inj same) (by decide), ?_, ?_⟩
  · rw [listed]
    exact List.mem_cons_self
  · rw [roots]
    exact List.mem_cons_self
  · intro name named
    obtain rfl := List.mem_singleton.mp named
    exact fun kept => absurd (taken.symm.trans kept) (by decide)

end CommandTree
