import CommandTree.Proofs.RootViews
import CommandTree.Proofs.Takeovers

namespace CommandTree

section Lists
variable {α β : Type} [DecidableEq α] [DecidableEq β] {x y : α} {xs ys : List α}

/-- An item stands in a list before another comes there for the first time. -/
def Precedes (x y : α) (xs : List α) : Prop :=
  ∃ before after, xs = before ++ y :: after ∧ x ∈ before ∧ y ∉ before

omit [DecidableEq α] in
theorem Precedes.mem_and_ne (precedes : Precedes x y xs) : x ∈ xs ∧ x ≠ y := by
  obtain ⟨before, after, rfl, earlier, absent⟩ := precedes
  refine ⟨List.mem_append_left _ earlier, ?_⟩
  rintro rfl
  exact absent earlier

omit [DecidableEq α] in
theorem precedes_append (earlier : x ∈ xs) (absent : y ∉ xs) (later : y ∈ ys) :
    Precedes x y (xs ++ ys) := by
  obtain ⟨between, after, rfl, fresh⟩ := List.eq_append_cons_of_mem later
  refine ⟨xs ++ between, after, (List.append_assoc ..).symm, List.mem_append_left _ earlier, ?_⟩
  rw [List.mem_append]
  rintro (there | there)
  · exact absent there
  · exact fresh there

theorem Precedes.distinct (precedes : Precedes x y xs) : Precedes x y (distinct xs) := by
  obtain ⟨before, after, rfl, earlier, absent⟩ := precedes
  obtain ⟨rest, same⟩ := prefix_foldl_addNew (CommandTree.distinct before) (y :: after)
  have split : CommandTree.distinct (before ++ y :: after) =
      CommandTree.distinct before ++ rest := by
    rw [same, CommandTree.distinct, List.foldl_append]
    rfl
  have absent' : y ∉ CommandTree.distinct before := mt mem_distinct.mp absent
  have there : y ∈ CommandTree.distinct before ++ rest := by
    rw [← split, mem_distinct]
    simp
  rw [split]
  exact precedes_append (mem_distinct.mpr earlier) absent'
    ((List.mem_append.mp there).resolve_left absent')

theorem distinct_filterMap_distinct (f : α → Option β) (xs : List α) :
    distinct ((distinct xs).filterMap f) = distinct (xs.filterMap f) := by
  induction xs using List.reverseRecOn with
  | nil => rfl
  | append_singleton xs x ih =>
    have last : distinct ((xs ++ [x]).filterMap f) =
        ([x].filterMap f).foldl addNew (distinct (xs.filterMap f)) := by
      rw [List.filterMap_append, distinct, List.foldl_append]
      rfl
    rw [last, distinct_append_singleton, addNew]
    by_cases known : x ∈ distinct xs
    · -- A repetition leads to what is there already.
      have led : ∀ y ∈ [x].filterMap f, y ∈ distinct (xs.filterMap f) := by
        intro y member
        obtain ⟨_, same, leads⟩ := List.mem_filterMap.mp member
        obtain rfl := List.mem_singleton.mp same
        exact mem_distinct.mpr (List.mem_filterMap.mpr ⟨_, mem_distinct.mp known, leads⟩)
      rw [if_pos known, ih, foldl_addNew_of_known led]
    · rw [if_neg known, List.filterMap_append, distinct, List.foldl_append, ← ih]
      rfl

end Lists

namespace Ordered
variable {α β : Type} [DecidableEq α]

theorem putAll_append (m : Ordered α β) (first second : List (α × β)) :
    m.putAll (first ++ second) = (m.putAll first).putAll second :=
  List.foldl_append

theorem values_eq {m : Ordered α β} (once : m.keys.Nodup) : m.values = m.keys.filterMap m.get? := by
  have unpaired : ∀ k, ((m.get? k).map (k, ·)).map (·.2) = m.get? k := by
    intro k
    cases m.get? k <;> rfl
  rw [values, entries_eq once, List.map_filterMap]
  simp only [unpaired]

end Ordered

/-! ### What came to a registry -/

namespace Host

theorem Reachable.grow {h : Host} {catalog : Catalog} (reachable : Reachable h)
    (grows : h.catalog.Grows catalog) : Reachable { h with catalog } := by
  have alone : ∀ {draft d}, draft.check h.catalog = .ok d →
      h.catalog.declareAlone draft = .ok (h.catalog.define d) := by
    intro draft d checked
    rw [Catalog.declareAlone, checked]
    rfl
  cases grows with
  | same => exact reachable
  | group name => exact reachable.step (.group h name)
  | define typed checked => exact reachable.step (.define typed (alone checked))
  | @declare draft d group typed checked =>
    -- A definition that is declared in a group can as well be added to it afterwards.
    have inside : h.catalog.definitions.size < (h.catalog.define d).2.definitions.size := by
      rw [Catalog.size_define]
      omega
    exact (reachable.step (.define typed (alone checked))).step (.add _ group inside)
  | add group declared => exact reachable.step (.add h group declared)

/-- The states that a host can reach, with all that was placed on the way, in order. A registration
that fails changes nothing. -/
inductive Chronicle : Host → List Placement → Prop where
  | fresh (settings : Settings) : Chronicle { registry := { settings } } []
  | grow {h : Host} {history : List Placement} {catalog : Catalog} (before : Chronicle h history)
      (grows : h.catalog.Grows catalog) : Chronicle { h with catalog } history
  | register {h : Host} {history : List Placement} {group : GroupId} {parent : Parent}
      {ds : List DefId} (before : Chronicle h history)
      (done : (h.registry.attempt h.catalog (.group group) parent).outcome = .ok ds) :
      Chronicle { h with registry := (h.registry.attempt h.catalog (.group group) parent).registry }
        (history ++ h.catalog.placed ⟨parent, group⟩)
  | freeze {h : Host} {history : List Placement} (before : Chronicle h history) :
      Chronicle { h with registry := h.registry.freeze.1 } history

theorem exists_chronicle {h : Host} (reachable : Reachable h) : ∃ history, Chronicle h history := by
  induction reachable with
  | fresh settings => exact ⟨[], .fresh settings⟩
  | @step h next _ step ih =>
    obtain ⟨history, chronicle⟩ := ih
    obtain ⟨catalog, grows, rfl⟩ | ⟨provider, parent, rfl⟩ | rfl := step_cases step
    · exact ⟨history, chronicle.grow grows⟩
    · cases outcome : (h.registry.attempt h.catalog provider parent).outcome with
      | error fault =>
        rw [Registry.attempt_atomic h.registry outcome]
        exact ⟨history, chronicle⟩
      | ok ds =>
        obtain ⟨group, rfl, -⟩ := Registry.attempt_ok h.registry outcome
        exact ⟨_, chronicle.register outcome⟩
    · exact ⟨history, chronicle.freeze⟩

namespace Chronicle
variable {h : Host} {history : List Placement} (chronicle : Chronicle h history)
include chronicle

theorem reachable : Reachable h := by
  induction chronicle with
  | fresh settings => exact .fresh settings
  | grow _ grows ih => exact ih.grow grows
  | register _ _ ih => exact ih.step (.register _ _ _)
  | freeze _ ih => exact ih.step (.freeze _)

theorem named : h.catalog.IsNamed := by
  induction chronicle with
  | fresh => exact Catalog.isNamed_empty
  | grow _ grows ih => exact grows.isNamed ih
  | register _ _ ih => exact ih
  | freeze _ ih => exact ih

theorem inside : ∀ p ∈ history, p.definition.index < h.catalog.definitions.size := by
  induction chronicle with
  | fresh => exact fun _ member => nomatch member
  | grow _ grows ih =>
    intro p member
    exact Nat.lt_of_lt_of_le (ih p member) grows.extends.size
  | register before _ ih =>
    intro p member
    rcases List.mem_append.mp member with earlier | placed
    · exact ih p earlier
    · exact before.named.of_placed placed
  | freeze _ ih => exact ih

theorem node_eq (q : Parent) : h.registry.node q =
    Ordered.putAll ∅ ((placedUnder q history).flatMap h.catalog.filings) := by
  induction chronicle with
  | fresh settings => exact Registry.node_fresh settings q
  | @grow h history catalog before grows ih =>
    -- What was placed is declared already, and stays as it is.
    have kept : ∀ d ∈ placedUnder q history, catalog.filings d = h.catalog.filings d := by
      intro d placed
      have inside := before.inside _ (mem_placedUnder.mp placed)
      rw [Catalog.filings, Catalog.filings, grows.extends.definition d inside]
    rw [List.flatMap_congr kept]
    exact ih
  | @register h history group parent ds _ done ih =>
    have grown := Registry.node_attempt h.registry done q
    rw [Catalog.claimsUnder_claimed, ih, ← Ordered.putAll_append, ← List.flatMap_append,
      ← placedUnder_append] at grown
    exact grown
  | @freeze h history before ih =>
    have kept : h.registry.freeze.1.node q = h.registry.node q := by
      unfold Registry.freeze
      split <;> rfl
    rw [kept, ih]

theorem children_of_strict (strict : h.registry.settings.strictAliases = true) (q : Parent) :
    h.registry.children q = distinct (placedUnder q history) := by
  induction chronicle with
  | fresh settings => cases q <;> rfl
  | grow _ _ ih => exact ih strict
  | @register h history group parent ds _ done ih =>
    rw [Registry.settings_attempt] at strict
    obtain ⟨_, same, -, -, -, calm, grown⟩ := Registry.attempt_ok h.registry done
    obtain rfl := Provider.group.inj same
    have unrivalled := Registry.rivals_eq_nil_iff_not_contested.mp (calm strict)
    have listed := Registry.children_committed unrivalled q
    rw [ih strict, distinct, ← List.foldl_append, ← placedUnder_append] at listed
    rw [grown]
    exact listed
  | @freeze h history before ih =>
    unfold Registry.freeze at strict ⊢
    split at strict <;> rename_i frozen
    · rw [if_pos frozen]
      exact ih strict
    · rw [if_neg frozen]
      exact ih strict

theorem children_eq (q : Parent) : h.registry.children q = distinct
    (((placedUnder q history).flatMap fun d => (h.catalog.definition d).aliases).filterMap
      (h.registry.lookup · q)) := by
  have once : (h.registry.node q).keys.Nodup := by
    rw [chronicle.node_eq]
    exact Ordered.nodup_keys_putAll Ordered.nodup_keys_empty _
  have keys : (h.registry.node q).keys = distinct
      (((placedUnder q history).flatMap fun d => (h.catalog.definition d).aliases).map
        Text.lower) := by
    rw [chronicle.node_eq, Ordered.keys_putAll, List.map_flatMap, List.map_flatMap]
    simp only [Catalog.filings, List.map_map]
    rfl
  rw [Registry.children, Ordered.values_eq once, keys, distinct_filterMap_distinct,
    List.filterMap_map]
  rfl

theorem precedes_children {q : Parent} {d e : DefId}
    (kept : ∃ name ∈ (h.catalog.definition d).aliases, h.registry.lookup name q = some d)
    (listed : e ∈ h.registry.children q) (precedes : Precedes d e (placedUnder q history))
    (untaken : ∀ c, Precedes c e (placedUnder q history) →
      ∀ name ∈ (h.catalog.definition c).aliases, h.registry.lookup name q ≠ some e) :
    Precedes d e (h.registry.children q) := by
  rw [chronicle.children_eq q] at listed ⊢
  rw [mem_distinct] at listed
  apply Precedes.distinct
  obtain ⟨before, after, split, earlier, absent⟩ := precedes
  rw [split, List.flatMap_append, List.filterMap_append] at listed ⊢
  have early : d ∈ (before.flatMap fun c => (h.catalog.definition c).aliases).filterMap
      (h.registry.lookup · q) := by
    obtain ⟨name, named, found⟩ := kept
    exact List.mem_filterMap.mpr ⟨name, List.mem_flatMap.mpr ⟨d, earlier, named⟩, found⟩
  have late : e ∉ (before.flatMap fun c => (h.catalog.definition c).aliases).filterMap
      (h.registry.lookup · q) := by
    intro taken
    obtain ⟨name, member, found⟩ := List.mem_filterMap.mp taken
    obtain ⟨c, there, named⟩ := List.mem_flatMap.mp member
    exact untaken c ⟨before, after, split, there, absent⟩ name named found
  exact precedes_append early late ((List.mem_append.mp listed).resolve_left late)

end Chronicle

def tintDraft (names : List String) : Draft where
  aliases := .list (names.map .str)
  handler := some fun _ _ => .give .null

/-- The second command takes the canonical name of the first, which keeps its synonym. -/
def tints : Catalog where
  groups := #[{ members := [⟨0⟩, ⟨1⟩, ⟨2⟩] }]
  definitions := #[{ name := "red", synonyms := ["rose"], body := .leaf fun _ _ => .give .null },
    { name := "pink", synonyms := ["red"], body := .leaf fun _ _ => .give .null },
    { name := "blue", body := .leaf fun _ _ => .give .null }]

def tinter : Host where
  catalog := tints
  registry := Registry.committed {} tints ⟨none, ⟨0⟩⟩

theorem chronicle_tinter : tinter.Chronicle [⟨none, ⟨0⟩⟩, ⟨none, ⟨1⟩⟩, ⟨none, ⟨2⟩⟩] := by
  let grouped : Catalog := { groups := #[{}] }
  let red : Catalog := ⟨#[{ members := [⟨0⟩] }], #[tints.definition ⟨0⟩]⟩
  let pink : Catalog :=
    ⟨#[{ members := [⟨0⟩, ⟨1⟩] }], #[tints.definition ⟨0⟩, tints.definition ⟨1⟩]⟩
  have typed : ∀ names, (tintDraft names).IsTyped := fun _ => ⟨⟨0, rfl⟩, ⟨-1, rfl⟩, _, rfl⟩
  have first : (tintDraft ["red", "rose"]).check grouped = .ok (tints.definition ⟨0⟩) := rfl
  have second : (tintDraft ["pink", "red"]).check red = .ok (tints.definition ⟨1⟩) := rfl
  have third : (tintDraft ["blue"]).check pink = .ok (tints.definition ⟨2⟩) := rfl
  have grouping : Chronicle ⟨grouped, {}⟩ [] := (Chronicle.fresh {}).grow (.group _ (.str ""))
  have declaring : Chronicle ⟨tints, {}⟩ [] :=
    ((grouping.grow (.declare ⟨0⟩ (typed _) first)).grow (.declare ⟨0⟩ (typed _) second)).grow
      (.declare ⟨0⟩ (typed _) third)
  have done : (Registry.attempt {} tints (.group ⟨0⟩) none).outcome = .ok (tints.members ⟨0⟩) :=
    (Registry.attempt_of_lenient rfl rfl rfl).1
  have placed : tints.placed ⟨none, ⟨0⟩⟩ = [⟨none, ⟨0⟩⟩, ⟨none, ⟨1⟩⟩, ⟨none, ⟨2⟩⟩] := by decide +kernel
  have registering := declaring.register done
  rw [(Registry.attempt_of_lenient rfl rfl rfl).2, placed] at registering
  exact registering

end Host

namespace Registry

/-- A registry lists each command under a parent that still has one of its names there, and it lists
it once. The commands stand in the order in which the names that they hold first came there. So a
command that came before another is listed before it, unless the other took a name from a command
that came before it; while names are strict none does, and the order is that of registration. -/
theorem children_by_names {h : Host} (reachable : Host.Reachable h) :
    (∃ history, h.Chronicle history) ∧ ∀ history, h.Chronicle history → ∀ q,
      ((h.registry.children q).Nodup ∧ ∀ d, d ∈ h.registry.children q ↔
        ∃ name ∈ (h.catalog.definition d).aliases, h.registry.lookup name q = some d) ∧
      h.registry.children q = distinct
        (((placedUnder q history).flatMap fun d => (h.catalog.definition d).aliases).filterMap
          (h.registry.lookup · q)) ∧
      (∀ d ∈ h.registry.children q, ∀ e ∈ h.registry.children q,
        Precedes d e (placedUnder q history) →
        (∀ c, Precedes c e (placedUnder q history) →
          ∀ name ∈ (h.catalog.definition c).aliases, h.registry.lookup name q ≠ some e) →
        Precedes d e (h.registry.children q)) ∧
      (h.registry.settings.strictAliases = true →
        h.registry.children q = distinct (placedUnder q history)) := by
  refine ⟨Host.exists_chronicle reachable, fun history chronicle q => ?_⟩
  refine ⟨⟨nodup_distinct _, fun d => Host.mem_children reachable⟩, chronicle.children_eq q, ?_,
    fun strict => chronicle.children_of_strict strict q⟩
  intro d listed e listed' precedes untaken
  exact chronicle.precedes_children ((Host.mem_children reachable).mp listed) listed' precedes
    untaken

theorem children_by_names_tinter :
    Precedes ⟨0⟩ ⟨2⟩ (Host.tinter.registry.children none) ∧
      (Host.tinter.registry.children none).Nodup ∧
      Host.tinter.registry.lookup "rose" none = some ⟨0⟩ := by
  obtain ⟨-, tells⟩ := children_by_names Host.chronicle_tinter.reachable
  obtain ⟨⟨once, children⟩, -, order, -⟩ := tells _ Host.chronicle_tinter none
  have red : Host.tinter.registry.lookup "red" none = some ⟨1⟩ := by decide +kernel
  have rose : Host.tinter.registry.lookup "rose" none = some ⟨0⟩ := by decide +kernel
  have pink : Host.tinter.registry.lookup "pink" none = some ⟨1⟩ := by decide +kernel
  have blue : Host.tinter.registry.lookup "blue" none = some ⟨2⟩ := by decide +kernel
  have listed : ⟨0⟩ ∈ Host.tinter.registry.children none :=
    (children _).mpr ⟨"rose", by decide, rose⟩
  have listed' : ⟨2⟩ ∈ Host.tinter.registry.children none :=
    (children _).mpr ⟨"blue", by decide, blue⟩
  have untaken : ∀ c, Precedes c ⟨2⟩ [⟨0⟩, ⟨1⟩, ⟨2⟩] → ∀ name ∈ (Host.tints.definition c).aliases,
      Host.tinter.registry.lookup name none ≠ some ⟨2⟩ := by
    intro c precedes name named
    obtain ⟨member, different⟩ := precedes.mem_and_ne
    have first : c = ⟨0⟩ ∨ c = ⟨1⟩ := by simpa [different] using member
    rcases first with rfl | rfl
    · change name ∈ ["red", "rose"] at named
      have names : name = "red" ∨ name = "rose" := by simpa using named
      rcases names with rfl | rfl
      · simp [red]
      · simp [rose]
    · change name ∈ ["pink", "red"] at named
      have names : name = "pink" ∨ name = "red" := by simpa using named
      rcases names with rfl | rfl
      · simp [pink]
      · simp [red]
  have precedes : Precedes (⟨0⟩ : DefId) ⟨2⟩ [⟨0⟩, ⟨1⟩, ⟨2⟩] :=
    ⟨[⟨0⟩, ⟨1⟩], [], rfl, by decide, by decide⟩
  exact ⟨order _ listed _ listed' precedes untaken, once, rose⟩

/-- A command that took the name of an earlier one is listed before it. -/
theorem children_out_of_order :
    Host.tinter.Chronicle [⟨none, ⟨0⟩⟩, ⟨none, ⟨1⟩⟩, ⟨none, ⟨2⟩⟩] ∧
      Precedes (⟨0⟩ : DefId) ⟨1⟩ (placedUnder none [⟨none, ⟨0⟩⟩, ⟨none, ⟨1⟩⟩, ⟨none, ⟨2⟩⟩]) ∧
      Host.tinter.registry.children none = [⟨1⟩, ⟨0⟩, ⟨2⟩] ∧
      ¬ Precedes ⟨0⟩ ⟨1⟩ (Host.tinter.registry.children none) := by
  have listed : Host.tinter.registry.children none = [⟨1⟩, ⟨0⟩, ⟨2⟩] := by decide +kernel
  refine ⟨Host.chronicle_tinter, ⟨[⟨0⟩], [⟨2⟩], rfl, by decide, by decide⟩, listed, ?_⟩
  rw [listed]
  rintro ⟨before, after, split, earlier, absent⟩
  cases before with
  | nil => exact List.not_mem_nil earlier
  | cons first rest =>
    obtain ⟨rfl, -⟩ := List.cons.inj split
    exact absent List.mem_cons_self

end Registry
end CommandTree
