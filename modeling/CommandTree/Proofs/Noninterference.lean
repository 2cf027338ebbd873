import CommandTree.Proofs.Execution
import CommandTree.Proofs.Matching

namespace CommandTree

inductive SameBody : Body → Body → Prop where
  | leaf (handler : Handler) : SameBody (.leaf handler) (.leaf handler)
  | nested (first first' : GroupId) (others others' : List GroupId) :
      SameBody (.nested first others) (.nested first' others')

structure Definition.SameUse (d e : Definition) : Prop where
  usage : d.usage = e.usage
  alphabet : d.alphabet = e.alphabet
  bounds : d.bounds = e.bounds
  body : SameBody d.body e.body

namespace Definition.SameUse
variable {d e : Definition}

theorem leaf_usage (same : d.SameUse e) (lead : String) (path : List String) :
    Usage.leaf lead path d = Usage.leaf lead path e := by
  unfold Usage.leaf
  rw [same.usage, same.alphabet]

theorem objection?_eq (same : d.SameUse e) (context : Context) :
    Dispatcher.objection? d context = Dispatcher.objection? e context := by
  unfold Dispatcher.objection?
  rw [same.bounds, same.alphabet]

end Definition.SameUse

namespace Dispatcher

section Twins
variable {C : Type} (twin : DefId → DefId → Prop) (left right : Dispatcher C) (caller : C)

def Permits (dispatcher : Dispatcher C) (caller : C) (d : DefId) : Prop :=
  (dispatcher.hasPermission d caller).outcome = .ok true

/-- Whom a dispatcher comes to serve when it serves a caller: a handler that somebody served may
use can have commands executed for others. -/
inductive Serves (dispatcher : Dispatcher C) (caller : C) : Standing → Prop where
  | caller : Serves dispatcher caller (dispatcher.check caller)
  | other {standing other : Standing} {d : DefId} {handler : Handler} {context : Context}
      {extras : List Value} (served : Serves dispatcher caller standing)
      (permitted : dispatcher.anyone.Permits standing d)
      (body : (dispatcher.catalog.definition d).body = .leaf handler)
      (acts : (handler context extras).ActsFor other) : Serves dispatcher caller other

/-- The definitions of two dispatchers correspond one to one, with the same names and permissions,
under the root and under each nested command that a caller may use. Those that the caller may use
can be used in the same way; the others may have different bodies, bounds, flags and nodes. -/
structure Mirrors : Prop where
  unique : Relator.BiUnique twin
  aliases {d e : DefId} : twin d e →
    (left.catalog.definition d).aliases = (right.catalog.definition e).aliases
  permissions {d e : DefId} : twin d e →
    (left.catalog.definition d).permissions = (right.catalog.definition e).permissions
  use {d e : DefId} : twin d e → left.Permits caller d →
    (left.catalog.definition d).SameUse (right.catalog.definition e)
  root : Ordered.SameKeys twin (left.registry.node none) (right.registry.node none)
  below {d e : DefId} : twin d e → left.Permits caller d →
    (left.catalog.definition d).isNested = true →
      Ordered.SameKeys twin (left.registry.node (some d)) (right.registry.node (some e))
  check : left.check caller = right.check caller
  settings : left.settings = right.settings
  /-- Where only a frozen registry is served, both are frozen or neither is. -/
  phase : left.settings.requireFrozen = true → left.registry.frozen = right.registry.frozen
  depth : left.depth = right.depth

/-- The same question or record, or calls of one handler with the same arguments. -/
inductive SameEvent : Event → Event → Prop where
  | asked (permission : Value) : SameEvent (.asked permission) (.asked permission)
  | logged (record : LogRecord) : SameEvent (.logged record) (.logged record)
  | called {d e : DefId} {handler : Handler} (context : Context) (extras : List Value)
      (twins : twin d e) (body : (left.catalog.definition d).body = .leaf handler)
      (body' : (right.catalog.definition e).body = .leaf handler) :
      SameEvent (.called ⟨d, context, extras⟩) (.called ⟨e, context, extras⟩)

/-- Leaves of one handler that are reached by the same path and given the same context. -/
structure SameLeaf (leaf leaf' : Invocation) : Prop where
  twins : twin leaf.definition leaf'.definition
  permitted : left.Permits caller leaf.definition
  path : leaf.path = leaf'.path
  handler : leaf.handler = leaf'.handler
  context : leaf.context = leaf'.context
  body : (left.catalog.definition leaf.definition).body = .leaf leaf.handler
  body' : (right.catalog.definition leaf'.definition).body = .leaf leaf'.handler

/-- Two runs of a command that are cut short alike, or that call one handler with the same context
and the same extra arguments and end as it does. -/
inductive SameCourse (extras : List Value) : Run Value → Run Value → Prop where
  | cut (interrupt : Interrupt) {before before' : Trace}
      (events : List.Forall₂ (SameEvent twin left right) before before') :
      SameCourse extras ⟨.error interrupt, before⟩ ⟨.error interrupt, before'⟩
  | called {leaf leaf' : Invocation} {before before' : Trace}
      (leaves : SameLeaf twin left right caller leaf leaf')
      (events : List.Forall₂ (SameEvent twin left right) before before') :
      SameCourse extras
        ⟨wrap (left.handle caller leaf extras).outcome,
          before ++ .called ⟨leaf.definition, leaf.context, extras⟩ ::
            (left.handle caller leaf extras).trace⟩
        ⟨wrap (right.handle caller leaf' extras).outcome,
          before' ++ .called ⟨leaf'.definition, leaf'.context, extras⟩ ::
            (right.handle caller leaf' extras).trace⟩

inductive SameParent : Parent → Parent → Prop where
  | root : SameParent none none
  | below {d e : DefId} (twins : twin d e) (permitted : left.Permits caller d)
      (nested : (left.catalog.definition d).isNested = true) : SameParent (some d) (some e)

end Twins

variable {C : Type} {twin : DefId → DefId → Prop} {left right : Dispatcher C} {caller : C}
  {d e : DefId} {p q : Parent} {α β : Type} {R : α → β → Prop}

section Mirrored
variable (mirrors : Mirrors twin left right caller)
include mirrors

/-! ### Permissions -/

theorem query_matches (permission : Value) :
    (left.query caller permission).Matches (SameEvent twin left right) Eq
      (right.query caller permission) := by
  unfold query
  rw [mirrors.check]
  exact ⟨sameResult_refl _, .cons (.asked permission) .nil⟩

theorem holdsAny_matches (permissions : List Value) :
    (left.holdsAny caller permissions).Matches (SameEvent twin left right) Eq
      (right.holdsAny caller permissions) := by
  induction permissions with
  | nil => exact Run.matches_pure rfl
  | cons permission rest ih =>
    unfold holdsAny
    refine (query_matches mirrors permission).bind fun granted _ _ same => ?_
    obtain rfl := same
    cases granted with
    | true => exact Run.matches_pure rfl
    | false => exact ih

theorem hasPermission_matches (twins : twin d e) :
    (left.hasPermission d caller).Matches (SameEvent twin left right) Eq
      (right.hasPermission e caller) := by
  unfold hasPermission
  rw [mirrors.permissions twins]
  cases (right.catalog.definition e).permissions with
  | nil => exact Run.matches_pure rfl
  | cons permission rest => exact holdsAny_matches mirrors (permission :: rest)

theorem visible_matches {ds es : List DefId} (twins : List.Forall₂ twin ds es) :
    (left.visible caller ds).Matches (SameEvent twin left right) (List.Forall₂ twin)
      (right.visible caller es) := by
  induction twins with
  | nil => exact Run.matches_pure .nil
  | cons here _ ih =>
    unfold visible
    refine (hasPermission_matches mirrors here).bind fun permitted _ _ same => ?_
    obtain rfl := same
    refine ih.bind fun others others' _ related => Run.matches_pure ?_
    cases permitted with
    | true => exact .cons here related
    | false => exact related

/-! ### Listings -/

theorem choices_eq {children children' seen seen' : List DefId}
    (twins : List.Forall₂ twin children children') (visible : List.Forall₂ twin seen seen') :
    Usage.choices left.catalog children seen = Usage.choices right.catalog children' seen' := by
  have names : seen.map left.catalog.name = seen'.map right.catalog.name := by
    rw [← List.forall₂_eq_eq_eq, List.forall₂_map_left_iff, List.forall₂_map_right_iff]
    exact visible.imp fun _ _ twins => (List.cons.inj (mirrors.aliases twins)).1
  have barren : children.isEmpty = children'.isEmpty := by cases twins <;> rfl
  have hidden : seen.isEmpty = seen'.isEmpty := by cases visible <;> rfl
  unfold Usage.choices
  rw [barren, hidden, names]

theorem failBelow_matches (message : String) (path : List String)
    (nodes : Ordered.SameKeys twin (left.registry.node (some d)) (right.registry.node (some e))) :
    (left.failBelow message path d caller).Matches (SameEvent twin left right) R
      (right.failBelow message path e caller) := by
  have children := forall₂_distinct mirrors.unique nodes.values
  unfold failBelow
  refine (visible_matches mirrors children).bind fun seen seen' _ related => ?_
  rw [Registry.children, Registry.children, choices_eq mirrors children related, mirrors.settings]
  cases Usage.choices right.catalog (distinct (right.registry.node (some e)).values) seen' with
  | error failure => exact Run.matches_fail failure
  | ok choices => exact Run.matches_fail _

/-! ### Resolution -/

theorem sameKeys_node (parents : SameParent twin left caller p q) :
    Ordered.SameKeys twin (left.registry.node p) (right.registry.node q) := by
  cases parents with
  | root => exact mirrors.root
  | below twins permitted nested => exact mirrors.below twins permitted nested

theorem resolveFrom_matches (parents : SameParent twin left caller p q)
    (before tokens : List String) :
    (left.resolveFrom caller p before tokens).Matches (SameEvent twin left right)
      (SameLeaf twin left right caller) (right.resolveFrom caller q before tokens) := by
  induction tokens generalizing p q before with
  | nil => exact Run.matches_stop .emptyCommand
  | cons name rest ih =>
    have found : Option.Rel twin (left.registry.lookup name p) (right.registry.lookup name q) :=
      (sameKeys_node mirrors parents).get? _
    unfold resolveFrom
    generalize left.registry.lookup name p = here, right.registry.lookup name q = there at found
    cases found with
    | none =>
      cases parents with
      | root => exact Run.matches_fail _
      | below twins permitted nested =>
        exact failBelow_matches mirrors _ _ (mirrors.below twins permitted nested)
    | @some d e twins =>
      refine (hasPermission_matches mirrors twins).bind fun permitted _ asked same => ?_
      obtain rfl := same
      cases permitted with
      -- A denied command ends both runs before anything of its definition or below it is read.
      | false => exact Run.matches_fail _
      | true =>
        have use := mirrors.use twins asked
        have bodies := use.body
        generalize body : (left.catalog.definition d).body = here,
          body' : (right.catalog.definition e).body = there at bodies
        simp only [↓reduceIte, body, body']
        cases bodies with
        | nested first first' others others' =>
          have nested : (left.catalog.definition d).isNested = true := by
            simp [Definition.isNested, Definition.nested, body]
          cases rest with
          | nil => exact failBelow_matches mirrors _ _ (mirrors.below twins asked nested)
          | cons next rest => exact ih (.below twins asked nested) _
        | leaf handler =>
          simp only [use.alphabet, use.leaf_usage, use.objection?_eq, mirrors.settings]
          split
          · exact Run.matches_stop _
          · split
            · exact Run.matches_fail _
            · exact Run.matches_pure ⟨twins, asked, rfl, rfl, rfl, body, body'⟩

theorem resolve_matches (tokens : List String) :
    (left.resolve tokens caller).Matches (SameEvent twin left right)
      (SameLeaf twin left right caller) (right.resolve tokens caller) := by
  have turned : (left.settings.requireFrozen && !left.registry.frozen) =
      (right.settings.requireFrozen && !right.registry.frozen) := by
    rw [← mirrors.settings]
    cases required : left.settings.requireFrozen with
    | false => rfl
    | true => rw [mirrors.phase required]
  unfold resolve
  rw [turned]
  split
  · exact Run.matches_stop _
  · split
    · exact Run.matches_stop _
    · exact resolveFrom_matches mirrors .root [] tokens

/-! ### Execution -/

omit mirrors in
theorem call_matches {leaf leaf' : Invocation} (same : SameLeaf twin left right caller leaf leaf')
    (extras : List Value) :
    (leaf.call extras).Matches (SameEvent twin left right) Eq (leaf'.call extras) := by
  obtain ⟨path, d, handler, context⟩ := leaf
  obtain ⟨path', e, handler', context'⟩ := leaf'
  obtain ⟨twins, -, paths, handlers, contexts, body, body'⟩ := same
  dsimp only at twins paths handlers contexts body body'
  subst paths handlers contexts
  exact ⟨.done rfl, .cons (.called _ extras twins body body') .nil⟩

omit mirrors in
theorem carryOut_matches {execute execute' : Standing → List String → List Value → Run Value}
    {standing : Standing} {act : Act}
    (inner : ∀ other, other = standing ∨ act.ActsFor other → ∀ tokens extras,
      (execute other tokens extras).Matches (SameEvent twin left right) Eq
        (execute' other tokens extras)) :
    (carryOut execute standing act).Matches (SameEvent twin left right) Eq
      (carryOut execute' standing act) := by
  induction act with
  | finish outcome => exact ⟨sameResult_refl outcome, .nil⟩
  | execute standing? tokens extras next ih =>
    obtain ⟨result, events⟩ := inner _ (Act.served standing) tokens extras
    -- The outcomes of the inner commands are equal, so the handler goes on in the same way.
    obtain ⟨final, later⟩ := ih (execute (standing?.getD standing) tokens extras).outcome
      fun other acts => inner other (acts.imp_right (.later _))
    unfold carryOut
    dsimp only
    rw [← result.eq]
    exact ⟨final, List.rel_append events later⟩

theorem mirrors_anyone : Mirrors twin left.anyone right.anyone (left.check caller) where
  unique := mirrors.unique
  aliases := mirrors.aliases
  permissions := mirrors.permissions
  use twins permitted := by
    rw [Permits, hasPermission_anyone] at permitted
    exact mirrors.use twins permitted
  root := mirrors.root
  below twins permitted nested := by
    rw [Permits, hasPermission_anyone] at permitted
    exact mirrors.below twins permitted nested
  check := rfl
  settings := mirrors.settings
  phase := mirrors.phase
  depth := mirrors.depth

end Mirrored

theorem sameEvent_of_anyone {e e' : Event} (same : SameEvent twin left.anyone right.anyone e e') :
    SameEvent twin left right e e' := by
  cases same with
  | asked permission => exact .asked permission
  | logged record => exact .logged record
  | called context extras twins body body' => exact .called context extras twins body body'

section Serving
variable (mirrored : ∀ standing, left.Serves caller standing →
  Mirrors twin left.anyone right.anyone standing)
include mirrored

theorem executeWithin_matches {standing : Standing} (served : left.Serves caller standing)
    (depth : Nat) (tokens : List String) (extras : List Value) :
    (left.executeWithin depth standing tokens extras).Matches (SameEvent twin left right) Eq
      (right.executeWithin depth standing tokens extras) := by
  induction depth generalizing standing tokens extras with
  | zero => exact Run.matches_stop .tooDeep
  | succ depth ih =>
    unfold executeWithin
    have resolved := (resolve_matches (mirrored standing served) tokens).imp
      (fun _ _ same => sameEvent_of_anyone same) fun _ _ same => same
    refine resolved.bind fun leaf leaf' _ same => ?_
    rw [same.path]
    refine Run.Matches.bind ⟨.done rfl, .cons (.logged _) .nil⟩ fun _ _ _ _ => ?_
    have alike : (leaf.call extras).Matches (SameEvent twin left right) Eq (leaf'.call extras) :=
      (call_matches same extras).imp (fun _ _ same => sameEvent_of_anyone same) fun _ _ same => same
    refine alike.bind fun act _ called alike => ?_
    obtain rfl := alike
    obtain rfl : leaf.handler leaf.context extras = act := Except.ok.inj called
    have inner : ∀ other, other = standing ∨ (leaf.handler leaf.context extras).ActsFor other →
        ∀ tokens extras, (left.executeWithin depth other tokens extras).Matches
          (SameEvent twin left right) Eq (right.executeWithin depth other tokens extras) := by
      rintro other (rfl | acts)
      · exact ih served
      · exact ih (.other served same.permitted same.body acts)
    obtain ⟨result, events⟩ := carryOut_matches inner
    dsimp only
    rw [result.eq]
    exact ⟨sameResult_refl _, events⟩

theorem execute_matches (check : left.check caller = right.check caller)
    (depth : left.depth = right.depth) (tokens : List String) (extras : List Value) :
    (left.execute tokens caller extras).Matches (SameEvent twin left right) Eq
      (right.execute tokens caller extras) := by
  unfold execute
  rw [← check, depth]
  exact executeWithin_matches mirrored .caller (right.depth + 1) tokens extras

end Serving

theorem execute_sameCourse (mirrors : Mirrors twin left right caller) (tokens : List String)
    (extras : List Value) :
    SameCourse twin left right caller extras (left.execute tokens caller extras)
      (right.execute tokens caller extras) := by
  obtain ⟨result, events⟩ := resolve_matches mirrors tokens
  cases resolved : left.resolve tokens caller with
  | mk outcome before =>
    cases resolved' : right.resolve tokens caller with
    | mk outcome' before' =>
      rw [resolved, resolved'] at result events
      cases result with
      | stopped interrupt =>
        rw [execute_refused resolved, execute_refused resolved']
        exact .cut interrupt events
      | @done leaf leaf' leaves =>
        rw [execute_called resolved, execute_called resolved', leaves.path, List.append_cons before,
          List.append_cons before']
        exact .called leaves (List.rel_append events (.cons (.logged _) .nil))

/-- A caller cannot tell two dispatchers apart that differ only behind the commands that the caller
may not use: a command is cut short alike on both, or the same handler is called with the same
context after the same questions and records. That handler then does the same on both, with the
commands that it has executed in turn, unless one of them is executed for somebody else, who can
tell the two apart. -/
theorem execute_noninterference (mirrors : Mirrors twin left right caller) (tokens : List String)
    (extras : List Value) :
    SameCourse twin left right caller extras (left.execute tokens caller extras)
        (right.execute tokens caller extras) ∧
      ((∀ standing, left.Serves caller standing → standing ≠ left.check caller →
          Mirrors twin left.anyone right.anyone standing) →
        (left.execute tokens caller extras).outcome =
          (right.execute tokens caller extras).outcome ∧
        List.Forall₂ (SameEvent twin left right) (left.execute tokens caller extras).trace
          (right.execute tokens caller extras).trace) := by
  refine ⟨execute_sameCourse mirrors tokens extras, fun others => ?_⟩
  have mirrored : ∀ standing, left.Serves caller standing →
      Mirrors twin left.anyone right.anyone standing := by
    intro standing served
    by_cases own : standing = left.check caller
    · rw [own]
      exact mirrors_anyone mirrors
    · exact others standing served own
  obtain ⟨result, events⟩ := execute_matches mirrored mirrors.check mirrors.depth tokens extras
  exact ⟨result.eq, events⟩

/-- Where no handler acts for others, a dispatcher that serves a caller serves nobody else. -/
theorem Serves.eq_check {standing : Standing}
    (tame : ∀ d handler, (left.catalog.definition d).body = .leaf handler →
      ∀ context extras other, ¬ (handler context extras).ActsFor other)
    (served : left.Serves caller standing) : standing = left.check caller := by
  cases served with
  | caller => rfl
  | other _ _ body acts => exact absurd acts (tame _ _ body _ _ _)

def nestedPurge : Catalog where
  groups := #[{ members := [⟨0⟩] }, { members := [⟨1⟩, ⟨2⟩] }, { members := [⟨3⟩] }]
  definitions := #[{ name := "store", body := .nested ⟨1⟩ [] },
    { name := "list", body := .leaf fun _ _ => .give (.str "nothing") },
    { name := "purge", permissions := [.str "store.purge"], body := .nested ⟨2⟩ [] },
    { name := "all", body := .leaf fun _ _ => .give .null }]

def leafPurge : Catalog where
  groups := #[{ members := [⟨2⟩] }, { members := [⟨0⟩, ⟨1⟩] }]
  definitions := #[{ name := "list", body := .leaf fun _ _ => .give (.str "nothing") },
    { name := "purge", usage := .str "<key>", alphabet := { letters := ['f'] },
      bounds := ⟨.finite 1, .finite 1⟩, permissions := [.str "store.purge"],
      body := .leaf fun _ _ => .give (.bool true) },
    { name := "store", body := .nested ⟨1⟩ [] }]

def counter (catalog : Catalog) : Dispatcher Unit where
  catalog := catalog
  registry := (Registry.attempt {} catalog (.group ⟨0⟩) none).registry
  check _ _ := .ok false
  settings := {}

inductive PurgeTwin : DefId → DefId → Prop where
  | store : PurgeTwin ⟨0⟩ ⟨2⟩
  | list : PurgeTwin ⟨1⟩ ⟨0⟩
  | purge : PurgeTwin ⟨2⟩ ⟨1⟩

theorem not_permits_purge : ¬ (counter nestedPurge).Permits () ⟨2⟩ := by
  intro permitted
  have denied : (Except.ok false : Except Interrupt Bool) = .ok true := permitted
  exact nomatch denied

theorem mirrors_purge : Mirrors PurgeTwin (counter nestedPurge) (counter leafPurge) () where
  unique := by
    constructor
    · rintro _ _ _ (_ | _ | _) (_ | _ | _) <;> rfl
    · rintro _ _ _ (_ | _ | _) (_ | _ | _) <;> rfl
  aliases twins := by cases twins <;> rfl
  permissions twins := by cases twins <;> rfl
  use twins permitted := by
    cases twins with
    | store => exact ⟨rfl, rfl, rfl, .nested _ _ _ _⟩
    | list => exact ⟨rfl, rfl, rfl, .leaf _⟩
    | purge => exact absurd permitted not_permits_purge
  root := by
    have root : (counter nestedPurge).registry.node none = ⟨[("store", ⟨0⟩)]⟩ := by
      with_unfolding_all rfl
    have root' : (counter leafPurge).registry.node none = ⟨[("store", ⟨2⟩)]⟩ := by
      with_unfolding_all rfl
    rw [root, root']
    exact .cons ⟨rfl, .store⟩ .nil
  below twins permitted nested := by
    cases twins with
    | store =>
      have node : (counter nestedPurge).registry.node (some ⟨0⟩) =
          ⟨[("list", ⟨1⟩), ("purge", ⟨2⟩)]⟩ := by with_unfolding_all rfl
      have node' : (counter leafPurge).registry.node (some ⟨2⟩) =
          ⟨[("list", ⟨0⟩), ("purge", ⟨1⟩)]⟩ := by with_unfolding_all rfl
      rw [node, node']
      exact .cons ⟨rfl, .list⟩ (.cons ⟨rfl, .purge⟩ .nil)
    | list => exact absurd nested Bool.false_ne_true
    | purge => exact absurd permitted not_permits_purge
  check := rfl
  settings := rfl
  phase required := nomatch required
  depth := rfl

theorem serves_purge {standing : Standing} (served : (counter nestedPurge).Serves () standing) :
    standing = (counter nestedPurge).check () := by
  refine served.eq_check fun d handler body context extras other acts => ?_
  obtain ⟨_ | _ | _ | _ | n⟩ := d
  · exact nomatch body
  · obtain rfl := Body.leaf.inj body
    cases acts
  · exact nomatch body
  · obtain rfl := Body.leaf.inj body
    cases acts
  · obtain rfl := Body.leaf.inj body
    cases acts

theorem execute_noninterference_purge :
    ((counter nestedPurge).execute ["store", "purge", "all", "-f"] () []).outcome =
      ((counter leafPurge).execute ["store", "purge", "all", "-f"] () []).outcome := by
  obtain ⟨-, alike⟩ :=
    execute_noninterference mirrors_purge ["store", "purge", "all", "-f"] []
  exact (alike fun _ served other => absurd (serves_purge served) other).1

end Dispatcher
end CommandTree
