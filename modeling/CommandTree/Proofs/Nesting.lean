import CommandTree.Proofs.Calling
import CommandTree.Proofs.Privilege

namespace CommandTree

namespace Catalog
variable {catalog : Catalog} {group below : GroupId} {p d : DefId} {q r : Parent} {key : String}

/-- Parents with a group at the root on the right and behind a nested command on the left. Only the
tops differ: what the group leads to stands under the same definitions on both sides. -/
inductive Parallel (catalog : Catalog) (p : DefId) (below : GroupId) : Parent → Parent → Prop where
  | top : Parallel catalog p below (some p) none
  | within {d : DefId} : catalog.Reach below (some d) → Parallel catalog p below (some d) (some d)

/-- A nested command of a group that leads to one group only. -/
structure LeadsOnlyTo (catalog : Catalog) (group : GroupId) (p : DefId) (below : GroupId) :
    Prop where
  member : p ∈ catalog.members group
  only : ∀ g, g ∈ (catalog.definition p).nested ↔ g = below

section Nested
variable (leads : catalog.LeadsOnlyTo group p below)
include leads

theorem LeadsOnlyTo.isNested : (catalog.definition p).isNested = true :=
  isNested_iff.mpr ⟨below, (leads.only below).mpr rfl⟩

theorem LeadsOnlyTo.mem_declaredUnder_iff :
    d ∈ catalog.declaredUnder p ↔ d ∈ catalog.members below := by
  rw [mem_declaredUnder]
  constructor
  · rintro ⟨g, provider, member⟩
    exact (leads.only g).mp provider ▸ member
  · exact fun member => ⟨below, (leads.only below).mpr rfl, member⟩

theorem Parallel.declared_iff (parallel : catalog.Parallel p below q r) :
    d ∈ catalog.declared group q ↔ d ∈ catalog.declared below r := by
  cases parallel with
  | top => exact leads.mem_declaredUnder_iff
  | within => exact Iff.rfl

omit leads in
theorem Parallel.reach_right (parallel : catalog.Parallel p below q r) :
    catalog.Reach below r := by
  cases parallel with
  | top => exact .root
  | within reach => exact reach

theorem exists_parallel (reach : catalog.Reach below r) :
    ∃ q, catalog.Parallel p below q r ∧ catalog.Reach group q := by
  -- Only the root has another counterpart than itself; below it the ways down are the same.
  induction reach with
  | root => exact ⟨some p, .top, .nested .root leads.member leads.isNested⟩
  | @nested r d above member nested ih =>
    obtain ⟨q, parallel, reach⟩ := ih
    exact ⟨some d, .within (.nested above member nested),
      .nested reach ((parallel.declared_iff leads).mpr member) nested⟩

theorem Parallel.reach_left (parallel : catalog.Parallel p below q r) :
    catalog.Reach group q := by
  obtain ⟨q', parallel', reach⟩ := exists_parallel leads parallel.reach_right
  cases parallel with
  | top => cases parallel'; exact reach
  | within => cases parallel'; exact reach

theorem Parallel.claimed_iff (parallel : catalog.Parallel p below q r) :
    ⟨q, key, d⟩ ∈ catalog.claimed ⟨none, group⟩ ↔ ⟨r, key, d⟩ ∈ catalog.claimed ⟨none, below⟩ := by
  have left := parallel.reach_left leads
  have right := parallel.reach_right
  rw [mem_claimed_root_iff, mem_claimed_root_iff, parallel.declared_iff leads]
  simp only [left, right, true_and]

end Nested
end Catalog

namespace Registry
variable {catalog : Catalog} {group below : GroupId} {p d : DefId} {q r : Parent} {name : String}
  {settings settings' : Settings} {outer inner : Registration}

theorem not_contested_below (leads : catalog.LeadsOnlyTo group p below)
    (calm : ¬ Contested { settings } catalog ⟨none, group⟩) :
    ¬ Contested { settings := settings' } catalog ⟨none, below⟩ := by
  have claims : ∀ {r key d}, Claimed { settings := settings' } catalog ⟨none, below⟩ r key d →
      ⟨r, key, d⟩ ∈ catalog.claimed ⟨none, below⟩ := by
    intro r key d claimed
    refine (claimed_iff.mp claimed).resolve_left fun found => ?_
    rw [node_fresh] at found
    exact nomatch found
  rintro ⟨r, key, d, e, different, claimed, claimed'⟩
  have reach := (Catalog.mem_claimed_root_iff.mp (claims claimed)).1
  obtain ⟨q, parallel, -⟩ := Catalog.exists_parallel leads reach
  refine calm ⟨q, key, d, e, different, ?_, ?_⟩
  · exact claimed_iff.mpr (.inr ((parallel.claimed_iff leads).mpr (claims claimed)))
  · exact claimed_iff.mpr (.inr ((parallel.claimed_iff leads).mpr (claims claimed')))

theorem register_below (leads : catalog.LeadsOnlyTo group p below)
    (strict : settings.strictAliases = true)
    (done : ({ settings } : Registry).register catalog (.group group) none = .ok outer)
    (settings' : Settings) :
    ∃ inner, ({ settings := settings' } : Registry).register catalog (.group below) none =
      .ok inner := by
  have calm := (attempt_ok_iff rfl rfl).mp (register_ok_iff.mp ⟨outer, done⟩) strict
  exact register_ok_iff.mpr ((attempt_ok_iff rfl rfl).mpr fun _ => not_contested_below leads calm)

/-- One registry has behind a command what another has at the root. -/
structure Nests (catalog : Catalog) (p : DefId) (below : GroupId) (outer inner : Registry) :
    Prop where
  lookup {q r : Parent} (parallel : catalog.Parallel p below q r) (name : String) :
    outer.lookup name q = inner.lookup name r
  declared {r : Parent} {name : String} {d : DefId} (found : inner.lookup name r = some d) :
    catalog.Reach below r ∧ d ∈ catalog.declared below r
  children {d e : DefId} (reach : catalog.Reach below (some d)) :
    e ∈ outer.children (some d) ↔ e ∈ inner.children (some d)

theorem nests_registered (leads : catalog.LeadsOnlyTo group p below)
    (strict : settings.strictAliases = true) (strict' : settings'.strictAliases = true)
    (done : ({ settings } : Registry).register catalog (.group group) none = .ok outer)
    (done' : ({ settings := settings' } : Registry).register catalog (.group below) none =
      .ok inner) :
    Nests catalog p below outer.registry.freeze.1 inner.registry.freeze.1 where
  lookup {q r} parallel name := by
    have left := parallel.reach_left leads
    have right := parallel.reach_right
    rw [lookup_freeze, lookup_freeze]
    refine Option.ext fun d => ?_
    change (outer.registry.node q).get? (Text.lower name) = some d ↔
      (inner.registry.node r).get? (Text.lower name) = some d
    rw [get?_registered_iff done strict, get?_registered_iff done' strict',
      parallel.declared_iff leads]
    simp only [left, right, true_and]
  declared {r name d} found := by
    rw [lookup_freeze] at found
    obtain ⟨reach, member, -⟩ := (get?_registered_iff done' strict').mp found
    exact ⟨reach, member⟩
  children {d e} reach := by
    have left := (Catalog.Parallel.within (p := p) reach).reach_left leads
    rw [children_freeze, children_freeze, mem_children_registered done strict left,
      mem_children_registered done' strict' reach]
    exact Iff.rfl

theorem Nests.down {outer inner : Registry} (nests : Nests catalog p below outer inner)
    (found : inner.lookup name r = some d) (nested : (catalog.definition d).isNested = true) :
    catalog.Reach below (some d) := by
  obtain ⟨reach, member⟩ := nests.declared found
  exact .nested reach member nested

end Registry

/-! ### Runs one level apart -/

structure Failure.Alike (first second : Failure) : Prop where
  kind : first.kind = second.kind
  message : first.message = second.message

/-- Resolutions that fail alike, or that reach one leaf by different paths. -/
inductive SameEnd : Except Failure Invocation → Except Failure Invocation → Prop where
  | failed {failure failure' : Failure} (alike : failure.Alike failure') :
      SameEnd (.error failure) (.error failure')
  | reached (leaf : Invocation) (path : List String) : SameEnd (.ok { leaf with path }) (.ok leaf)

namespace Dispatcher
variable {C : Type} {caller : C} {granted : Value → Bool}

def serving (dispatcher : Dispatcher C) (registry : Registry) (settings : Settings) : Dispatcher C :=
  { dispatcher with registry, settings }

section Nested
variable {dispatcher : Dispatcher C} {p : DefId} {below : GroupId} {outer inner : Registry}
  {q r r' : Parent} {name : String} {path path' before rest : List String}
  {met above : List DefId} {ending : Ending} {s s' : Settings}
  (nests : Registry.Nests dispatcher.catalog p below outer inner)
include nests

theorem sameEnd_short {d : DefId} (reach : dispatcher.catalog.Reach below (some d))
    (message : String) :
    SameEnd ((dispatcher.serving outer s).resolution granted (.short message path d))
      ((dispatcher.serving inner s').resolution granted (.short message path' d)) := by
  have children : ∀ e, e ∈ outer.children (some d) ↔ e ∈ inner.children (some d) :=
    fun _ => nests.children reach
  -- The children may come in another order, but only whether there are any makes a difference.
  have barren : outer.children (some d) = [] ↔ inner.children (some d) = [] := by
    simp only [List.eq_nil_iff_forall_not_mem, children]
  have hidden : (outer.children (some d)).filter (dispatcher.isOpen granted) = [] ↔
      (inner.children (some d)).filter (dispatcher.isOpen granted) = [] := by
    simp only [List.filter_eq_nil_iff, children]
  change SameEnd
    (if outer.children (some d) = [] then _
      else if (outer.children (some d)).filter (dispatcher.isOpen granted) = [] then _ else _)
    (if inner.children (some d) = [] then _
      else if (inner.children (some d)).filter (dispatcher.isOpen granted) = [] then _ else _)
  simp only [barren, hidden]
  split
  · exact .failed ⟨rfl, rfl⟩
  · split
    · exact .failed ⟨rfl, rfl⟩
    · exact .failed ⟨rfl, rfl⟩

theorem passes_outer {d : DefId} (parallel : dispatcher.catalog.Parallel p below q r)
    (passes : (dispatcher.serving inner s').Passes granted r name d) :
    (dispatcher.serving outer s).Passes granted q name d :=
  ⟨(nests.lookup parallel name).trans passes.found, passes.opens, passes.nested⟩

theorem descent_outer (parallel : dispatcher.catalog.Parallel p below q r)
    (descent : (dispatcher.serving inner s').Descent granted r before above r') :
    ∃ q', (dispatcher.serving outer s).Descent granted q before above q' ∧
      dispatcher.catalog.Parallel p below q' r' := by
  induction descent generalizing q with
  | here => exact ⟨q, .here q, parallel⟩
  | down passes _ ih =>
    have reach := nests.down passes.found passes.nested
    obtain ⟨q', descent, parallel'⟩ := ih (.within reach)
    exact ⟨q', .down (passes_outer nests parallel passes) descent, parallel'⟩

theorem stops_outer (token : String) (parallel : dispatcher.catalog.Parallel p below q r)
    (known : r = none → ∃ d, inner.lookup name r = some d)
    (stops : (dispatcher.serving inner s').Stops granted r before name rest met ending) :
    ∃ met' ending',
      (dispatcher.serving outer s).Stops granted q (token :: before) name rest met' ending' ∧
      SameEnd ((dispatcher.serving outer s).resolution granted ending')
        ((dispatcher.serving inner s').resolution granted ending) := by
  have lookup := nests.lookup parallel name
  cases stops with
  | unknown root missing =>
    obtain ⟨d, found⟩ := known root
    exact nomatch missing.symm.trans found
  | @astray d nested missing =>
    obtain rfl := nested
    cases parallel with
    | within reach => exact ⟨_, _, .astray rfl (lookup.trans missing), sameEnd_short nests reach _⟩
  | forbidden found closed =>
    exact ⟨_, _, .forbidden (lookup.trans found) closed, .failed ⟨rfl, rfl⟩⟩
  | last passes last =>
    have reach := nests.down passes.found passes.nested
    exact ⟨_, _, .last (passes_outer nests parallel passes) last, sameEnd_short nests reach _⟩
  | @leaf leaf ending isLeaf judged =>
    let behind : Invocation := { leaf with path := token :: before ++ [name] }
    have isLeaf' : (dispatcher.serving outer s).IsLeaf granted q (token :: before) name rest behind :=
      ⟨lookup.trans isLeaf.found, isLeaf.opens, isLeaf.body, rfl, isLeaf.context⟩
    cases judged with
    | tooFew few => exact ⟨_, _, .leaf isLeaf' (.tooFew few), .failed ⟨rfl, rfl⟩⟩
    | tooMany enough many => exact ⟨_, _, .leaf isLeaf' (.tooMany enough many), .failed ⟨rfl, rfl⟩⟩
    | unknownFlag enough bounded missed =>
      exact ⟨_, _, .leaf isLeaf' (.unknownFlag enough bounded missed), .failed ⟨rfl, rfl⟩⟩
    | call accepts => exact ⟨_, _, .leaf isLeaf' (.call accepts), .reached leaf _⟩

end Nested

theorem Descent.eq_nil {dispatcher : Dispatcher C} {q : Parent} {before : List String}
    {above : List DefId} (descent : dispatcher.Descent granted q before above none) :
    before = [] := by
  have below : ∀ {q r before above}, dispatcher.Descent granted q before above r → r = none →
      q = none ∧ before = [] := by
    intro q r before above descent root
    induction descent with
    | here => exact ⟨root, rfl⟩
    | down _ _ ih => exact absurd (ih root).1 (Option.some_ne_none _)
  exact (below descent rfl).2

/-- Runs that fail alike before any handler is called, or that call one handler with the same
context and end as it does. A handler that finishes without executing other commands ends both in
the same way. -/
inductive SameService (left right : Dispatcher C) (caller : C) (extras : List Value)
    (first second : Run Value) : Prop where
  | failed {failure failure' : Failure} (alike : failure.Alike failure')
      (ends : first.outcome = .error (.failure failure))
      (ends' : second.outcome = .error (.failure failure'))
      (idle : first.trace.calls = []) (idle' : second.trace.calls = [])
  | called (leaf : Invocation)
      (body : (right.catalog.definition leaf.definition).body = .leaf leaf.handler)
      (calls : first.trace.calls = ⟨leaf.definition, leaf.context, extras⟩ ::
        (left.handle caller leaf extras).trace.calls)
      (calls' : second.trace.calls = ⟨leaf.definition, leaf.context, extras⟩ ::
        (right.handle caller leaf extras).trace.calls)
      (ends : first.outcome = wrap (left.handle caller leaf extras).outcome)
      (ends' : second.outcome = wrap (right.handle caller leaf extras).outcome)
      (finished : ∀ outcome, leaf.handler leaf.context extras = .finish outcome →
        first.outcome = wrap outcome ∧ second.outcome = wrap outcome)

section Executing
variable {dispatcher : Dispatcher C} {left right : Dispatcher C} {tokens tokens' : List String}
  {asked asked' : List Value} {extras : List Value}

theorem handle_finish {leaf : Invocation} {outcome : Outcome}
    (finish : leaf.handler leaf.context extras = .finish outcome) :
    dispatcher.handle caller leaf extras = { outcome } := by
  rw [handle, finish, carryOut]

theorem sameService_failed {failure failure' : Failure} (alike : failure.Alike failure')
    (first : left.resolve tokens caller = ⟨.error (.failure failure), .asking asked⟩)
    (second : right.resolve tokens' caller = ⟨.error (.failure failure'), .asking asked'⟩) :
    SameService left right caller extras (left.execute tokens caller extras)
      (right.execute tokens' caller extras) := by
  rw [execute_refused first, execute_refused second]
  exact .failed alike rfl rfl (Trace.calls_asking _) (Trace.calls_asking _)

theorem sameService_called {leaf : Invocation} {path : List String}
    (body : (right.catalog.definition leaf.definition).body = .leaf leaf.handler)
    (first : left.resolve tokens caller = ⟨.ok { leaf with path }, .asking asked⟩)
    (second : right.resolve tokens' caller = ⟨.ok leaf, .asking asked'⟩) :
    SameService left right caller extras (left.execute tokens caller extras)
      (right.execute tokens' caller extras) := by
  let behind : Invocation := { leaf with path }
  have calls : (left.execute tokens caller extras).trace.calls =
      ⟨behind.definition, behind.context, extras⟩ ::
        (left.handle caller behind extras).trace.calls := calls_execute_called first
  have ends : (left.execute tokens caller extras).outcome =
      wrap (left.handle caller behind extras).outcome := by
    rw [execute_called first]
  have ends' : (right.execute tokens' caller extras).outcome =
      wrap (right.handle caller leaf extras).outcome := by
    rw [execute_called second]
  refine .called leaf body calls (calls_execute_called second) ends ends' ?_
  intro outcome finish
  have done : behind.handler behind.context extras = .finish outcome := finish
  rw [ends, ends', handle_finish done, handle_finish finish]
  exact ⟨rfl, rfl⟩

theorem execute_behind {p : DefId} {below : GroupId} {outer inner : Registry} {a t : String}
    {ts : List String} {s s' : Settings} (nests : Registry.Nests dispatcher.catalog p below outer inner)
    (typed : dispatcher.catalog.IsTyped) (frozen : outer.frozen = true)
    (frozen' : inner.frozen = true) (answers : dispatcher.Answers caller granted)
    (passes : (dispatcher.serving outer s).Passes granted none a p)
    (known : ∃ e, inner.lookup t none = some e) :
    SameService (dispatcher.serving outer s) (dispatcher.serving inner s') caller extras
      ((dispatcher.serving outer s).execute (a :: t :: ts) caller extras)
      ((dispatcher.serving inner s').execute (t :: ts) caller extras) := by
  have typedInner : (dispatcher.serving inner s').catalog.IsTyped := typed
  have typedOuter : (dispatcher.serving outer s).catalog.IsTyped := typed
  have answersInner : (dispatcher.serving inner s').Answers caller granted := answers
  have answersOuter : (dispatcher.serving outer s).Answers caller granted := answers
  obtain ⟨before, name, rest, above, r, met, ending, split, descent, stops⟩ :=
    descent_exists typedInner granted (t :: ts) (List.cons_ne_nil _ _) none []
  have named : r = none → ∃ e, inner.lookup name r = some e := by
    rintro rfl
    obtain rfl := descent.eq_nil
    obtain ⟨rfl, -⟩ := List.cons.inj split
    exact known
  obtain ⟨q, descent', parallel⟩ := descent_outer nests .top descent
  obtain ⟨met', ending', stops', same⟩ := stops_outer nests a parallel named stops
  have ends := EndsIn.intro descent stops
  have ends' := EndsIn.intro (.down passes descent') stops'
  have resolved := resolve_of_answers answersInner typedInner (fun _ => frozen') ends
  have resolved' := resolve_of_answers answersOuter typedOuter (fun _ => frozen) ends'
  rw [List.cons_append, ← split] at resolved'
  rw [← split] at resolved
  generalize (dispatcher.serving outer s).resolution granted ending' = first at same resolved'
  cases reached : (dispatcher.serving inner s').resolution granted ending with
  | error failure =>
    rw [reached] at same resolved
    cases same with
    | failed alike => exact sameService_failed alike resolved' resolved
  | ok leaf =>
    obtain rfl := resolution_eq_ok_iff.mp reached
    have names := names_iff.mpr ⟨_, ends⟩
    rw [reached] at same resolved
    cases same with
    | reached leaf path => exact sameService_called names.body resolved' resolved

/-- Nesting a group is transparent. When a group with a nested command that leads to one group only
is registered with strict names, that one group can be registered by itself with strict names, and
whatever a caller who may use the command executes behind its name is served as it is without the
name: one handler is called with the same context, or both commands fail with one kind and message.
-/
theorem execute_nested_transparent {settings : Settings} {group below : GroupId} {p : DefId}
    {outer : Registry.Registration}
    (reachable : Host.Reachable ⟨dispatcher.catalog, { settings }⟩)
    (strict : settings.strictAliases = true)
    (member : p ∈ dispatcher.catalog.members group)
    (only : ∀ g, g ∈ (dispatcher.catalog.definition p).nested ↔ g = below)
    (done : ({ settings } : Registry).register dispatcher.catalog (.group group) none = .ok outer)
    (settings' : Settings) (strict' : settings'.strictAliases = true) :
    ∃ inner, ({ settings := settings' } : Registry).register dispatcher.catalog (.group below) none =
        .ok inner ∧
      ∀ caller granted, dispatcher.Answers caller granted → dispatcher.isOpen granted p = true →
        ∀ a t, outer.registry.freeze.1.lookup a none = some p →
          (∃ e, inner.registry.freeze.1.lookup t none = some e) → ∀ ts extras s s',
            SameService (dispatcher.serving outer.registry.freeze.1 s)
              (dispatcher.serving inner.registry.freeze.1 s') caller extras
              ((dispatcher.serving outer.registry.freeze.1 s).execute (a :: t :: ts) caller extras)
              ((dispatcher.serving inner.registry.freeze.1 s').execute (t :: ts) caller extras) := by
  have leads : dispatcher.catalog.LeadsOnlyTo group p below := ⟨member, only⟩
  obtain ⟨inner, done'⟩ := Registry.register_below leads strict done settings'
  have nests := Registry.nests_registered leads strict strict' done done'
  refine ⟨inner, done', fun caller granted answers opens a t found known ts extras s s' => ?_⟩
  exact execute_behind nests (Host.reachable_isTyped reachable) (Registry.frozen_freeze _)
    (Registry.frozen_freeze _) answers ⟨found, opens, leads.isNested⟩ known

/-- The group that leads back to itself serves `go go stop` as it serves `go stop`. -/
theorem execute_nested_transparent_wanderer :
    ∃ outer inner : Registry, outer.lookup "go" none = some ⟨0⟩ ∧
      SameService (wanderer.serving outer {}) (wanderer.serving inner {}) () []
        ((wanderer.serving outer {}).execute ["go", "go", "stop"] () [])
        ((wanderer.serving inner {}).execute ["go", "stop"] () []) ∧
      ((wanderer.serving inner {}).execute ["go", "stop"] () []).outcome = .ok .null := by
  let settings : Settings := { strictAliases := true }
  have outcome : (Registry.attempt { settings } wanderer.catalog (.group ⟨0⟩) none).outcome =
      .ok (wanderer.catalog.members ⟨0⟩) := by decide +kernel
  obtain ⟨outer, done⟩ := Registry.register_of_outcome _ outcome
  have only : ∀ g, g ∈ (wanderer.catalog.definition ⟨0⟩).nested ↔ g = ⟨0⟩ := fun _ =>
    List.mem_singleton
  obtain ⟨inner, done', served⟩ := execute_nested_transparent (reachable_leadingBack settings) rfl
    (by decide) only done settings rfl
  have answers : wanderer.Answers () fun _ => true := fun _ _ _ => rfl
  have same : ∀ {registration}, Registry.register { settings } wanderer.catalog (.group ⟨0⟩) none =
      .ok registration → registration.registry.freeze.1 = wanderer.registry := by
    intro registration done
    rw [← (Registry.register_ok _ done).2]
    rfl
  have found : wanderer.registry.lookup "go" none = some ⟨0⟩ := by decide +kernel
  have ended : (wanderer.execute ["go", "stop"] () []).outcome = .ok .null := by with_unfolding_all rfl
  refine ⟨outer.registry.freeze.1, inner.registry.freeze.1, ?_, ?_, ?_⟩
  · rw [same done]
    exact found
  · refine served () _ answers (isOpen_of_granted _) "go" "go" ?_ ?_ ["stop"] [] {} {}
    · rw [same done]
      exact found
    · rw [same done']
      exact ⟨_, found⟩
  · rw [same done']
    exact ended

end Executing
end Dispatcher
end CommandTree
