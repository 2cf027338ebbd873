import CommandTree.Proofs.Resolution
import CommandTree.Proofs.Standing

namespace CommandTree.Dispatcher

section Handling
variable {C : Type} (dispatcher : Dispatcher C)

/-- What the handler of a leaf does, with the commands that it executes. -/
def handle (caller : C) (leaf : Invocation) (extras : List Value) : Run Value :=
  carryOut (dispatcher.executeWithin dispatcher.depth) (dispatcher.check caller)
    (leaf.handler leaf.context extras)

/-- The tokens lead down open nested commands to an open leaf that takes what follows its name. -/
def Names (granted : Value → Bool) (tokens : List String) (leaf : Invocation) : Prop :=
  ∃ before name rest above p, tokens = before ++ name :: rest ∧
    dispatcher.Descent granted none before above p ∧
    dispatcher.IsLeaf granted p before name rest leaf ∧
    (dispatcher.catalog.definition leaf.definition).Accepts leaf.context

end Handling

variable {C : Type} {dispatcher : Dispatcher C} {caller : C} {granted : Value → Bool}
  {tokens : List String} {extras : List Value} {leaf : Invocation} {ending : Ending}

theorem names_iff : dispatcher.Names granted tokens leaf ↔
    ∃ met, dispatcher.EndsIn granted tokens met (.call leaf) := by
  constructor
  · rintro ⟨before, name, rest, above, p, rfl, descent, isLeaf, accepts⟩
    exact ⟨_, .intro descent (.leaf isLeaf (.call accepts))⟩
  · rintro ⟨met, descent, stops⟩
    cases stops with
    | leaf isLeaf judged =>
      cases judged with
      | call accepts => exact ⟨_, _, _, _, _, rfl, descent, isLeaf, accepts⟩

theorem Names.body (names : dispatcher.Names granted tokens leaf) :
    (dispatcher.catalog.definition leaf.definition).body = .leaf leaf.handler := by
  obtain ⟨_, _, _, _, _, -, -, isLeaf, -⟩ := names
  exact isLeaf.body

theorem resolution_eq_ok_iff :
    dispatcher.resolution granted ending = .ok leaf ↔ ending = .call leaf := by
  cases ending with
  | short message path p =>
    simp only [resolution, reduceCtorEq, iff_false]
    split
    · simp
    · split <;> simp
  | _ => simp [resolution]

theorem resolve_cases (typed : dispatcher.catalog.IsTyped)
    (answers : dispatcher.Answers caller granted)
    (ready : dispatcher.settings.requireFrozen = true → dispatcher.registry.frozen = true)
    (given : tokens ≠ []) :
    ∃ asked, (∃ leaf, dispatcher.Names granted tokens leaf ∧
        dispatcher.resolve tokens caller = ⟨.ok leaf, .asking asked⟩) ∨
      ∃ met ending failure, dispatcher.EndsIn granted tokens met ending ∧
        dispatcher.resolution granted ending = .error failure ∧
        dispatcher.resolve tokens caller = ⟨.error (.failure failure), .asking asked⟩ := by
  obtain ⟨met, ending, ends⟩ := endsIn_exists typed granted given
  have resolved := resolve_of_answers answers typed ready ends
  cases decided : dispatcher.resolution granted ending with
  | ok leaf =>
    rw [decided] at resolved
    obtain rfl := resolution_eq_ok_iff.mp decided
    exact ⟨_, .inl ⟨leaf, names_iff.mpr ⟨met, ends⟩, resolved⟩⟩
  | error failure =>
    rw [decided] at resolved
    exact ⟨_, .inr ⟨met, ending, failure, ends, decided, resolved⟩⟩

section Within
variable {standing : Standing} {depth : Nat} {trace : Trace}

theorem executeWithin_refused {interrupt : Interrupt}
    (resolved : dispatcher.anyone.resolve tokens standing = ⟨.error interrupt, trace⟩) :
    dispatcher.executeWithin (depth + 1) standing tokens extras = ⟨.error interrupt, trace⟩ := by
  rw [executeWithin, resolved, Run.bind_stopped]

theorem executeWithin_called
    (resolved : dispatcher.anyone.resolve tokens standing = ⟨.ok leaf, trace⟩) :
    dispatcher.executeWithin (depth + 1) standing tokens extras =
      let run := carryOut (dispatcher.executeWithin depth) standing
        (leaf.handler leaf.context extras)
      ⟨wrap run.outcome,
        trace ++ .logged ⟨.debug, "Executing command: " ++ " ".intercalate leaf.path⟩ ::
          .called ⟨leaf.definition, leaf.context, extras⟩ :: run.trace⟩ := by
  rw [executeWithin, resolved, Run.bind_done]
  rfl

end Within

theorem execute_refused {interrupt : Interrupt} {trace : Trace}
    (resolved : dispatcher.resolve tokens caller = ⟨.error interrupt, trace⟩) :
    dispatcher.execute tokens caller extras = ⟨.error interrupt, trace⟩ :=
  executeWithin_refused ((dispatcher.resolve_anyone caller tokens).trans resolved)

theorem execute_called {trace : Trace}
    (resolved : dispatcher.resolve tokens caller = ⟨.ok leaf, trace⟩) :
    dispatcher.execute tokens caller extras =
      ⟨wrap (dispatcher.handle caller leaf extras).outcome,
        trace ++ .logged ⟨.debug, "Executing command: " ++ " ".intercalate leaf.path⟩ ::
          .called ⟨leaf.definition, leaf.context, extras⟩ ::
            (dispatcher.handle caller leaf extras).trace⟩ :=
  executeWithin_called ((dispatcher.resolve_anyone caller tokens).trans resolved)

/-- A command calls a handler exactly when its tokens lead to a leaf that takes what follows its
name. It then logs one record and calls that handler once, with what was read and the extra
arguments, and hands the value of the handler on. -/
theorem execute_calls_iff
    (reachable : Host.Reachable ⟨dispatcher.catalog, dispatcher.registry⟩)
    (ready : dispatcher.settings.requireFrozen = true → dispatcher.registry.frozen = true)
    (answers : ∀ permission, dispatcher.check caller permission = .ok (granted permission))
    (given : tokens ≠ []) (extras : List Value) :
    ((dispatcher.execute tokens caller extras).trace.calls ≠ [] ↔
      ∃ leaf, dispatcher.Names granted tokens leaf) ∧
    ∀ leaf, dispatcher.Names granted tokens leaf →
      (∃ asked : List Value, (dispatcher.execute tokens caller extras).trace =
        asked.map .asked ++
          .logged ⟨.debug, "Executing command: " ++ " ".intercalate leaf.path⟩ ::
          .called ⟨leaf.definition, leaf.context, extras⟩ ::
          (dispatcher.handle caller leaf extras).trace) ∧
      ∀ value, (dispatcher.handle caller leaf extras).outcome = .ok value →
        (dispatcher.execute tokens caller extras).outcome = .ok value := by
  have typed := Host.reachable_isTyped reachable
  have calls : ∀ leaf, dispatcher.Names granted tokens leaf → ∃ asked,
      dispatcher.execute tokens caller extras =
        ⟨wrap (dispatcher.handle caller leaf extras).outcome,
          .asking asked ++ .logged ⟨.debug, "Executing command: " ++ " ".intercalate leaf.path⟩ ::
            .called ⟨leaf.definition, leaf.context, extras⟩ ::
              (dispatcher.handle caller leaf extras).trace⟩ := by
    intro leaf names
    obtain ⟨met, ends⟩ := names_iff.mp names
    exact ⟨_, execute_called (resolve_eq answers typed ready ends)⟩
  refine ⟨⟨?_, ?_⟩, ?_⟩
  · intro called
    obtain ⟨met, ending, ends⟩ := endsIn_exists typed granted given
    have resolved := resolve_eq answers typed ready ends
    cases resolution : dispatcher.resolution granted ending with
    | error failure =>
      rw [resolution] at resolved
      rw [execute_refused resolved] at called
      exact absurd (Trace.calls_asking _) called
    | ok leaf =>
      obtain rfl := resolution_eq_ok_iff.mp resolution
      exact ⟨leaf, names_iff.mpr ⟨met, ends⟩⟩
  · rintro ⟨leaf, names⟩
    obtain ⟨asked, same⟩ := calls leaf names
    rw [same, Trace.calls, List.filterMap_append]
    simp [Event.call?]
  · intro leaf names
    obtain ⟨asked, same⟩ := calls leaf names
    refine ⟨⟨asked, congrArg Run.trace same⟩, fun value done => ?_⟩
    rw [same, done]
    rfl

def sphere : Draft where
  aliases := .str "sphere"
  handler := some fun _ _ => .give (.str "done")
  usage := .str "<block> [radius]"
  flags := .str "h"
  minArgs := .int 1
  maxArgs := .int 2
  permissions := .str "brush.sphere"

def brush : Draft where
  aliases := .str "brush"
  nested := [.group ⟨1⟩]

def brushes : Catalog where
  groups := #[{ members := [⟨1⟩] }, { members := [⟨0⟩] }]
  definitions := #[{
      name := "sphere"
      usage := .str "<block> [radius]"
      flags := .str "h"
      alphabet := { letters := ['h'] }
      minArgs := .int 1
      maxArgs := .int 2
      bounds := ⟨.finite 1, .finite 2⟩
      permissions := [.str "brush.sphere"]
      body := .leaf fun _ _ => .give (.str "done") },
    { name := "brush", body := .nested ⟨1⟩ [] }]

def painter : Host where
  catalog := brushes
  registry := ((Registry.attempt {} brushes (.group ⟨0⟩) none).registry.freeze).1

theorem reachable_painter : painter.Reachable := by
  let empty : Host := { registry := {} }
  let grouped : Host := { empty with catalog.groups := #[{}, {}] }
  let withLeaf : Host := { empty with
    catalog := ⟨#[{}, { members := [⟨0⟩] }], #[brushes.definition ⟨0⟩]⟩ }
  have grouping : grouped.Reachable := ((Host.Reachable.fresh {}).step (.group _ (.str ""))).step
    (.group _ (.str ""))
  have leafDeclared : grouped.catalog.command ⟨1⟩ sphere .null = .ok (⟨0⟩, withLeaf.catalog) := rfl
  have nestDeclared : withLeaf.catalog.nest ⟨0⟩ brush = .ok (⟨1⟩, brushes) := rfl
  have declaring : withLeaf.Reachable :=
    grouping.step (.command ⟨⟨1, rfl⟩, ⟨2, rfl⟩, _, rfl⟩ leafDeclared)
  have nesting : Host.Reachable ⟨brushes, {}⟩ :=
    declaring.step (.nest ⟨⟨0, rfl⟩, ⟨-1, rfl⟩, _, rfl⟩ nestDeclared)
  exact (nesting.step (.register _ (.group ⟨0⟩) none)).step (.freeze _)

/-- Whoever holds the permission of the sphere asks at this desk. -/
def easel : Dispatcher Unit where
  catalog := painter.catalog
  registry := painter.registry
  check _ permission := .ok (permission.text == "brush.sphere")
  settings := {}

def sphereLeaf : Invocation where
  path := ["Brush", "sphere"]
  definition := ⟨0⟩
  handler _ _ := .give (.str "done")
  context := Context.read [] "sphere" ["stone", "-h"]

theorem reachable_easel : Host.Reachable ⟨easel.catalog, easel.registry⟩ := reachable_painter

theorem frozen_easel : easel.registry.frozen = true := by decide +kernel

theorem passes_brush : easel.Passes (·.text == "brush.sphere") none "Brush" ⟨1⟩ :=
  ⟨by decide +kernel, rfl, rfl⟩

theorem execute_calls_iff_sphere :
    (easel.execute ["Brush", "sphere", "stone", "-h"] () []).trace.calls ≠ [] ∧
      (easel.execute ["Brush", "sphere", "stone", "-h"] () []).outcome = .ok (.str "done") := by
  have answers : ∀ permission, easel.check () permission = .ok (permission.text == "brush.sphere") :=
    fun _ => rfl
  have given : ["Brush", "sphere", "stone", "-h"] ≠ [] := List.cons_ne_nil _ _
  obtain ⟨exactly, after⟩ :=
    execute_calls_iff reachable_easel (fun _ => frozen_easel) answers given []
  have args : sphereLeaf.context.args = ["stone"] := by decide +kernel
  have flags : sphereLeaf.context.flags = ['h'] := by decide +kernel
  have isLeaf : easel.IsLeaf (·.text == "brush.sphere") (some ⟨1⟩) ["Brush"] "sphere" ["stone", "-h"]
      sphereLeaf := ⟨by decide +kernel, by decide, rfl, rfl, rfl⟩
  have accepts : (easel.catalog.definition ⟨0⟩).Accepts sphereLeaf.context := by
    refine ⟨⟨1, rfl, ?_⟩, ⟨2, rfl, .inr ?_⟩, ?_⟩
    · rw [args]
      decide
    · rw [args]
      decide
    · intro flag member
      rw [flags] at member
      exact member
  have names : easel.Names (·.text == "brush.sphere") ["Brush", "sphere", "stone", "-h"] sphereLeaf :=
    ⟨_, _, _, _, _, rfl, .down passes_brush (.here _), isLeaf, accepts⟩
  exact ⟨exactly.mpr ⟨_, names⟩, (after _ names).2 _ rfl⟩

/-- The tokens of a command end in one way. The command fails with what that ending says, before any
handler is called, or else the handler of the leaf is called. -/
theorem execute_of_ending
    (reachable : Host.Reachable ⟨dispatcher.catalog, dispatcher.registry⟩)
    (ready : dispatcher.settings.requireFrozen = true → dispatcher.registry.frozen = true)
    (answers : ∀ permission, dispatcher.check caller permission = .ok (granted permission))
    (given : tokens ≠ []) (extras : List Value) :
    ∃ met ending, dispatcher.EndsIn granted tokens met ending ∧
      (∀ met' ending', dispatcher.EndsIn granted tokens met' ending' →
        met = met' ∧ ending = ending') ∧
      (∀ failure, dispatcher.resolution granted ending = .error failure →
        (dispatcher.execute tokens caller extras).outcome = .error (.failure failure) ∧
        (dispatcher.execute tokens caller extras).trace.calls = [] ∧
        (dispatcher.execute tokens caller extras).trace.records = []) ∧
      ∀ leaf, dispatcher.resolution granted ending = .ok leaf →
        (dispatcher.execute tokens caller extras).outcome =
          wrap (dispatcher.handle caller leaf extras).outcome ∧
        (dispatcher.execute tokens caller extras).trace.calls =
          ⟨leaf.definition, leaf.context, extras⟩ ::
            (dispatcher.handle caller leaf extras).trace.calls := by
  have typed := Host.reachable_isTyped reachable
  obtain ⟨met, ending, ends⟩ := endsIn_exists typed granted given
  have resolved := resolve_eq answers typed ready ends
  refine ⟨met, ending, ends, fun _ _ => ends.unique typed, fun failure refused => ?_,
    fun leaf reached => ?_⟩
  · rw [refused] at resolved
    rw [execute_refused resolved]
    exact ⟨rfl, Trace.calls_asking _, Trace.records_asking _⟩
  · rw [reached] at resolved
    rw [execute_called resolved]
    refine ⟨rfl, ?_⟩
    rw [Trace.calls, List.filterMap_append]
    exact congrArg (· ++ _) (Trace.calls_asking _)

theorem execute_of_ending_cube :
    (easel.execute ["brush", "cube"] () []).outcome = .error (.failure {
      kind := .missingSubCommand
      message := .str "Unknown command: cube"
      usage := .str "/brush <sphere>" }) := by
  have answers : ∀ permission, easel.check () permission = .ok (permission.text == "brush.sphere") :=
    fun _ => rfl
  obtain ⟨met, ending, -, unique, refused, -⟩ := execute_of_ending reachable_easel
    (fun _ => frozen_easel) answers (List.cons_ne_nil "brush" ["cube"]) []
  have passes : easel.Passes (·.text == "brush.sphere") none "brush" ⟨1⟩ :=
    ⟨by decide +kernel, rfl, rfl⟩
  have missing : easel.registry.lookup "cube" (some ⟨1⟩) = none := by decide +kernel
  have ends : easel.EndsIn (·.text == "brush.sphere") ["brush", "cube"] _ _ :=
    .intro (.down passes (.here _)) (.astray rfl missing)
  obtain ⟨-, rfl⟩ := unique _ _ ends
  exact (refused _ (by with_unfolding_all rfl)).1

end CommandTree.Dispatcher
