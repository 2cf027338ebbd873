import Mathlib.Data.List.Basic
import CommandTree.Proofs.Execution

namespace CommandTree

namespace PermissionSet
variable {held wider : PermissionSet}

theorem grants_mono (more : held.nodes ⊆ wider.nodes) {permission : String}
    (granted : held.grants permission = true) : wider.grants permission = true := by
  simp only [grants, Bool.or_eq_true, List.contains_iff_mem, List.any_eq_true] at granted ⊢
  obtain (itself | all) | ⟨path, above, node⟩ := granted
  · exact .inl (.inl (more itself))
  · exact .inl (.inr (more all))
  · exact .inr ⟨path, above, more node⟩

def opens (held : PermissionSet) (permission : Value) : Bool := held.grants permission.text

end PermissionSet

/-- Every permission that a command declares is a text. -/
def Catalog.DeclaresTexts (catalog : Catalog) : Prop :=
  ∀ d, ∀ permission ∈ (catalog.definition d).permissions, ∃ path, permission = .str path

namespace Dispatcher

section Endings
variable {C : Type} {dispatcher : Dispatcher C} {granted wider : Value → Bool} {p q : Parent}
  {before rest tokens : List String} {name : String} {above met : List DefId} {ending : Ending}
  {leaf : Invocation} {d : DefId}

def choices (dispatcher : Dispatcher C) (granted : Value → Bool) (p : DefId) : List String :=
  ((dispatcher.registry.children (some p)).filter (dispatcher.isOpen granted)).map
    dispatcher.catalog.name

section Monotone
variable (more : ∀ permission, granted permission = true → wider permission = true)
include more

theorem isOpen_mono (opens : dispatcher.isOpen granted d = true) :
    dispatcher.isOpen wider d = true := by
  simp only [isOpen, Definition.isOpenTo, Bool.or_eq_true, List.any_eq_true] at opens ⊢
  obtain free | ⟨permission, declared, given⟩ := opens
  · exact .inl free
  · exact .inr ⟨permission, declared, more permission given⟩

theorem choices_mono (p : DefId) :
    (dispatcher.choices granted p).Sublist (dispatcher.choices wider p) :=
  (List.monotone_filter_right _ fun _ => isOpen_mono more).map _

theorem Passes.mono (passes : dispatcher.Passes granted p name d) :
    dispatcher.Passes wider p name d :=
  { passes with opens := isOpen_mono more passes.opens }

theorem Descent.mono (descent : dispatcher.Descent granted p before above q) :
    dispatcher.Descent wider p before above q := by
  induction descent with
  | here => exact .here _
  | down passes _ ih => exact .down (passes.mono more) ih

theorem IsLeaf.mono (isLeaf : dispatcher.IsLeaf granted p before name rest leaf) :
    dispatcher.IsLeaf wider p before name rest leaf :=
  { isLeaf with opens := isOpen_mono more isLeaf.opens }

theorem Stops.mono (stops : dispatcher.Stops granted p before name rest met ending)
    (allowed : ∀ d, ending ≠ .forbidden d) :
    dispatcher.Stops wider p before name rest met ending := by
  cases stops with
  | unknown root missing => exact .unknown root missing
  | astray nested missing => exact .astray nested missing
  | forbidden => exact absurd rfl (allowed _)
  | last passes last => exact .last (passes.mono more) last
  | leaf isLeaf judged => exact .leaf (isLeaf.mono more) judged

theorem EndsIn.mono (ends : dispatcher.EndsIn granted tokens met ending)
    (allowed : ∀ d, ending ≠ .forbidden d) : dispatcher.EndsIn wider tokens met ending := by
  obtain ⟨descent, stops⟩ := ends
  exact .intro (descent.mono more) (stops.mono more allowed)

end Monotone

theorem choices_eq_nil_iff {p : DefId} : dispatcher.choices granted p = [] ↔
    (dispatcher.registry.children (some p)).filter (dispatcher.isOpen granted) = [] :=
  List.map_eq_nil_iff

/-- The failure of a nested command that lists sub-commands. -/
def shortage (dispatcher : Dispatcher C) (message : String) (path : List String)
    (choices : List String) : Failure where
  kind := .missingSubCommand
  message := .str message
  usage := dispatcher.listing path ("|".intercalate choices)

theorem resolution_short {message : String} {path : List String} {p : DefId}
    (listed : dispatcher.choices granted p ≠ []) :
    dispatcher.resolution granted (.short message path p) =
      .error (dispatcher.shortage message path (dispatcher.choices granted p)) := by
  rw [ne_eq, choices_eq_nil_iff] at listed
  have fruitful : dispatcher.registry.children (some p) ≠ [] := by
    intro barren
    rw [barren] at listed
    exact listed rfl
  simp only [resolution]
  rw [if_neg fruitful, if_neg listed]
  rfl

/-- Unless it is a refusal, an ending comes to the same for whoever is granted more, or to a list
that may be longer. -/
theorem resolution_mono (more : ∀ permission, granted permission = true → wider permission = true)
    (allowed : dispatcher.resolution granted ending ≠ .error .denied) :
    dispatcher.resolution wider ending = dispatcher.resolution granted ending ∨
      ∃ message path p, dispatcher.resolution granted ending =
          .error (dispatcher.shortage message path (dispatcher.choices granted p)) ∧
        dispatcher.resolution wider ending =
          .error (dispatcher.shortage message path (dispatcher.choices wider p)) := by
  cases ending with
  | short message path p =>
    by_cases barren : dispatcher.registry.children (some p) = []
    · simp only [resolution]
      exact .inl ((if_pos barren).trans (if_pos barren).symm)
    · have listed : dispatcher.choices granted p ≠ [] := by
        rw [ne_eq, choices_eq_nil_iff]
        intro hidden
        refine allowed ?_
        simp only [resolution]
        rw [if_neg barren, if_pos hidden]
      have fewer : (dispatcher.choices granted p).Sublist (dispatcher.choices wider p) :=
        choices_mono more p
      have listed' : dispatcher.choices wider p ≠ [] := by
        intro hidden
        rw [hidden] at fewer
        exact listed (List.sublist_nil.mp fewer)
      exact .inr ⟨message, path, p, resolution_short listed, resolution_short listed'⟩
  | _ => exact .inl rfl

end Endings

/-! ### Who calls -/

section Executing
variable {C : Type} {dispatcher : Dispatcher C} {caller : C} {tokens : List String}
  {extras : List Value}

/-- A command fails for want of a permission before any handler is called. -/
def Refuses (dispatcher : Dispatcher C) (tokens : List String) (caller : C) (extras : List Value) :
    Prop :=
  (dispatcher.execute tokens caller extras).trace.calls = [] ∧
    ∃ failure, (dispatcher.execute tokens caller extras).outcome = .error (.failure failure) ∧
      failure.kind = .permissionDenied

/-- What a handler does depends on its context and the extra arguments, not on the caller. -/
def IgnoresCallers (dispatcher : Dispatcher C) : Prop :=
  ∀ leaf : Invocation, (dispatcher.catalog.definition leaf.definition).body = .leaf leaf.handler →
    ∀ extras caller caller',
      (dispatcher.handle caller leaf extras).outcome =
          (dispatcher.handle caller' leaf extras).outcome ∧
        (dispatcher.handle caller leaf extras).trace.calls =
          (dispatcher.handle caller' leaf extras).trace.calls

theorem ignoresCallers_of_finish
    (direct : ∀ d handler, (dispatcher.catalog.definition d).body = .leaf handler →
      ∀ context extras, ∃ outcome, handler context extras = .finish outcome) :
    dispatcher.IgnoresCallers := by
  intro leaf body extras caller caller'
  obtain ⟨outcome, finished⟩ := direct leaf.definition leaf.handler body leaf.context extras
  rw [handle, handle, finished]
  exact ⟨rfl, rfl⟩

theorem served_or_stops (dispatcher : Dispatcher C) (tokens : List String) :
    (tokens ≠ [] ∧
      (dispatcher.settings.requireFrozen = true → dispatcher.registry.frozen = true)) ∨
    ∃ fault, fault.isOrdinary = true ∧
      ∀ caller, dispatcher.resolve tokens caller = ⟨.error (.fault fault), []⟩ := by
  unfold resolve
  by_cases given : tokens = []
  · subst given
    exact .inr ⟨.emptyCommand, rfl, fun _ => rfl⟩
  · rw [List.isEmpty_eq_false_iff.mpr given]
    cases phase : dispatcher.settings.requireFrozen && !dispatcher.registry.frozen with
    | true => exact .inr ⟨.notFrozen, rfl, fun _ => rfl⟩
    | false =>
      refine .inl ⟨given, fun required => ?_⟩
      simpa [required] using phase

theorem calls_execute_called {leaf : Invocation} {asked : List Value}
    (resolved : dispatcher.resolve tokens caller = ⟨.ok leaf, .asking asked⟩) :
    (dispatcher.execute tokens caller extras).trace.calls =
      ⟨leaf.definition, leaf.context, extras⟩ ::
        (dispatcher.handle caller leaf extras).trace.calls := by
  rw [execute_called resolved, Trace.calls, List.filterMap_append]
  exact congrArg (· ++ _) (Trace.calls_asking asked)

theorem refuses_of_denied {asked : List Value}
    (resolved : dispatcher.resolve tokens caller = ⟨.error (.failure .denied), .asking asked⟩) :
    dispatcher.Refuses tokens caller extras := by
  rw [Refuses, execute_refused resolved]
  exact ⟨Trace.calls_asking asked, _, rfl, rfl⟩

end Executing

/-- Two runs that call the same handlers and end in the same way, or that both fail for want of a
sub-command, the second with a list that has all that the first lists. -/
inductive Widens {C : Type} (dispatcher : Dispatcher C) (granted wider : Value → Bool)
    (run run' : Run Value) : Prop where
  | same (outcome : run'.outcome = run.outcome) (calls : run'.trace.calls = run.trace.calls)
  | listing (message : String) (path : List String) (p : DefId)
      (fewer : (dispatcher.choices granted p).Sublist (dispatcher.choices wider p))
      (calls : run.trace.calls = [])
      (outcome : run.outcome =
        .error (.failure (dispatcher.shortage message path (dispatcher.choices granted p))))
      (calls' : run'.trace.calls = [])
      (outcome' : run'.outcome =
        .error (.failure (dispatcher.shortage message path (dispatcher.choices wider p))))

section TwoCallers
variable {C : Type} {dispatcher : Dispatcher C} {caller caller' : C} {granted wider : Value → Bool}
  {tokens : List String} {met : List DefId} {ending : Ending}

theorem widens_of_ending (impartial : dispatcher.IgnoresCallers)
    (more : ∀ permission, granted permission = true → wider permission = true)
    (ends : dispatcher.EndsIn granted tokens met ending) {asked asked' : List Value}
    (resolved : dispatcher.resolve tokens caller =
      ⟨(dispatcher.resolution granted ending).mapError .failure, .asking asked⟩)
    (resolved' : dispatcher.resolve tokens caller' =
      ⟨(dispatcher.resolution wider ending).mapError .failure, .asking asked'⟩)
    (allowed : dispatcher.resolution granted ending ≠ .error .denied) (extras : List Value) :
    dispatcher.Widens granted wider (dispatcher.execute tokens caller extras)
      (dispatcher.execute tokens caller' extras) := by
  obtain same | ⟨message, path, p, here, there⟩ := resolution_mono more allowed
  · rw [same] at resolved'
    cases decided : dispatcher.resolution granted ending with
    | error failure =>
      rw [decided] at resolved resolved'
      rw [execute_refused resolved, execute_refused resolved']
      exact .same rfl ((Trace.calls_asking _).trans (Trace.calls_asking _).symm)
    | ok leaf =>
      rw [decided] at resolved resolved'
      obtain rfl := resolution_eq_ok_iff.mp decided
      have names := names_iff.mpr ⟨met, ends⟩
      obtain ⟨outcome, calls⟩ := impartial leaf names.body extras caller' caller
      refine .same ?_ ?_
      · rw [execute_called resolved, execute_called resolved', outcome]
      · rw [calls_execute_called resolved, calls_execute_called resolved', calls]
  · rw [here] at resolved
    rw [there] at resolved'
    rw [execute_refused resolved, execute_refused resolved']
    exact .listing message path p (choices_mono more p) (Trace.calls_asking _) rfl
      (Trace.calls_asking _) rfl

end TwoCallers

variable {dispatcher : Dispatcher Caller} {held wider : PermissionSet}

theorem answers_holding (asks : dispatcher.check = Caller.hasPermission)
    (texts : dispatcher.catalog.DeclaresTexts) (held : PermissionSet) :
    dispatcher.Answers (.holding held) held.opens := by
  intro d permission declared
  obtain ⟨path, rfl⟩ := texts d permission declared
  rw [asks]
  rfl

theorem widens_of_not_refuses
    (typed : dispatcher.catalog.IsTyped) (asks : dispatcher.check = Caller.hasPermission)
    (texts : dispatcher.catalog.DeclaresTexts) (impartial : dispatcher.IgnoresCallers)
    (more : held.nodes ⊆ wider.nodes) {tokens : List String} {extras : List Value}
    (allowed : ¬ dispatcher.Refuses tokens (.holding held) extras) :
    dispatcher.Widens held.opens wider.opens (dispatcher.execute tokens (.holding held) extras)
      (dispatcher.execute tokens (.holding wider) extras) := by
  obtain ⟨given, ready⟩ | ⟨fault, -, stopped⟩ := served_or_stops dispatcher tokens
  · have opens : ∀ permission, held.opens permission = true → wider.opens permission = true :=
      fun _ => PermissionSet.grants_mono more
    obtain ⟨met, ending, ends⟩ := endsIn_exists typed held.opens given
    have resolved := resolve_of_answers (answers_holding asks texts held) typed ready ends
    have undenied : dispatcher.resolution held.opens ending ≠ .error .denied := by
      intro denied
      rw [denied] at resolved
      exact allowed (refuses_of_denied resolved)
    have ends' : dispatcher.EndsIn wider.opens tokens met ending := by
      refine ends.mono opens fun d forbidden => undenied ?_
      rw [forbidden]
      rfl
    have resolved' := resolve_of_answers (answers_holding asks texts wider) typed ready ends'
    exact widens_of_ending impartial opens ends resolved resolved' undenied extras
  · rw [execute_refused (stopped _), execute_refused (stopped _)]
    exact .same rfl rfl

def cube : Draft where
  aliases := .str "cube"
  handler := some fun _ _ => .give .null
  permissions := .str "brush.cube"

def shapes : Catalog where
  groups := #[{ members := [⟨2⟩] }, { members := [⟨0⟩, ⟨1⟩] }]
  definitions := #[brushes.definition ⟨0⟩,
    { name := "cube", permissions := [.str "brush.cube"], body := .leaf fun _ _ => .give .null },
    { name := "brush", body := .nested ⟨1⟩ [] }]

def studio : Dispatcher Caller where
  catalog := shapes
  registry := (Registry.attempt {} shapes (.group ⟨0⟩) none).registry.freeze.1
  check := Caller.hasPermission
  settings := {}

theorem reachable_studio : Host.Reachable ⟨studio.catalog, studio.registry⟩ := by
  let empty : Host := { registry := {} }
  let grouped : Catalog := { groups := #[{}, {}] }
  let withSphere : Catalog := ⟨#[{}, { members := [⟨0⟩] }], #[shapes.definition ⟨0⟩]⟩
  let withCube : Catalog := ⟨#[{}, { members := [⟨0⟩, ⟨1⟩] }],
    #[shapes.definition ⟨0⟩, shapes.definition ⟨1⟩]⟩
  have grouping : Host.Reachable { empty with catalog := grouped } :=
    ((Host.Reachable.fresh {}).step (.group _ (.str ""))).step (.group _ (.str ""))
  have sphereDeclared : grouped.command ⟨1⟩ sphere .null = .ok (⟨0⟩, withSphere) := rfl
  have cubeDeclared : withSphere.command ⟨1⟩ cube .null = .ok (⟨1⟩, withCube) := rfl
  have nestDeclared : withCube.nest ⟨0⟩ brush = .ok (⟨2⟩, shapes) := rfl
  have declaring : Host.Reachable { empty with catalog := withCube } :=
    (grouping.step (.command ⟨⟨1, rfl⟩, ⟨2, rfl⟩, _, rfl⟩ sphereDeclared)).step
      (.command ⟨⟨0, rfl⟩, ⟨-1, rfl⟩, _, rfl⟩ cubeDeclared)
  have nesting : Host.Reachable { empty with catalog := shapes } :=
    declaring.step (.nest ⟨⟨0, rfl⟩, ⟨-1, rfl⟩, _, rfl⟩ nestDeclared)
  exact (nesting.step (.register _ (.group ⟨0⟩) none)).step (.freeze _)

theorem definition_shapes (d : DefId) :
    shapes.definition d = default ∨ d = ⟨0⟩ ∨ d = ⟨1⟩ ∨ d = ⟨2⟩ := by
  obtain ⟨_ | _ | _ | n⟩ := d
  · exact .inr (.inl rfl)
  · exact .inr (.inr (.inl rfl))
  · exact .inr (.inr (.inr rfl))
  · exact .inl rfl

theorem declaresTexts_shapes : shapes.DeclaresTexts := by
  intro d permission declared
  obtain same | rfl | rfl | rfl := definition_shapes d
  · rw [same] at declared
    exact nomatch declared
  · exact ⟨_, List.mem_singleton.mp declared⟩
  · exact ⟨_, List.mem_singleton.mp declared⟩
  · exact nomatch declared

theorem ignoresCallers_studio : studio.IgnoresCallers := by
  refine ignoresCallers_of_finish fun d handler body context extras => ?_
  obtain same | rfl | rfl | rfl := definition_shapes d
  · rw [show studio.catalog.definition d = default from same] at body
    obtain rfl := Body.leaf.inj body
    exact ⟨_, rfl⟩
  · obtain rfl := Body.leaf.inj body
    exact ⟨_, rfl⟩
  · obtain rfl := Body.leaf.inj body
    exact ⟨_, rfl⟩
  · exact nomatch body

/-! ### More permissions -/

/-- Whoever holds more permissions is served at least as well. A command that succeeds still does,
every sub-command that was listed still is, and a command that is not refused calls the same
handlers and ends in the same way, or fails for want of a sub-command with a list that may be
longer. -/
theorem execute_mono
    (reachable : Host.Reachable ⟨dispatcher.catalog, dispatcher.registry⟩)
    (asks : dispatcher.check = Caller.hasPermission) (texts : dispatcher.catalog.DeclaresTexts)
    (impartial : dispatcher.IgnoresCallers) (more : held.nodes ⊆ wider.nodes)
    (tokens : List String) (extras : List Value) :
    (¬ dispatcher.Refuses tokens (.holding held) extras →
      dispatcher.Widens held.opens wider.opens (dispatcher.execute tokens (.holding held) extras)
        (dispatcher.execute tokens (.holding wider) extras)) ∧
    (∀ p, (dispatcher.choices held.opens p).Sublist (dispatcher.choices wider.opens p)) ∧
    ∀ value, (dispatcher.execute tokens (.holding held) extras).outcome = .ok value →
      (dispatcher.execute tokens (.holding wider) extras).outcome = .ok value := by
  have typed := Host.reachable_isTyped reachable
  have widens := @widens_of_not_refuses _ _ _ typed asks texts impartial more tokens extras
  refine ⟨widens, fun p => choices_mono (fun _ => PermissionSet.grants_mono more) p,
    fun value done => ?_⟩
  have allowed : ¬ dispatcher.Refuses tokens (.holding held) extras := by
    rintro ⟨-, failure, refused, -⟩
    exact nomatch done.symm.trans refused
  cases widens allowed with
  | same outcome => exact outcome.trans done
  | listing _ _ _ _ _ outcome => exact nomatch done.symm.trans outcome

theorem execute_mono_studio :
    studio.Widens (PermissionSet.opens ⟨["brush.sphere"]⟩)
        (PermissionSet.opens ⟨["brush.*", "brush.sphere"]⟩)
        (studio.execute ["brush"] (.holding ⟨["brush.sphere"]⟩) [])
        (studio.execute ["brush"] (.holding ⟨["brush.*", "brush.sphere"]⟩) []) ∧
      studio.choices (PermissionSet.opens ⟨["brush.sphere"]⟩) ⟨2⟩ = ["sphere"] ∧
      studio.choices (PermissionSet.opens ⟨["brush.*", "brush.sphere"]⟩) ⟨2⟩ = ["sphere", "cube"] ∧
      (studio.execute ["brush", "sphere", "stone"] (.holding ⟨["brush.*", "brush.sphere"]⟩)
        []).outcome = .ok (.str "done") := by
  have more : (PermissionSet.mk ["brush.sphere"]).nodes ⊆
      (PermissionSet.mk ["brush.*", "brush.sphere"]).nodes := by decide
  have serves := execute_mono reachable_studio rfl declaresTexts_shapes ignoresCallers_studio more
  have short : (studio.execute ["brush"] (.holding ⟨["brush.sphere"]⟩) []).outcome =
      .error (.failure (studio.shortage "Sub-command required." ["brush"] ["sphere"])) := by
    with_unfolding_all rfl
  have allowed : ¬ studio.Refuses ["brush"] (.holding ⟨["brush.sphere"]⟩) [] := by
    rintro ⟨-, failure, refused, kind⟩
    rw [short] at refused
    obtain rfl := Interrupt.failure.inj (Except.error.inj refused)
    exact absurd kind (by decide)
  have done : (studio.execute ["brush", "sphere", "stone"] (.holding ⟨["brush.sphere"]⟩)
      []).outcome = .ok (.str "done") := by with_unfolding_all rfl
  exact ⟨(serves ["brush"] []).1 allowed, by decide +kernel, by decide +kernel,
    (serves _ []).2.2 _ done⟩

end Dispatcher
end CommandTree
