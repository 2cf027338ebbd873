import CommandTree.Proofs.Execution
import CommandTree.Proofs.Wrapping

/-!
A handler may leave the last of its work to another command, whose handler may do so again. What the
last command in such a row comes to goes back through all of them.
-/

namespace CommandTree

structure Request where
  standing : Standing
  tokens : List String
  extras : List Value := []

/-- A handler at work for a caller has a command executed, perhaps after others, and ends as that
does. -/
inductive Act.HandsOn (execute : Standing → List String → List Value → Run Value)
    (standing : Standing) (request : Request) : Act → Prop where
  | last {standing? : Option Standing} {next : Outcome → Act}
      (whom : standing?.getD standing = request.standing)
      (ends : next (execute request.standing request.tokens request.extras).outcome =
        .finish (execute request.standing request.tokens request.extras).outcome) :
      HandsOn execute standing request (.execute standing? request.tokens request.extras next)
  | earlier {standing? : Option Standing} {tokens : List String} {extras : List Value}
      {next : Outcome → Act}
      (later : HandsOn execute standing request
        (next (execute (standing?.getD standing) tokens extras).outcome)) :
      HandsOn execute standing request (.execute standing? tokens extras next)

namespace Act
variable {execute : Standing → List String → List Value → Run Value} {standing : Standing}
  {request : Request} {act : Act}

theorem handsOn_forward (request : Request) (standing? : Option Standing)
    (whom : standing?.getD standing = request.standing) :
    HandsOn execute standing request (.forward request.tokens request.extras standing?) :=
  .last whom rfl

theorem HandsOn.outcome_carryOut (handsOn : HandsOn execute standing request act) :
    (Dispatcher.carryOut execute standing act).outcome =
      (execute request.standing request.tokens request.extras).outcome := by
  induction handsOn with
  | last whom ends =>
    rw [Dispatcher.carryOut, whom, ends]
    rfl
  | earlier _ ih => exact ih

end Act

/-! ### Rows of commands -/

namespace Dispatcher

section Rows
variable {C : Type} (dispatcher : Dispatcher C)

def Reaches (request : Request) (leaf : Invocation) : Prop :=
  (dispatcher.anyone.resolve request.tokens request.standing).outcome = .ok leaf

def work (depth : Nat) (request : Request) (leaf : Invocation) : Run Value :=
  carryOut (dispatcher.executeWithin depth) request.standing
    (leaf.handler leaf.context request.extras)

/-- What a command comes to before a fault is wrapped: the failure that its tokens resolve to, or
what the handler of its leaf does. `depth` tells how deep that handler may execute commands. -/
inductive ComesTo (depth : Nat) (request : Request) : Outcome → Prop where
  | refused {failure : Failure}
      (refuses : (dispatcher.anyone.resolve request.tokens request.standing).outcome =
        .error (.failure failure)) :
      ComesTo depth request (.error (.failure failure))
  | handled {leaf : Invocation} (reaches : dispatcher.Reaches request leaf) :
      ComesTo depth request (dispatcher.work depth request leaf).outcome

/-- A row of commands from one to another, in which the handler of each hands on to the next. The
numbers tell how deep the handlers of the first and the last may execute commands. -/
inductive Relays : Nat → Request → Nat → Request → Prop where
  | here (depth : Nat) (request : Request) : Relays depth request depth request
  | next {depth left : Nat} {request following last : Request} {leaf : Invocation}
      (reaches : dispatcher.Reaches request leaf)
      (handsOn : (leaf.handler leaf.context request.extras).HandsOn
        (dispatcher.executeWithin (depth + 1)) request.standing following)
      (others : Relays depth following left last) : Relays (depth + 1) request left last

end Rows

variable {C : Type} {dispatcher : Dispatcher C} {caller : C} {depth left : Nat}
  {request first last : Request} {outcome : Outcome} {tokens : List String} {extras : List Value}

theorem ComesTo.outcome_executeWithin (comes : dispatcher.ComesTo depth request outcome) :
    (dispatcher.executeWithin (depth + 1) request.standing request.tokens request.extras).outcome =
      wrap outcome := by
  cases resolved : dispatcher.anyone.resolve request.tokens request.standing with
  | mk resolution trace
  cases comes with
  | refused refuses =>
    rw [resolved] at refuses
    obtain rfl := refuses
    rw [executeWithin_refused resolved]
    rfl
  | handled reaches =>
    rw [Reaches, resolved] at reaches
    obtain rfl := reaches
    rw [executeWithin_called resolved]
    rfl

/-- What the last command of a row comes to is what the first comes to. It is wrapped at the last,
and if that is not the first then at another one, but never again. -/
theorem Relays.outcome_executeWithin (relays : dispatcher.Relays depth first left last)
    (comes : dispatcher.ComesTo left last outcome) :
    let run := dispatcher.executeWithin (depth + 1) first.standing first.tokens first.extras
    left = depth ∧ run.outcome = wrap outcome ∨
      left < depth ∧ run.outcome = wrap (wrap outcome) := by
  induction relays with
  | here => exact .inl ⟨rfl, comes.outcome_executeWithin⟩
  | @next depth left _ _ _ _ reaches handsOn _ ih =>
    dsimp only
    rw [(ComesTo.handled reaches).outcome_executeWithin, work, handsOn.outcome_carryOut]
    obtain ⟨rfl, here⟩ | ⟨deeper, there⟩ := ih comes
    · exact .inr ⟨Nat.lt_succ_self left, congrArg wrap here⟩
    · exact .inr ⟨Nat.lt_succ_of_lt deeper, (congrArg wrap there).trans (wrap_wrap_wrap outcome)⟩

/-- The first command of a row comes to what the last one comes to, and that is told by how the
tokens of the last one end. A row is no longer than handlers may execute commands one inside the
other. What the last handler raises is wrapped once, if it has a text: the failure has that fault
for its cause, and the text of the fault for its message, or else its label. A fault without a text
leaves another one, which comes out of a row of one command and is what a longer row wraps. A
failure and a value go back unchanged, and so does a fault that is meant to stop the program. -/
theorem wrapped_once (reachable : Host.Reachable ⟨dispatcher.catalog, dispatcher.registry⟩)
    (ready : dispatcher.settings.requireFrozen = true → dispatcher.registry.frozen = true)
    (relays : dispatcher.Relays dispatcher.depth ⟨dispatcher.check caller, tokens, extras⟩ left
      last) :
    (∀ granted, dispatcher.anyone.Answers last.standing granted → last.tokens ≠ [] →
      (∃ leaf, dispatcher.anyone.Names granted last.tokens leaf ∧
        dispatcher.ComesTo left last (dispatcher.work left last leaf).outcome) ∨
      ∃ met ending failure, dispatcher.anyone.EndsIn granted last.tokens met ending ∧
        dispatcher.anyone.resolution granted ending = .error failure ∧
        dispatcher.ComesTo left last (.error (.failure failure))) ∧
    ∀ outcome, dispatcher.ComesTo left last outcome →
      let ends := (dispatcher.execute tokens caller extras).outcome
      (∀ fault, outcome = .error (.fault fault) → fault.isOrdinary = true →
        (∀ text, fault.text? = some text → ∃ message,
          ends = .error (.failure {
            kind := .handlerFailed
            message := .str message
            cause := some fault
            chained := true }) ∧
          (text ≠ "" → message = text) ∧
          ∀ raised, fault = .raised raised → text = "" → message = raised.label) ∧
        (fault.text? = none →
          (left = dispatcher.depth → ends = .error (.fault .unwritable)) ∧
          (left < dispatcher.depth → ends = .error (.failure {
            kind := .handlerFailed
            message := .str Numeral.tooLongToWrite
            cause := some .unwritable
            chained := true })))) ∧
      (∀ failure, outcome = .error (.failure failure) → ends = .error (.failure failure)) ∧
      (∀ value, outcome = .ok value → ends = .ok value) ∧
      ∀ fault, outcome = .error (.fault fault) → fault.isOrdinary = false →
        ends = .error (.fault fault) := by
  have typed : dispatcher.anyone.catalog.IsTyped := Host.reachable_isTyped reachable
  refine ⟨fun granted answers given => ?_, fun outcome comes => ?_⟩
  · obtain ⟨asked, ⟨leaf, names, resolved⟩ | ⟨met, ending, failure, ends, decided, resolved⟩⟩ :=
      resolve_cases typed answers ready given
    · exact .inl ⟨leaf, names, .handled (congrArg Run.outcome resolved)⟩
    · exact .inr ⟨met, ending, failure, ends, decided, .refused (congrArg Run.outcome resolved)⟩
  intro ends
  have wraps : left = dispatcher.depth ∧ ends = wrap outcome ∨
      left < dispatcher.depth ∧ ends = wrap (wrap outcome) := relays.outcome_executeWithin comes
  refine ⟨?_, ?_, ?_, ?_⟩
  · rintro fault rfl ordinary
    refine ⟨fun text told => ?_, fun mute => ⟨fun alone => ?_, fun further => ?_⟩⟩
    · obtain ⟨message, messaged, full, blank⟩ := Fault.message?_of_some told
      have once := wrap_of_message ordinary messaged
      refine ⟨message, ?_, full, blank⟩
      obtain ⟨-, same⟩ | ⟨-, same⟩ := wraps
      · rw [same, once]
      · rw [same, once]
        rfl
    · obtain ⟨-, same⟩ | ⟨further, -⟩ := wraps
      · rw [same, wrap_of_mute ordinary mute]
      · omega
    · obtain ⟨alone, -⟩ | ⟨-, same⟩ := wraps
      · omega
      · rw [same, wrap_of_mute ordinary mute, wrap_unwritable]
  · rintro failure rfl
    obtain ⟨-, same⟩ | ⟨-, same⟩ := wraps <;> exact same
  · rintro value rfl
    obtain ⟨-, same⟩ | ⟨-, same⟩ := wraps <;> exact same
  · rintro fault rfl stops
    have once := wrap_of_extraordinary stops
    obtain ⟨-, same⟩ | ⟨-, same⟩ := wraps
    · rw [same, once]
    · rw [same, once, once]

def spilt : Raised := { label := "RuntimeError", args := [.str "spilt"] }

/-- The bucket is filled, then carried and then poured, which goes wrong. -/
def fill : Handler := fun _ _ => .forward ["carry", "bucket"] []

/-- Only somebody who may do anything can pour, so it is poured for such a one. -/
def carry : Handler := fun context _ =>
  .forward ("pour" :: context.args) [] (some fun _ => .ok true)

def pour : Handler := fun _ _ => .raise (.raised spilt)

def handDraft (name : String) (handler : Handler) (permissions : Value) : Draft where
  aliases := .str name
  handler := some handler
  permissions := permissions

def buckets : Catalog where
  groups := #[{ members := [⟨0⟩, ⟨1⟩, ⟨2⟩] }]
  definitions := #[{ name := "fill", body := .leaf fill }, { name := "carry", body := .leaf carry },
    { name := "pour", permissions := [.str "water"], body := .leaf pour }]

def brigade : Dispatcher Bool where
  catalog := buckets
  registry := (Registry.attempt {} buckets (.group ⟨0⟩) none).registry
  check chief _ := .ok chief
  settings := {}

theorem reachable_brigade : Host.Reachable ⟨brigade.catalog, brigade.registry⟩ := by
  let empty : Host := { registry := {} }
  let grouped : Catalog := { groups := #[{}] }
  let filling : Catalog := ⟨#[{ members := [⟨0⟩] }], #[buckets.definition ⟨0⟩]⟩
  let carrying : Catalog :=
    ⟨#[{ members := [⟨0⟩, ⟨1⟩] }], #[buckets.definition ⟨0⟩, buckets.definition ⟨1⟩]⟩
  have typed : ∀ name handler permissions, (handDraft name handler permissions).IsTyped :=
    fun _ _ _ => ⟨⟨0, rfl⟩, ⟨-1, rfl⟩, _, rfl⟩
  have first : grouped.command ⟨0⟩ (handDraft "fill" fill .null) .null = .ok (⟨0⟩, filling) := rfl
  have second : filling.command ⟨0⟩ (handDraft "carry" carry .null) .null =
    .ok (⟨1⟩, carrying) := rfl
  have third : carrying.command ⟨0⟩ (handDraft "pour" pour (.str "water")) .null =
    .ok (⟨2⟩, buckets) := rfl
  have grouping : Host.Reachable { empty with catalog := grouped } :=
    (Host.Reachable.fresh {}).step (.group _ (.str ""))
  have declaring : Host.Reachable { empty with catalog := buckets } :=
    ((grouping.step (.command (typed _ _ _) first)).step (.command (typed _ _ _) second)).step
      (.command (typed _ _ _) third)
  exact declaring.step (.register _ (.group ⟨0⟩) none)

/-- What is spilt two commands further on, for a chief whom the first does not know, comes back
wrapped once. -/
theorem wrapped_once_brigade :
    (brigade.execute ["fill"] false []).outcome = .error (.failure {
      kind := .handlerFailed
      message := .str "spilt"
      cause := some (.raised spilt)
      chained := true }) := by
  let hand : Standing := fun _ => .ok false
  let chief : Standing := fun _ => .ok true
  have filling : brigade.Reaches ⟨hand, ["fill"], []⟩
      ⟨["fill"], ⟨0⟩, fill, Context.read [] "fill" []⟩ := by
    unfold Reaches
    with_unfolding_all rfl
  have carrying : brigade.Reaches ⟨hand, ["carry", "bucket"], []⟩
      ⟨["carry"], ⟨1⟩, carry, Context.read [] "carry" ["bucket"]⟩ := by
    unfold Reaches
    with_unfolding_all rfl
  have pouring : brigade.Reaches ⟨chief, ["pour", "bucket"], []⟩
      ⟨["pour"], ⟨2⟩, pour, Context.read [] "pour" ["bucket"]⟩ := by
    unfold Reaches
    with_unfolding_all rfl
  have args : (Context.read [] "carry" ["bucket"]).args = ["bucket"] := by decide +kernel
  have carries : carry (Context.read [] "carry" ["bucket"]) [] =
      .forward ["pour", "bucket"] [] (some chief) := by
    rw [carry, args]
  have handsOn : (carry (Context.read [] "carry" ["bucket"]) []).HandsOn
      (brigade.executeWithin 298) hand ⟨chief, ["pour", "bucket"], []⟩ := by
    rw [carries]
    exact Act.handsOn_forward ⟨chief, ["pour", "bucket"], []⟩ (some chief) rfl
  have relays : brigade.Relays brigade.depth ⟨brigade.check false, ["fill"], []⟩ 297
      ⟨chief, ["pour", "bucket"], []⟩ :=
    .next filling (Act.handsOn_forward ⟨hand, ["carry", "bucket"], []⟩ none rfl)
      (.next carrying handsOn (.here 297 _))
  have ready : brigade.settings.requireFrozen = true → brigade.registry.frozen = true :=
    fun required => absurd required Bool.false_ne_true
  obtain ⟨-, comes⟩ := wrapped_once reachable_brigade ready relays
  have raises : brigade.ComesTo 297 ⟨chief, ["pour", "bucket"], []⟩
      (.error (.fault (.raised spilt))) :=
    .handled pouring
  have told : (Fault.raised spilt).text? = some "spilt" := by decide +kernel
  obtain ⟨message, wrapped, full, -⟩ := ((comes _ raises).1 (.raised spilt) rfl rfl).1 "spilt" told
  rw [full (by decide)] at wrapped
  exact wrapped

def scale : Dispatcher Unit where
  catalog := scales
  registry := (Registry.attempt {} scales (.group ⟨0⟩) none).registry
  check _ _ := .ok true
  settings := {}

/-- The handler raises a fault with a number that is too long to be written. It becomes no failure
with that fault for its cause: another fault takes its place, and a handler that forwards to the
command wraps that one. -/
theorem mute_fault_replaced :
    Host.Reachable ⟨scale.catalog, scale.registry⟩ ∧
      (scale.execute ["weigh"] () []).outcome = .error (.fault .unwritable) ∧
      (scale.execute ["lift"] () []).outcome = .error (.failure {
        kind := .handlerFailed
        message := .str Numeral.tooLongToWrite
        cause := some .unwritable
        chained := true }) := by
  let anybody : Standing := fun _ => .ok true
  have weighing : scale.Reaches ⟨anybody, ["weigh"], []⟩
      ⟨["weigh"], ⟨0⟩, weigh, Context.read [] "weigh" []⟩ := by
    unfold Reaches
    with_unfolding_all rfl
  have lifting : scale.Reaches ⟨anybody, ["lift"], []⟩
      ⟨["lift"], ⟨1⟩, lift, Context.read [] "lift" []⟩ := by
    unfold Reaches
    with_unfolding_all rfl
  have raises : ∀ depth, (scale.executeWithin (depth + 1) anybody ["weigh"] []).outcome =
      .error (.fault .unwritable) := by
    intro depth
    have comes : scale.ComesTo depth ⟨anybody, ["weigh"], []⟩ (.error (.fault (.raised heavy))) :=
      .handled weighing
    exact comes.outcome_executeWithin.trans wrap_heavy
  refine ⟨reachable_scales.step (.register _ (.group ⟨0⟩) none), raises scale.depth, ?_⟩
  have comes : scale.ComesTo scale.depth ⟨anybody, ["lift"], []⟩ _ := .handled lifting
  have forwards : (scale.work scale.depth ⟨anybody, ["lift"], []⟩
      ⟨["lift"], ⟨1⟩, lift, Context.read [] "lift" []⟩).outcome = .error (.fault .unwritable) :=
    raises 298
  rw [forwards] at comes
  exact comes.outcome_executeWithin.trans wrap_unwritable

end Dispatcher
end CommandTree
