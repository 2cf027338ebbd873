import CommandTree.Proofs.Calling
import CommandTree.Proofs.Privilege
import CommandTree.Proofs.Stopping
import CommandTree.Proofs.Wrapping
import CommandTree.Service

/-! Handlers may raise what they like except what is meant to stop the program. -/

namespace CommandTree

/-- A value, a failure, or a fault that a dispatcher wraps. -/
def Outcome.IsTame (outcome : Outcome) : Prop :=
  ∀ fault, outcome = .error (.fault fault) → fault.isOrdinary = true

def Standing.IsTame (standing : Standing) : Prop :=
  ∀ permission fault, standing permission = .error fault → fault.isOrdinary = true

/-- A handler at work that ends tamely as long as the commands that it executes do. -/
inductive Act.IsTame : Act → Prop where
  | finish {outcome : Outcome} (tame : Outcome.IsTame outcome) : IsTame (.finish outcome)
  | execute {standing? : Option Standing} {tokens : List String} {extras : List Value}
      {next : Outcome → Act}
      (whom : ∀ standing, standing? = some standing → Standing.IsTame standing)
      (tame : ∀ outcome, Outcome.IsTame outcome → IsTame (next outcome)) :
      IsTame (.execute standing? tokens extras next)

def Catalog.IsTame (catalog : Catalog) : Prop :=
  ∀ d handler, (catalog.definition d).body = .leaf handler →
    ∀ context extras, (handler context extras).IsTame

namespace Outcome

theorem isTame_ok (value : Value) : IsTame (.ok value) := fun _ same => nomatch same

theorem isTame_failure (failure : Failure) : IsTame (.error (.failure failure)) :=
  fun _ same => nomatch same

theorem isTame_fault {fault : Fault} (ordinary : fault.isOrdinary = true) :
    IsTame (.error (.fault fault)) := by
  intro _ same
  obtain rfl := Interrupt.fault.inj (Except.error.inj same)
  exact ordinary

def Settles (outcome : Outcome) : Prop :=
  (∃ value, outcome = .ok value) ∨ ∃ failure, outcome = .error (.failure failure)

/-- What a dispatcher wraps becomes a failure, unless it has no text. -/
theorem settles_wrap {outcome : Outcome} (tame : IsTame outcome) :
    Settles (Dispatcher.wrap outcome) ∨
      ∃ fault, outcome = .error (.fault fault) ∧ fault.text? = none ∧
        Dispatcher.wrap outcome = .error (.fault .unwritable) := by
  rcases outcome with (failure | fault) | value
  · exact .inl (.inr ⟨failure, rfl⟩)
  · have ordinary := tame fault rfl
    cases told : fault.message? with
    | some message => exact .inl (.inr ⟨_, Dispatcher.wrap_of_message ordinary told⟩)
    | none =>
      have mute := Fault.message?_eq_none_iff.mp told
      exact .inr ⟨fault, rfl, mute, Dispatcher.wrap_of_mute ordinary mute⟩
  · exact .inl (.inl ⟨value, rfl⟩)

theorem isTame_wrap {outcome : Outcome} (tame : IsTame outcome) :
    IsTame (Dispatcher.wrap outcome) := by
  obtain (⟨value, same⟩ | ⟨failure, same⟩) | ⟨_, -, -, same⟩ := settles_wrap tame
  · rw [same]
    exact isTame_ok value
  · rw [same]
    exact isTame_failure failure
  · rw [same]
    exact isTame_fault rfl

end Outcome

namespace Dispatcher
variable {C : Type} {dispatcher : Dispatcher C} {caller : C} {granted : Value → Bool}
  {standing : Standing} {tokens : List String} {extras : List Value} {leaf : Invocation}

theorem isTame_carryOut {execute : Standing → List String → List Value → Run Value} {act : Act}
    (inner : ∀ standing, Standing.IsTame standing → ∀ tokens extras,
      Outcome.IsTame (execute standing tokens extras).outcome)
    (whom : Standing.IsTame standing) (tame : act.IsTame) :
    Outcome.IsTame (carryOut execute standing act).outcome := by
  induction tame with
  | finish tame => exact tame
  | @execute standing? tokens extras next others _ ih =>
    have served : Standing.IsTame (standing?.getD standing) := by
      cases standing? with
      | none => exact whom
      | some other => exact others other rfl
    exact ih _ (inner _ served tokens extras)

theorem isTame_resolve (whom : Standing.IsTame standing) (tokens : List String) :
    (dispatcher.anyone.resolve tokens standing).StopsBy fun interrupt =>
      ∀ fault, interrupt = .fault fault → fault.isOrdinary = true := by
  refine stopsBy_resolve (fun permission fault answered other same => ?_)
    (fun failure fault same => nomatch same) (fun fault ordinary other same => ?_) tokens
  · rw [← Interrupt.fault.inj same]
    exact whom permission fault answered
  · rwa [← Interrupt.fault.inj same]

theorem isTame_executeWithin (tame : dispatcher.catalog.IsTame) (depth : Nat)
    (whom : Standing.IsTame standing) (tokens : List String) (extras : List Value) :
    Outcome.IsTame (dispatcher.executeWithin depth standing tokens extras).outcome := by
  -- A handler ends tamely if the commands that it executes do, and these run one level deeper.
  induction depth generalizing standing tokens extras with
  | zero => exact Outcome.isTame_fault (show Fault.tooDeep.isOrdinary = true from rfl)
  | succ depth ih =>
    have resolves : (dispatcher.anyone.resolve tokens standing).StopsBy _ :=
      isTame_resolve whom tokens
    cases resolved : dispatcher.anyone.resolve tokens standing with
    | mk outcome trace =>
      cases outcome with
      | error interrupt =>
        rw [executeWithin_refused resolved]
        rw [resolved] at resolves
        intro fault same
        exact resolves interrupt rfl fault (Except.error.inj same)
      | ok leaf =>
        rw [executeWithin_called resolved]
        have body := body_of_resolve (congrArg Run.outcome resolved)
        exact Outcome.isTame_wrap
          (isTame_carryOut (fun _ whom => ih whom) whom (tame _ _ body _ _))

theorem isTame_handle (tame : dispatcher.catalog.IsTame)
    (whom : Standing.IsTame (dispatcher.check caller))
    (names : dispatcher.Names granted tokens leaf) (extras : List Value) :
    Outcome.IsTame (dispatcher.handle caller leaf extras).outcome :=
  isTame_carryOut (fun _ whom => isTame_executeWithin tame _ whom) whom (tame _ _ names.body _ _)

/-- The handler of the command raises a fault that has no text. -/
def RaisesMute (dispatcher : Dispatcher C) (granted : Value → Bool) (tokens : List String)
    (caller : C) (extras : List Value) : Prop :=
  ∃ leaf fault, dispatcher.Names granted tokens leaf ∧
    (dispatcher.handle caller leaf extras).outcome = .error (.fault fault) ∧ fault.text? = none

theorem settles_execute (typed : dispatcher.catalog.IsTyped)
    (answers : dispatcher.Answers caller granted)
    (ready : dispatcher.settings.requireFrozen = true → dispatcher.registry.frozen = true)
    (tame : dispatcher.catalog.IsTame) (whom : Standing.IsTame (dispatcher.check caller))
    (given : tokens ≠ []) (speaks : ¬ dispatcher.RaisesMute granted tokens caller extras) :
    Outcome.Settles (dispatcher.execute tokens caller extras).outcome := by
  obtain ⟨asked, ⟨leaf, names, resolved⟩ | ⟨_, _, failure, -, -, resolved⟩⟩ :=
    resolve_cases typed answers ready given
  · rw [execute_called resolved]
    obtain settled | ⟨fault, raised, mute, -⟩ :=
      Outcome.settles_wrap (isTame_handle tame whom names extras)
    · exact settled
    · exact absurd ⟨leaf, fault, names, raised, mute⟩ speaks
  · rw [execute_refused resolved]
    exact .inr ⟨failure, rfl⟩

theorem execute_of_raisesMute (typed : dispatcher.catalog.IsTyped)
    (answers : dispatcher.Answers caller granted)
    (ready : dispatcher.settings.requireFrozen = true → dispatcher.registry.frozen = true)
    (tame : dispatcher.catalog.IsTame) (whom : Standing.IsTame (dispatcher.check caller))
    (mute : dispatcher.RaisesMute granted tokens caller extras) :
    (dispatcher.execute tokens caller extras).outcome = .error (.fault .unwritable) := by
  obtain ⟨leaf, fault, names, raised, mute⟩ := mute
  have ordinary := isTame_handle tame whom names extras fault raised
  obtain ⟨met, ends⟩ := names_iff.mp names
  have resolved : dispatcher.resolve tokens caller = ⟨.ok leaf, _⟩ :=
    resolve_of_answers answers typed ready ends
  rw [execute_called resolved, raised]
  exact wrap_of_mute ordinary mute

end Dispatcher

/-! ### Records -/

/-- A record that tells how a command ended. -/
inductive Reports : Value → Outcome → Prop where
  | done (value : Value) : Reports
      (.map [(.str "ok", .bool true), (.str "result", value)]) (.ok value)
  | failed (failure : Failure) : Reports
      (.map [(.str "ok", .bool false), (.str "kind", .str failure.kind.word),
        (.str "message", failure.message), (.str "usage", failure.usage)])
      (.error (.failure failure))

theorem Reports.of_ok {record value : Value} (reports : Reports record (.ok value)) :
    record = .map [(.str "ok", .bool true), (.str "result", value)] := by
  cases reports
  rfl

theorem Dispatcher.dispatch_reports {C : Type} {dispatcher : Dispatcher C} {caller : C}
    {tokens : List String} {extras : List Value}
    (settles : Outcome.Settles (dispatcher.execute tokens caller extras).outcome) :
    ∃ verdict, dispatcher.dispatch tokens caller extras =
        ⟨.ok verdict, (dispatcher.execute tokens caller extras).trace⟩ ∧
      Reports (Answer.verdict verdict).record
        (dispatcher.execute tokens caller extras).outcome := by
  obtain ⟨value, done⟩ | ⟨failure, failed⟩ := settles
  · refine ⟨.done value, ?_, ?_⟩
    · simp only [dispatch, done]
    · rw [done]
      exact .done value
  · refine ⟨.failed failure, ?_, ?_⟩
    · simp only [dispatch, failed]
    · rw [failed]
      exact .failed failure

theorem Dispatcher.dispatch_of_fault {C : Type} {dispatcher : Dispatcher C} {caller : C}
    {tokens : List String} {extras : List Value} {fault : Fault}
    (ended : (dispatcher.execute tokens caller extras).outcome = .error (.fault fault)) :
    dispatcher.dispatch tokens caller extras =
      ⟨.error (.fault fault), (dispatcher.execute tokens caller extras).trace⟩ := by
  simp only [dispatch, ended]

theorem PermissionSet.answers {dispatcher : Dispatcher PermissionSet}
    (asks : dispatcher.check = fun held permission => held.answerTo permission)
    (texts : dispatcher.catalog.DeclaresTexts) (held : PermissionSet) :
    dispatcher.Answers held held.opens := by
  intro d permission declared
  obtain ⟨path, rfl⟩ := texts d permission declared
  rw [asks]
  rfl

theorem PermissionSet.isTame_answerTo (held : PermissionSet) : Standing.IsTame held.answerTo := by
  intro permission fault
  unfold answerTo
  split
  · exact nofun
  · split
    · intro refused
      rw [← Except.error.inj refused]
      rfl
    · split
      · exact nofun
      · intro refused
        rw [← Except.error.inj refused]
        rfl

theorem PermissionSet.isTame_check {dispatcher : Dispatcher PermissionSet}
    (asks : dispatcher.check = fun held permission => held.answerTo permission)
    (held : PermissionSet) : Standing.IsTame (dispatcher.check held) := by
  rw [asks]
  exact held.isTame_answerTo

namespace Service

theorem handle_nil (service : Service) (permissions : List String) (extras : List Value) :
    service.handle [] permissions extras = ⟨.ok .nothing, []⟩ := rfl

theorem handle_of_dispatch {service : Service} {tokens permissions : List String}
    {extras : List Value} {verdict : Verdict} {trace : Trace} (given : tokens ≠ [])
    (dispatched : service.dispatcher.dispatch tokens ⟨permissions⟩ extras = ⟨.ok verdict, trace⟩) :
    service.handle tokens permissions extras = ⟨.ok (.verdict verdict), trace⟩ := by
  rw [handle, List.isEmpty_eq_false_iff.mpr given, dispatched]
  rfl

theorem handle_of_fault {service : Service} {tokens permissions : List String}
    {extras : List Value} {fault : Fault} {trace : Trace} (given : tokens ≠ [])
    (dispatched : service.dispatcher.dispatch tokens ⟨permissions⟩ extras =
      ⟨.error (.fault fault), trace⟩) :
    service.handle tokens permissions extras = ⟨.error (.fault fault), trace⟩ := by
  rw [handle, List.isEmpty_eq_false_iff.mpr given, dispatched]
  rfl

section Answering
variable {service : Service} {tokens permissions : List String} {extras : List Value}
  (typed : service.dispatcher.catalog.IsTyped) (texts : service.dispatcher.catalog.DeclaresTexts)
  (tame : service.dispatcher.catalog.IsTame)
  (asks : service.dispatcher.check = fun held permission => held.answerTo permission)
  (frozen : service.dispatcher.registry.frozen = true) (given : tokens ≠ [])
include typed texts tame asks frozen given

theorem handle_of_speaking (speaks : ¬ service.dispatcher.RaisesMute
      (PermissionSet.opens ⟨permissions⟩) tokens ⟨permissions⟩ extras) :
    let run := service.dispatcher.execute tokens ⟨permissions⟩ extras
    ∃ verdict, service.dispatcher.dispatch tokens ⟨permissions⟩ extras = ⟨.ok verdict, run.trace⟩ ∧
      service.handle tokens permissions extras = ⟨.ok (.verdict verdict), run.trace⟩ ∧
      Reports (Answer.verdict verdict).record run.outcome := by
  have settles := Dispatcher.settles_execute typed (PermissionSet.answers asks texts _)
    (fun _ => frozen) tame (PermissionSet.isTame_check asks _) given speaks
  obtain ⟨verdict, dispatched, reports⟩ := Dispatcher.dispatch_reports settles
  exact ⟨verdict, dispatched, handle_of_dispatch given dispatched, reports⟩

theorem handle_of_mute (mute : service.dispatcher.RaisesMute
      (PermissionSet.opens ⟨permissions⟩) tokens ⟨permissions⟩ extras) :
    let run := service.dispatcher.execute tokens ⟨permissions⟩ extras
    run.outcome = .error (.fault .unwritable) ∧
      service.dispatcher.dispatch tokens ⟨permissions⟩ extras =
        ⟨.error (.fault .unwritable), run.trace⟩ ∧
      service.handle tokens permissions extras = ⟨.error (.fault .unwritable), run.trace⟩ := by
  have ended := Dispatcher.execute_of_raisesMute typed (PermissionSet.answers asks texts _)
    (fun _ => frozen) tame (PermissionSet.isTame_check asks _) mute
  have dispatched := Dispatcher.dispatch_of_fault ended
  exact ⟨ended, dispatched, handle_of_fault given dispatched⟩

end Answering

/-- A service that is started on a registry, frozen or not, answers a request without tokens by
saying that the command is empty, and nothing happens. Otherwise it does what a dispatcher over the
same registry by the same settings does, and its record reports how the command ended there. Only
where a handler raises a fault that has no text do both end in the fault that takes its place. A
line is answered as the tokens that it splits into. -/
theorem handle_reports {catalog : Catalog} {registry : Registry}
    (reachable : Host.Reachable ⟨catalog, registry⟩) (texts : catalog.DeclaresTexts)
    (tame : catalog.IsTame) (settings? : Option Settings) :
    let service := (Service.start catalog registry settings?).service
    let dispatcher : Dispatcher PermissionSet := {
      catalog, registry := registry.freeze.1
      check := fun held permission => held.answerTo permission
      settings := settings?.getD registry.settings }
    (∀ permissions extras, ∃ answer, service.handle [] permissions extras = ⟨.ok answer, []⟩ ∧
      answer.record = .map [(.str "ok", .bool false), (.str "kind", .null),
        (.str "message", .str "Empty command."), (.str "usage", .null)]) ∧
    (∀ tokens permissions extras, tokens ≠ [] →
      let held : PermissionSet := ⟨permissions⟩
      let run := dispatcher.execute tokens held extras
      (¬ dispatcher.RaisesMute held.opens tokens held extras → ∃ verdict,
        dispatcher.dispatch tokens held extras = ⟨.ok verdict, run.trace⟩ ∧
        service.handle tokens permissions extras = ⟨.ok (.verdict verdict), run.trace⟩ ∧
        Reports (Answer.verdict verdict).record run.outcome) ∧
      (dispatcher.RaisesMute held.opens tokens held extras →
        run.outcome = .error (.fault .unwritable) ∧
        dispatcher.dispatch tokens held extras = ⟨.error (.fault .unwritable), run.trace⟩ ∧
        service.handle tokens permissions extras = ⟨.error (.fault .unwritable), run.trace⟩)) ∧
    ∀ line permissions extras,
      let tokens := splitLine line dispatcher.settings.lead
      let held : PermissionSet := ⟨permissions⟩
      let run := dispatcher.executeLine line held extras
      service.handleLine line permissions extras = service.handle tokens permissions extras ∧
      (tokens ≠ [] →
        (¬ dispatcher.RaisesMute held.opens tokens held extras → ∃ answer,
          service.handleLine line permissions extras = ⟨.ok answer, run.trace⟩ ∧
          Reports answer.record run.outcome) ∧
        (dispatcher.RaisesMute held.opens tokens held extras →
          run.outcome = .error (.fault .unwritable) ∧
          service.handleLine line permissions extras =
            ⟨.error (.fault .unwritable), run.trace⟩)) := by
  intro service dispatcher
  have typed : service.dispatcher.catalog.IsTyped := Host.reachable_isTyped reachable
  have frozen : service.dispatcher.registry.frozen = true := registry.frozen_freeze
  refine ⟨fun permissions extras => ⟨.nothing, handle_nil service permissions extras, rfl⟩,
    fun tokens permissions extras given => ⟨handle_of_speaking typed texts tame rfl frozen given,
      handle_of_mute typed texts tame rfl frozen given⟩,
    fun line permissions extras => ⟨rfl, fun given => ⟨fun speaks => ?_, fun mute => ?_⟩⟩⟩
  · obtain ⟨verdict, -, handled, reports⟩ :=
      handle_of_speaking typed texts tame rfl frozen given speaks
    exact ⟨.verdict verdict, handled, reports⟩
  · obtain ⟨ended, -, handled⟩ := handle_of_mute typed texts tame rfl frozen given mute
    exact ⟨ended, handled⟩

theorem declaresTexts_leadingBack : Registry.leadingBack.DeclaresTexts := by
  rintro ⟨_ | _ | n⟩ permission declared
  · exact nomatch declared
  · exact nomatch declared
  · exact nomatch declared

theorem isTame_leadingBack : Registry.leadingBack.IsTame := by
  rintro ⟨_ | _ | n⟩ handler body context extras
  · exact nomatch body
  · obtain rfl := Body.leaf.inj body
    exact .finish (Outcome.isTame_ok .null)
  · obtain rfl := Body.leaf.inj body
    exact .finish (Outcome.isTame_ok .null)

def circling : Host where
  catalog := Registry.leadingBack
  registry := (Registry.attempt {} Registry.leadingBack (.group ⟨0⟩) none).registry

theorem reachable_circling : circling.Reachable :=
  (Dispatcher.reachable_leadingBack {}).step (.register _ (.group ⟨0⟩) none)

def booth : Service :=
  (Service.start circling.catalog circling.registry (some { requireFrozen := true })).service

theorem not_raisesMute_booth (tokens : List String) (held : PermissionSet) (extras : List Value) :
    ¬ booth.dispatcher.RaisesMute held.opens tokens held extras := by
  rintro ⟨⟨path, ⟨_ | _ | n⟩, handler, context⟩, fault, names, raised, -⟩
  · exact nomatch names.body
  · obtain rfl := Body.leaf.inj names.body
    exact nomatch raised
  · obtain rfl := Body.leaf.inj names.body
    exact nomatch raised

theorem handle_reports_booth :
    circling.registry.frozen = false ∧
      (∃ answer, (booth.handleLine "/" [] []).outcome = .ok answer ∧
        answer.record = Answer.nothing.record) ∧
      ∃ verdict, (booth.handle ["go", "stop"] [] []).outcome = .ok (.verdict verdict) ∧
        (Answer.verdict verdict).record = .map [(.str "ok", .bool true), (.str "result", .null)] := by
  obtain ⟨empty, served, lines⟩ := handle_reports reachable_circling declaresTexts_leadingBack
    isTame_leadingBack (some { requireFrozen := true })
  refine ⟨by decide +kernel, ?_, ?_⟩
  · obtain ⟨answer, handled, record⟩ := empty [] []
    have split : splitLine "/" "/" = [] := by decide +kernel
    have same : booth.handleLine "/" [] [] = booth.handle (splitLine "/" "/") [] [] :=
      (lines "/" [] []).1
    rw [split] at same
    exact ⟨answer, congrArg Run.outcome (same.trans handled), record⟩
  · obtain ⟨speaks, -⟩ := served ["go", "stop"] [] [] (List.cons_ne_nil _ _)
    obtain ⟨verdict, -, handled, reports⟩ := speaks (not_raisesMute_booth _ _ _)
    have ended : (booth.dispatcher.execute ["go", "stop"] ⟨[]⟩ []).outcome = .ok .null := by
      with_unfolding_all rfl
    change Reports _ (booth.dispatcher.execute ["go", "stop"] ⟨[]⟩ []).outcome at reports
    rw [ended] at reports
    exact ⟨verdict, congrArg Run.outcome handled, reports.of_ok⟩

theorem isTame_scales : Dispatcher.scales.IsTame := by
  rintro ⟨_ | _ | n⟩ handler body context extras
  · obtain rfl := Body.leaf.inj body
    exact .finish (Outcome.isTame_fault rfl)
  · obtain rfl := Body.leaf.inj body
    exact .execute (fun _ same => nomatch same) fun _ tame => .finish tame
  · obtain rfl := Body.leaf.inj body
    exact .finish (Outcome.isTame_ok .null)

def weighing : Host where
  catalog := Dispatcher.scales
  registry := (Registry.attempt {} Dispatcher.scales (.group ⟨0⟩) none).registry

def weighbridge : Service := (Service.start weighing.catalog weighing.registry none).service

/-- Handlers raise nothing here that is meant to stop the program, and still a request ends in a
fault: the number in what is raised is too long to be written. -/
theorem no_answer_to_weigh :
    weighing.Reachable ∧ weighing.catalog.IsTame ∧
      (weighbridge.handle ["weigh"] [] []).outcome = .error (.fault .unwritable) := by
  refine ⟨Dispatcher.reachable_scales.step (.register _ (.group ⟨0⟩) none), isTame_scales, ?_⟩
  have given : ["weigh"] ≠ [] := List.cons_ne_nil _ _
  have resolved : weighbridge.dispatcher.resolve ["weigh"] ⟨[]⟩ =
      ⟨.ok ⟨["weigh"], ⟨0⟩, Dispatcher.weigh, Context.read [] "weigh" []⟩, []⟩ := by
    with_unfolding_all rfl
  have ended : (weighbridge.dispatcher.execute ["weigh"] ⟨[]⟩ []).outcome =
      .error (.fault .unwritable) := by
    have raised : (weighbridge.dispatcher.handle ⟨[]⟩
        ⟨["weigh"], ⟨0⟩, Dispatcher.weigh, Context.read [] "weigh" []⟩ []).outcome =
          .error (.fault (.raised Dispatcher.heavy)) := rfl
    rw [Dispatcher.execute_called resolved, raised, Dispatcher.wrap_heavy]
  exact congrArg Run.outcome (handle_of_fault given (Dispatcher.dispatch_of_fault ended))

end Service
end CommandTree
