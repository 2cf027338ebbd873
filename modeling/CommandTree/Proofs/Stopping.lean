import CommandTree.Dispatch

/-!
Only the check of permissions can bring in a fault that a dispatcher does not wrap while a command
is resolved.
-/

namespace CommandTree

namespace Run
variable {α β : Type} {stops : Interrupt → Prop} {run : Run α} {next : α → Run β}

theorem bind_error {interrupt : Interrupt} (ended : (run >>= next).outcome = .error interrupt) :
    run.outcome = .error interrupt ∨
      ∃ a, run.outcome = .ok a ∧ (next a).outcome = .error interrupt := by
  obtain ⟨outcome, trace⟩ := run
  cases outcome with
  | error interrupt => exact .inl (congrArg Except.error (Except.error.inj ended))
  | ok a => exact .inr ⟨a, rfl, ended⟩

theorem bind_ok {b : β} (done : (run >>= next).outcome = .ok b) :
    ∃ a, run.outcome = .ok a ∧ (next a).outcome = .ok b := by
  obtain ⟨outcome, trace⟩ := run
  cases outcome with
  | error interrupt => exact nomatch done
  | ok a => exact ⟨a, rfl, done⟩

/-- The run is stopped by interrupts of one sort only. -/
def StopsBy (stops : Interrupt → Prop) (run : Run α) : Prop :=
  ∀ interrupt, run.outcome = .error interrupt → stops interrupt

theorem stopsBy_pure (a : α) : (pure a : Run α).StopsBy stops := fun _ ended => nomatch ended

theorem stopsBy_fail {failure : Failure} (may : stops (.failure failure)) :
    (fail failure : Run α).StopsBy stops := by
  intro interrupt ended
  rwa [← Except.error.inj ended]

theorem stopsBy_stop {fault : Fault} (may : stops (.fault fault)) :
    (stop fault : Run α).StopsBy stops := by
  intro interrupt ended
  rwa [← Except.error.inj ended]

theorem StopsBy.bind (first : run.StopsBy stops) (rest : ∀ a, (next a).StopsBy stops) :
    (run >>= next).StopsBy stops := by
  intro interrupt ended
  obtain before | ⟨a, -, after⟩ := bind_error ended
  · exact first interrupt before
  · exact rest a interrupt after

end Run

theorem Usage.isOrdinary_of_leaf {lead : String} {path : List String} {d : Definition}
    {fault : Fault} (failed : Usage.leaf lead path d = .error fault) : fault.isOrdinary = true := by
  unfold Usage.leaf at failed
  extract_lets flags parts at failed
  split at failed
  · exact nomatch failed
  · split at failed
    · exact nomatch failed
    · rw [← Except.error.inj failed]
      rfl

namespace Dispatcher
variable {C : Type} {dispatcher : Dispatcher C} {caller : C} {stops : Interrupt → Prop}

section Checking
variable (asked : ∀ permission fault, dispatcher.check caller permission = .error fault →
  stops (.fault fault))
include asked

theorem stopsBy_query (permission : Value) :
    (dispatcher.query caller permission).StopsBy stops := by
  intro interrupt
  unfold query
  cases answered : dispatcher.check caller permission with
  | ok b => exact nofun
  | error fault =>
    intro ended
    rw [← Except.error.inj ended]
    exact asked permission fault answered

theorem stopsBy_holdsAny (permissions : List Value) :
    (dispatcher.holdsAny caller permissions).StopsBy stops := by
  induction permissions with
  | nil => exact Run.stopsBy_pure false
  | cons permission rest ih =>
    refine (stopsBy_query asked permission).bind fun granted => ?_
    cases granted with
    | true => exact Run.stopsBy_pure true
    | false => exact ih

theorem stopsBy_hasPermission (d : DefId) : (dispatcher.hasPermission d caller).StopsBy stops := by
  unfold hasPermission
  split
  · exact Run.stopsBy_pure true
  · exact stopsBy_holdsAny asked _

theorem stopsBy_visible (ds : List DefId) : (dispatcher.visible caller ds).StopsBy stops := by
  induction ds with
  | nil => exact Run.stopsBy_pure []
  | cons d rest ih =>
    exact (stopsBy_hasPermission asked d).bind fun _ => ih.bind fun _ => Run.stopsBy_pure _

section Resolving
variable (failed : ∀ failure, stops (.failure failure))
  (faulted : ∀ fault, fault.isOrdinary = true → stops (.fault fault))
include failed

theorem stopsBy_failBelow {α : Type} (message : String) (path : List String) (d : DefId) :
    (dispatcher.failBelow message path d caller : Run α).StopsBy stops := by
  unfold failBelow
  refine (stopsBy_visible asked _).bind fun seen => ?_
  split
  · exact Run.stopsBy_fail (failed _)
  · exact Run.stopsBy_fail (failed _)

include faulted

theorem stopsBy_resolveFrom (p : Parent) (before tokens : List String) :
    (dispatcher.resolveFrom caller p before tokens).StopsBy stops := by
  induction tokens generalizing p before with
  | nil => exact Run.stopsBy_stop (faulted _ rfl)
  | cons name rest ih =>
    unfold resolveFrom
    split
    · split
      · exact Run.stopsBy_fail (failed _)
      · exact stopsBy_failBelow asked failed _ _ _
    · refine (stopsBy_hasPermission asked _).bind fun permitted => ?_
      split
      · dsimp only
        split
        · split
          · exact stopsBy_failBelow asked failed _ _ _
          · exact ih _ _
        · split <;> rename_i built
          · exact Run.stopsBy_stop (faulted _ (Usage.isOrdinary_of_leaf built))
          · split
            · exact Run.stopsBy_fail (failed _)
            · exact Run.stopsBy_pure _
      · exact Run.stopsBy_fail (failed _)

theorem stopsBy_resolve (tokens : List String) :
    (dispatcher.resolve tokens caller).StopsBy stops := by
  unfold resolve
  split
  · exact Run.stopsBy_stop (faulted _ rfl)
  · split
    · exact Run.stopsBy_stop (faulted _ rfl)
    · exact stopsBy_resolveFrom asked failed faulted none [] tokens

end Resolving
end Checking

theorem failBelow_ne_ok {α : Type} (message : String) (path : List String) (d : DefId) (a : α) :
    (dispatcher.failBelow message path d caller : Run α).outcome ≠ .ok a := by
  intro done
  unfold failBelow at done
  obtain ⟨seen, -, done⟩ := Run.bind_ok done
  split at done <;> exact nomatch done

theorem body_of_resolveFrom {leaf : Invocation} {p : Parent} {before tokens : List String}
    (reached : (dispatcher.resolveFrom caller p before tokens).outcome = .ok leaf) :
    (dispatcher.catalog.definition leaf.definition).body = .leaf leaf.handler := by
  induction tokens generalizing p before with
  | nil => exact nomatch reached
  | cons name rest ih =>
    unfold resolveFrom at reached
    split at reached
    · split at reached
      · exact nomatch reached
      · exact absurd reached (failBelow_ne_ok _ _ _ _)
    · obtain ⟨permitted, -, reached⟩ := Run.bind_ok reached
      split at reached
      · dsimp only at reached
        split at reached
        · split at reached
          · exact absurd reached (failBelow_ne_ok _ _ _ _)
          · exact ih reached
        · rename_i body
          split at reached
          · exact nomatch reached
          · split at reached
            · exact nomatch reached
            · obtain rfl := Except.ok.inj reached
              exact body
      · exact nomatch reached

theorem body_of_resolve {leaf : Invocation} {tokens : List String}
    (reached : (dispatcher.resolve tokens caller).outcome = .ok leaf) :
    (dispatcher.catalog.definition leaf.definition).body = .leaf leaf.handler := by
  unfold resolve at reached
  split at reached
  · exact nomatch reached
  · split at reached
    · exact nomatch reached
    · exact body_of_resolveFrom reached

end Dispatcher
end CommandTree
