import CommandTree.Dispatch

/-!
A predicate that answers every question opens a command to a caller or does not, and a check asks
for the permissions of the command up to the first that is granted.
-/

namespace CommandTree

namespace Run
variable {α β : Type} {trace : Trace}

def after (run : Run α) (trace : Trace) : Run α := { run with trace := trace ++ run.trace }

theorem after_pure (a : α) (trace : Trace) : (pure a : Run α).after trace = ⟨.ok a, trace⟩ := by
  change Run.mk (.ok a) (trace ++ []) = _
  rw [List.append_nil]

theorem after_fail (failure : Failure) (trace : Trace) :
    (fail failure : Run α).after trace = ⟨.error (.failure failure), trace⟩ := by
  rw [after, fail, List.append_nil]

theorem after_after (run : Run α) (first second : Trace) :
    (run.after second).after first = run.after (first ++ second) := by
  simp only [after, List.append_assoc]

theorem bind_done (a : α) (trace : Trace) (next : α → Run β) :
    (Run.mk (.ok a) trace >>= next) = (next a).after trace := rfl

theorem bind_stopped (interrupt : Interrupt) (trace : Trace) (next : α → Run β) :
    (Run.mk (.error interrupt) trace >>= next) = ⟨.error interrupt, trace⟩ := rfl

end Run

/-! ### Permissions that are granted -/

/-- The permissions up to the first that is granted. -/
def askedOf (granted : Value → Bool) : List Value → List Value
  | [] => []
  | permission :: rest => permission :: if granted permission then [] else askedOf granted rest

namespace Definition
variable (d : Definition) (granted : Value → Bool)

/-- Whether a command is open to whoever is granted some permissions. -/
def isOpenTo : Bool := d.permissions.isEmpty || d.permissions.any granted

def questions : List Value := askedOf granted d.permissions

end Definition

def Trace.asking (permissions : List Value) : Trace := permissions.map .asked

namespace Trace

theorem asking_append (first second : List Value) :
    asking (first ++ second) = asking first ++ asking second := List.map_append

theorem records_asking (permissions : List Value) : (asking permissions).records = [] := by
  induction permissions with
  | nil => rfl
  | cons permission rest ih => exact ih

theorem calls_asking (permissions : List Value) : (asking permissions).calls = [] := by
  induction permissions with
  | nil => rfl
  | cons permission rest ih => exact ih

end Trace

namespace Dispatcher
variable {C : Type} {dispatcher : Dispatcher C} {caller : C} {granted : Value → Bool}

def isOpen (dispatcher : Dispatcher C) (granted : Value → Bool) (d : DefId) : Bool :=
  (dispatcher.catalog.definition d).isOpenTo granted

def questions (dispatcher : Dispatcher C) (granted : Value → Bool) (ds : List DefId) : List Value :=
  ds.flatMap fun d => (dispatcher.catalog.definition d).questions granted

theorem questions_singleton (d : DefId) :
    dispatcher.questions granted [d] = (dispatcher.catalog.definition d).questions granted :=
  List.flatMap_singleton _ _

theorem questions_append (first second : List DefId) :
    dispatcher.questions granted (first ++ second) =
      dispatcher.questions granted first ++ dispatcher.questions granted second :=
  List.flatMap_append

/-- Every permission that a command declares is granted or refused. -/
def Answers (dispatcher : Dispatcher C) (caller : C) (granted : Value → Bool) : Prop :=
  ∀ d, ∀ permission ∈ (dispatcher.catalog.definition d).permissions,
    dispatcher.check caller permission = .ok (granted permission)

theorem query_eq {permission : Value}
    (answer : dispatcher.check caller permission = .ok (granted permission)) :
    dispatcher.query caller permission = ⟨.ok (granted permission), .asking [permission]⟩ := by
  rw [query, answer]
  rfl

theorem holdsAny_eq {permissions : List Value}
    (answers : ∀ permission ∈ permissions,
      dispatcher.check caller permission = .ok (granted permission)) :
    dispatcher.holdsAny caller permissions =
      ⟨.ok (permissions.any granted), .asking (askedOf granted permissions)⟩ := by
  induction permissions with
  | nil => rfl
  | cons permission rest ih =>
    rw [holdsAny, query_eq (answers permission List.mem_cons_self), Run.bind_done]
    cases given : granted permission with
    | true =>
      rw [if_pos rfl, Run.after_pure, List.any_cons, askedOf, given, Bool.true_or, if_pos rfl]
    | false =>
      have later := ih fun other member => answers other (List.mem_cons_of_mem _ member)
      rw [if_neg Bool.false_ne_true, later, List.any_cons, askedOf, given, Bool.false_or,
        if_neg Bool.false_ne_true]
      rfl

section Answered
variable (answers : dispatcher.Answers caller granted)
include answers

theorem hasPermission_eq (d : DefId) :
    dispatcher.hasPermission d caller =
      ⟨.ok (dispatcher.isOpen granted d), .asking (dispatcher.questions granted [d])⟩ := by
  have answered := holdsAny_eq (answers d)
  rw [questions_singleton, hasPermission, isOpen, Definition.isOpenTo, Definition.questions]
  cases declared : (dispatcher.catalog.definition d).permissions with
  | nil => rfl
  | cons permission rest =>
    rw [declared] at answered
    exact answered

theorem visible_eq (ds : List DefId) :
    dispatcher.visible caller ds =
      ⟨.ok (ds.filter (dispatcher.isOpen granted)), .asking (dispatcher.questions granted ds)⟩ := by
  induction ds with
  | nil => rfl
  | cons d rest ih =>
    rw [visible, hasPermission_eq answers, Run.bind_done, ih, Run.bind_done, Run.after_after,
      ← Trace.asking_append, ← questions_append, List.singleton_append]
    rw [Run.after_pure]
    cases permitted : dispatcher.isOpen granted d with
    | true => rw [List.filter_cons_of_pos permitted, if_pos rfl]
    | false =>
      rw [List.filter_cons_of_neg (Bool.not_eq_true _ ▸ permitted), if_neg Bool.false_ne_true]

end Answered
end Dispatcher
end CommandTree
