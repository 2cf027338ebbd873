import CommandTree.Dispatch

/-!
A dispatcher knows no more of a caller than what the check of permissions answers. So whoever has
the same standing is served alike.
-/

namespace CommandTree

namespace Dispatcher
variable {C : Type} (dispatcher : Dispatcher C) (caller : C)

theorem holdsAny_anyone (permissions : List Value) :
    dispatcher.anyone.holdsAny (dispatcher.check caller) permissions =
      dispatcher.holdsAny caller permissions := by
  induction permissions with
  | nil => rfl
  | cons permission rest ih =>
    unfold holdsAny
    rw [ih]
    rfl

theorem hasPermission_anyone (d : DefId) :
    dispatcher.anyone.hasPermission d (dispatcher.check caller) =
      dispatcher.hasPermission d caller := by
  unfold hasPermission
  simp only [holdsAny_anyone]
  rfl

theorem visible_anyone (children : List DefId) :
    dispatcher.anyone.visible (dispatcher.check caller) children =
      dispatcher.visible caller children := by
  induction children with
  | nil => rfl
  | cons d rest ih =>
    unfold visible
    rw [ih, hasPermission_anyone]

theorem failBelow_anyone {α : Type} (message : String) (path : List String) (d : DefId) :
    (dispatcher.anyone.failBelow message path d (dispatcher.check caller) : Run α) =
      dispatcher.failBelow message path d caller := by
  unfold failBelow
  simp only [visible_anyone]
  rfl

theorem resolveFrom_anyone (p : Parent) (before tokens : List String) :
    dispatcher.anyone.resolveFrom (dispatcher.check caller) p before tokens =
      dispatcher.resolveFrom caller p before tokens := by
  induction tokens generalizing p before with
  | nil => rfl
  | cons name rest ih =>
    unfold resolveFrom
    simp only [ih, hasPermission_anyone, failBelow_anyone]
    rfl

theorem resolve_anyone (tokens : List String) :
    dispatcher.anyone.resolve tokens (dispatcher.check caller) =
      dispatcher.resolve tokens caller := by
  unfold resolve
  rw [resolveFrom_anyone]
  rfl

end Dispatcher

/-- A handler at work may have a command executed for somebody else of this standing. -/
inductive Act.ActsFor (standing : Standing) : Act → Prop where
  | now {tokens : List String} {extras : List Value} {next : Outcome → Act} :
      ActsFor standing (.execute (some standing) tokens extras next)
  | later {standing? : Option Standing} {tokens : List String} {extras : List Value}
      {next : Outcome → Act} (outcome : Outcome) (acts : ActsFor standing (next outcome)) :
      ActsFor standing (.execute standing? tokens extras next)

theorem Act.served {standing? : Option Standing} {tokens : List String} {extras : List Value}
    {next : Outcome → Act} (standing : Standing) :
    standing?.getD standing = standing ∨
      (Act.execute standing? tokens extras next).ActsFor (standing?.getD standing) := by
  cases standing? with
  | none => exact .inl rfl
  | some other => exact .inr .now

end CommandTree
