import CommandTree.Proofs.Questions
import Mathlib.Data.List.Forall2

/-!
Two runs match when their events do, one by one, and when they end in values that match or are cut
short by the same interrupt.
-/

namespace CommandTree

/-- Two results that are values in a relation or the same interrupt. -/
inductive SameResult {α β : Type} (R : α → β → Prop) :
    Except Interrupt α → Except Interrupt β → Prop where
  | stopped (interrupt : Interrupt) : SameResult R (.error interrupt) (.error interrupt)
  | done {a : α} {b : β} (related : R a b) : SameResult R (.ok a) (.ok b)

theorem SameResult.eq {α : Type} {first second : Except Interrupt α}
    (same : SameResult Eq first second) : first = second := by
  cases same with
  | stopped => rfl
  | done related => rw [related]

theorem SameResult.imp {α β : Type} {R R' : α → β → Prop} {first : Except Interrupt α}
    {second : Except Interrupt β} (same : SameResult R first second)
    (values : ∀ a b, R a b → R' a b) : SameResult R' first second := by
  cases same with
  | stopped interrupt => exact .stopped interrupt
  | done related => exact .done (values _ _ related)

theorem sameResult_refl {α : Type} (result : Except Interrupt α) : SameResult Eq result result := by
  cases result with
  | error interrupt => exact .stopped interrupt
  | ok a => exact .done rfl

namespace Run
variable {α β γ δ : Type}

structure Matches (E : Event → Event → Prop) (R : α → β → Prop) (first : Run α) (second : Run β) :
    Prop where
  outcome : SameResult R first.outcome second.outcome
  events : List.Forall₂ E first.trace second.trace

variable {E : Event → Event → Prop} {R : α → β → Prop} {Q : γ → δ → Prop}

theorem matches_pure {a : α} {b : β} (related : R a b) : Matches E R (pure a) (pure b) :=
  ⟨.done related, .nil⟩

theorem matches_fail (failure : Failure) : Matches E R (fail failure) (fail failure) :=
  ⟨.stopped _, .nil⟩

theorem matches_stop (fault : Fault) : Matches E R (stop fault) (stop fault) :=
  ⟨.stopped _, .nil⟩

theorem Matches.imp {E' : Event → Event → Prop} {R' : α → β → Prop} {first : Run α} {second : Run β}
    (run : Matches E R first second) (events : ∀ e e', E e e' → E' e e')
    (values : ∀ a b, R a b → R' a b) : Matches E' R' first second :=
  ⟨run.outcome.imp values, run.events.imp events⟩

theorem Matches.bind {first : Run α} {second : Run β} {next : α → Run γ} {next' : β → Run δ}
    (run : Matches E R first second)
    (rest : ∀ a b, first.outcome = .ok a → R a b → Matches E Q (next a) (next' b)) :
    Matches E Q (first >>= next) (second >>= next') := by
  obtain ⟨outcome, trace⟩ := first
  obtain ⟨outcome', trace'⟩ := second
  obtain ⟨result, events⟩ := run
  cases result with
  | stopped interrupt => exact ⟨.stopped interrupt, events⟩
  | @done a b related =>
    obtain ⟨result, later⟩ := rest a b rfl related
    exact ⟨result, List.rel_append events later⟩

end Run

variable {α β γ : Type} {R : β → γ → Prop}

/-- Two maps with the same keys in the same order and with related values. -/
def Ordered.SameKeys (R : β → γ → Prop) (first : Ordered α β) (second : Ordered α γ) : Prop :=
  List.Forall₂ (fun x y => x.1 = y.1 ∧ R x.2 y.2) first.entries second.entries

theorem Ordered.SameKeys.get? [DecidableEq α] {first : Ordered α β} {second : Ordered α γ}
    (same : SameKeys R first second) (key : α) :
    Option.Rel R (first.get? key) (second.get? key) := by
  obtain ⟨entries⟩ := first
  obtain ⟨entries'⟩ := second
  change List.Forall₂ _ entries entries' at same
  change Option.Rel R (find? key entries) (find? key entries')
  induction same with
  | nil => exact .none
  | @cons x y _ _ alike _ ih =>
    obtain ⟨k, v⟩ := x
    obtain ⟨l, w⟩ := y
    obtain ⟨rfl, related⟩ := alike
    by_cases here : k = key
    · simpa [find?, here] using related
    · simpa [find?, here] using ih

theorem Ordered.SameKeys.values {first : Ordered α β} {second : Ordered α γ}
    (same : SameKeys R first second) : List.Forall₂ R first.values second.values := by
  unfold Ordered.values
  rw [List.forall₂_map_left_iff, List.forall₂_map_right_iff]
  exact same.imp fun _ _ alike => alike.2

theorem forall₂_distinct [DecidableEq β] [DecidableEq γ] (unique : Relator.BiUnique R)
    {xs : List β} {ys : List γ} (related : List.Forall₂ R xs ys) :
    List.Forall₂ R (distinct xs) (distinct ys) := by
  have step : Relator.LiftFun (List.Forall₂ R) (Relator.LiftFun R (List.Forall₂ R))
      addNew addNew := by
    intro us vs before x y here
    -- One to one: an item is known on one side when its partner is on the other.
    have there := List.rel_mem unique here before
    unfold addNew
    by_cases known : x ∈ us
    · rw [if_pos known, if_pos (there.mp known)]
      exact before
    · rw [if_neg known, if_neg (fun known' => known (there.mpr known'))]
      exact List.rel_append before (.cons here .nil)
  exact List.rel_foldl step .nil related

end CommandTree
