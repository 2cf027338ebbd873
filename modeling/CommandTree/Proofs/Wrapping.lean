import CommandTree.Dispatch
import CommandTree.Proofs.Host

/-!
A fault that has no text, for a number in it is too long, leaves another fault in its place, and
that one has a text.
-/

namespace CommandTree

/-- The least number that is too long to be written. -/
def Numeral.leastUnwritable : Int := .ofNat (Nat.pow 10 digitLimit)

theorem Numeral.not_isWritable_leastUnwritable : isWritable leastUnwritable = false := by
  unfold isWritable leastUnwritable
  generalize Nat.pow 10 digitLimit = limit
  exact decide_eq_false (Nat.lt_irrefl limit)

namespace Fault

theorem message?_eq_none_iff {fault : Fault} : fault.message? = none ↔ fault.text? = none := by
  cases fault with
  | raised raised => exact Option.map_eq_none_iff
  | _ => rfl

theorem message?_of_some {fault : Fault} {text : String} (told : fault.text? = some text) :
    ∃ message, fault.message? = some message ∧ (text ≠ "" → message = text) ∧
      ∀ raised, fault = .raised raised → text = "" → message = raised.label := by
  cases fault with
  | raised raised =>
    refine ⟨if text = "" then raised.label else text, ?_, fun heard => if_neg heard, ?_⟩
    · rw [message?, show raised.text? = some text from told]
      rfl
    · rintro _ same silent
      obtain rfl := Fault.raised.inj same
      exact if_pos silent
  | _ => exact ⟨text, told, fun _ => rfl, fun _ same => nomatch same⟩

end Fault

namespace Dispatcher

theorem wrap_of_message {fault : Fault} {message : String} (ordinary : fault.isOrdinary = true)
    (told : fault.message? = some message) :
    wrap (.error (.fault fault)) = .error (.failure {
      kind := .handlerFailed
      message := .str message
      cause := some fault
      chained := true }) := by
  simp [wrap, Failure.ofFault, ordinary, told]

theorem wrap_of_mute {fault : Fault} (ordinary : fault.isOrdinary = true)
    (mute : fault.text? = none) :
    wrap (.error (.fault fault)) = .error (.fault .unwritable) := by
  simp [wrap, Failure.ofFault, ordinary, Fault.message?_eq_none_iff.mpr mute]

theorem wrap_of_extraordinary {fault : Fault} (stops : fault.isOrdinary = false) :
    wrap (.error (.fault fault)) = .error (.fault fault) := by
  simp [wrap, stops]

theorem wrap_unwritable :
    wrap (.error (.fault .unwritable)) = .error (.failure {
      kind := .handlerFailed
      message := .str Numeral.tooLongToWrite
      cause := some .unwritable
      chained := true }) :=
  wrap_of_message rfl rfl

/-- A fault with a message is wrapped once, and one without after another has taken its place. -/
theorem wrap_wrap_wrap (outcome : Outcome) : wrap (wrap (wrap outcome)) = wrap (wrap outcome) := by
  rcases outcome with (failure | fault) | value
  · rfl
  · cases ordinary : fault.isOrdinary with
    | true =>
      cases told : fault.message? with
      | some message =>
        rw [wrap_of_message ordinary told]
        rfl
      | none =>
        rw [wrap_of_mute ordinary (Fault.message?_eq_none_iff.mp told), wrap_unwritable]
        rfl
    | false => rw [wrap_of_extraordinary ordinary, wrap_of_extraordinary ordinary,
        wrap_of_extraordinary ordinary]
  · rfl

def heavy : Raised := { label := "ValueError", args := [.int Numeral.leastUnwritable] }

theorem text?_heavy : heavy.text? = none := by
  simp [heavy, Raised.text?, Value.isWritable, Numeral.not_isWritable_leastUnwritable]

theorem wrap_heavy :
    wrap (.error (.fault (.raised heavy))) = .error (.fault .unwritable) := by
  have mute : (Fault.raised heavy).text? = none := text?_heavy
  have ordinary : (Fault.raised heavy).isOrdinary = true := rfl
  exact wrap_of_mute ordinary mute

def weigh : Handler := fun _ _ => .raise (.raised heavy)

def lift : Handler := fun _ _ => .forward ["weigh"] []

def scales : Catalog where
  groups := #[{ members := [⟨0⟩, ⟨1⟩] }]
  definitions := #[{ name := "weigh", body := .leaf weigh }, { name := "lift", body := .leaf lift }]

theorem reachable_scales : Host.Reachable { catalog := scales, registry := {} } := by
  let weighed : Catalog := ⟨#[{ members := [⟨0⟩] }], #[scales.definition ⟨0⟩]⟩
  have first : Catalog.command { groups := #[{}] } ⟨0⟩
      { aliases := .str "weigh", handler := some weigh } .null = .ok (⟨0⟩, weighed) := rfl
  have second : weighed.command ⟨0⟩ { aliases := .str "lift", handler := some lift } .null =
      .ok (⟨1⟩, scales) := rfl
  have grouping : Host.Reachable { catalog := { groups := #[{}] }, registry := {} } :=
    (Host.Reachable.fresh {}).step (.group _ (.str ""))
  have weighing : Host.Reachable { catalog := weighed, registry := {} } :=
    grouping.step (.command ⟨⟨0, rfl⟩, ⟨-1, rfl⟩, _, rfl⟩ first)
  exact weighing.step (.command ⟨⟨0, rfl⟩, ⟨-1, rfl⟩, _, rfl⟩ second)

end Dispatcher
end CommandTree
