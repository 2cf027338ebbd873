import CommandTree.Proofs.Committing
import CommandTree.Proofs.Execution

namespace CommandTree

theorem askedOf_eq_take (granted : Value → Bool) (permissions : List Value) :
    askedOf granted permissions = permissions.take (permissions.findIdx granted + 1) := by
  induction permissions with
  | nil => rfl
  | cons permission rest ih =>
    rw [askedOf, List.findIdx_cons]
    cases granted permission with
    | true => rfl
    | false => exact congrArg (permission :: ·) ih

namespace Dispatcher

section Endings
variable {C : Type} (dispatcher : Dispatcher C) (granted : Value → Bool)

def inquiry (ds : List DefId) : List Value :=
  ds.flatMap fun d =>
    let permissions := (dispatcher.catalog.definition d).permissions
    permissions.take (permissions.findIdx granted + 1)

/-- What happens when nothing is left to be asked: only a call goes on. -/
def aftermath (caller : C) (extras : List Value) : Ending → Trace
  | .call leaf =>
    .logged ⟨.debug, "Executing command: " ++ " ".intercalate leaf.path⟩ ::
      .called ⟨leaf.definition, leaf.context, extras⟩ :: (dispatcher.handle caller leaf extras).trace
  | _ => []

theorem questions_eq_inquiry (ds : List DefId) :
    dispatcher.questions granted ds = dispatcher.inquiry granted ds :=
  List.flatMap_congr fun _ _ => askedOf_eq_take granted _

end Endings

variable {C : Type} {dispatcher : Dispatcher C} {caller : C} {granted : Value → Bool}
  {before rest tokens : List String} {name : String} {p q : Parent} {d : DefId}
  {met above : List DefId} {ending : Ending}

theorem Descent.opens (descent : dispatcher.Descent granted p before above q) :
    ∀ d ∈ above, dispatcher.isOpen granted d = true := by
  induction descent with
  | here => exact fun _ member => nomatch member
  | down passes _ ih => exact List.forall_mem_cons.mpr ⟨passes.opens, ih⟩

theorem EndsIn.of_closed (ends : dispatcher.EndsIn granted tokens met ending) (member : d ∈ met)
    (closed : dispatcher.isOpen granted d = false) : ending = .forbidden d ∧ met.getLast? = some d := by
  obtain ⟨descent, stops⟩ := ends
  have shut : ∀ opened, dispatcher.isOpen granted opened = true → d ≠ opened := by
    rintro opened opens rfl
    exact nomatch closed.symm.trans opens
  rcases List.mem_append.mp member with passed | stopped
  · exact absurd rfl (shut d (descent.opens d passed))
  · cases stops with
    | unknown => exact nomatch stopped
    | astray => exact nomatch stopped
    | forbidden =>
      obtain rfl := List.mem_singleton.mp stopped
      exact ⟨rfl, List.getLast?_concat⟩
    | last passes => exact absurd (List.mem_singleton.mp stopped) (shut _ passes.opens)
    | leaf isLeaf => exact absurd (List.mem_singleton.mp stopped) (shut _ isLeaf.opens)

theorem EndsIn.of_judged {leaf : Invocation} (ends : dispatcher.EndsIn granted tokens met ending)
    (judged : dispatcher.Judges leaf ending) :
    dispatcher.listed ending = [] ∧ met.getLast? = some leaf.definition := by
  obtain ⟨-, stops⟩ := ends
  cases stops with
  | unknown => exact nomatch judged
  | astray => exact nomatch judged
  | forbidden => exact nomatch judged
  | last => exact nomatch judged
  | leaf _ judged' =>
    cases judged' with
    | tooFew => cases judged; exact ⟨rfl, List.getLast?_concat⟩
    | tooMany => cases judged; exact ⟨rfl, List.getLast?_concat⟩
    | unknownFlag => cases judged; exact ⟨rfl, List.getLast?_concat⟩
    | call => cases judged; exact ⟨rfl, List.getLast?_concat⟩

theorem trace_execute (answers : dispatcher.Answers caller granted)
    (typed : dispatcher.catalog.IsTyped)
    (ready : dispatcher.settings.requireFrozen = true → dispatcher.registry.frozen = true)
    (ends : dispatcher.EndsIn granted tokens met ending) (extras : List Value) :
    (dispatcher.execute tokens caller extras).trace =
      .asking (dispatcher.inquiry granted (met ++ dispatcher.listed ending)) ++
        dispatcher.aftermath caller extras ending := by
  have resolved := resolve_of_answers answers typed ready ends
  rw [questions_eq_inquiry] at resolved
  cases decided : dispatcher.resolution granted ending with
  | ok leaf =>
    obtain rfl := resolution_eq_ok_iff.mp decided
    exact congrArg Run.trace (execute_called resolved)
  | error failure =>
    rw [decided] at resolved
    have quiet : dispatcher.aftermath caller extras ending = [] := by
      cases ending with
      | call leaf => exact nomatch decided
      | _ => rfl
    rw [execute_refused resolved, quiet, List.append_nil]

def unlockDraft : Draft where
  aliases := .str "unlock"
  handler := some fun _ _ => .give .null
  permissions := .list [.str "chief", .str "clerk"]

def sealDraft : Draft where
  aliases := .str "seal"
  handler := some fun _ _ => .give .null
  permissions := .str "chief"

def vaultDraft : Draft where
  aliases := .str "vault"
  permissions := .list [.str "guard", .str "clerk", .str "chief"]
  nested := [.group ⟨1⟩]

def vaults : Catalog where
  groups := #[{ members := [⟨2⟩] }, { members := [⟨0⟩, ⟨1⟩] }]
  definitions := #[
    { name := "unlock", permissions := [.str "chief", .str "clerk"]
      body := .leaf fun _ _ => .give .null },
    { name := "seal", permissions := [.str "chief"], body := .leaf fun _ _ => .give .null },
    { name := "vault", permissions := [.str "guard", .str "clerk", .str "chief"]
      body := .nested ⟨1⟩ [] }]

def isClerk (permission : Value) : Bool := permission.text == "clerk"

def bank : Dispatcher Unit where
  catalog := vaults
  registry := Registry.committed {} vaults ⟨none, ⟨0⟩⟩
  check _ permission := .ok (isClerk permission)
  settings := {}

theorem reachable_bank : Host.Reachable ⟨bank.catalog, bank.registry⟩ := by
  let empty : Host := { registry := {} }
  let grouped : Catalog := { groups := #[{}, {}] }
  let unlocking : Catalog := ⟨#[{}, { members := [⟨0⟩] }], #[vaults.definition ⟨0⟩]⟩
  let sealing : Catalog := ⟨#[{}, { members := [⟨0⟩, ⟨1⟩] }],
    #[vaults.definition ⟨0⟩, vaults.definition ⟨1⟩]⟩
  have grouping : Host.Reachable { empty with catalog := grouped } :=
    ((Host.Reachable.fresh {}).step (.group _ (.str ""))).step (.group _ (.str ""))
  have unlocked : grouped.command ⟨1⟩ unlockDraft .null = .ok (⟨0⟩, unlocking) := rfl
  have sealed : unlocking.command ⟨1⟩ sealDraft .null = .ok (⟨1⟩, sealing) := rfl
  have nested : sealing.nest ⟨0⟩ vaultDraft = .ok (⟨2⟩, vaults) := rfl
  have declaring : Host.Reachable { empty with catalog := sealing } :=
    (grouping.step (.command ⟨⟨0, rfl⟩, ⟨-1, rfl⟩, _, rfl⟩ unlocked)).step
      (.command ⟨⟨0, rfl⟩, ⟨-1, rfl⟩, _, rfl⟩ sealed)
  have nesting : Host.Reachable { empty with catalog := vaults } :=
    declaring.step (.nest ⟨⟨0, rfl⟩, ⟨-1, rfl⟩, _, rfl⟩ nested)
  have registering := nesting.step (.register _ (.group ⟨0⟩) none)
  rwa [(Registry.attempt_of_lenient rfl rfl rfl).2] at registering

/-- A command asks about the definitions that its tokens meet, in order, and then about the
sub-commands of the nested command at which it ends for want of one. Of each it asks for the
permissions up to the first that is granted. Nobody is asked after a definition that is not open,
nor once arguments are judged; only the handler that is called may go on. -/
theorem execute_asks
    (reachable : Host.Reachable ⟨dispatcher.catalog, dispatcher.registry⟩)
    (ready : dispatcher.settings.requireFrozen = true → dispatcher.registry.frozen = true)
    (answers : ∀ permission, dispatcher.check caller permission = .ok (granted permission))
    (given : tokens ≠ []) (extras : List Value) :
    ∃ met ending, dispatcher.EndsIn granted tokens met ending ∧
      (∀ met' ending', dispatcher.EndsIn granted tokens met' ending' →
        met = met' ∧ ending = ending') ∧
      (dispatcher.execute tokens caller extras).trace =
        .asking (dispatcher.inquiry granted (met ++ dispatcher.listed ending)) ++
          dispatcher.aftermath caller extras ending ∧
      (∀ d ∈ met, dispatcher.isOpen granted d = false →
        ending = .forbidden d ∧ met.getLast? = some d) ∧
      ∀ leaf, dispatcher.Judges leaf ending →
        dispatcher.listed ending = [] ∧ met.getLast? = some leaf.definition := by
  have typed := Host.reachable_isTyped reachable
  obtain ⟨met, ending, ends⟩ := endsIn_exists typed granted given
  refine ⟨met, ending, ends, fun _ _ => ends.unique typed, ?_, fun _ => ends.of_closed,
    fun _ => ends.of_judged⟩
  exact trace_execute (fun _ permission _ => answers permission) typed ready ends extras

theorem execute_asks_vault :
    (bank.execute ["vault", "melt"] () []).trace = .asking
        [.str "guard", .str "clerk", .str "chief", .str "clerk", .str "chief"] ∧
      (bank.execute ["vault", "seal", "now"] () []).trace = .asking
        [.str "guard", .str "clerk", .str "chief"] := by
  have answers : ∀ permission, bank.check () permission = .ok (isClerk permission) := fun _ => rfl
  have ready : bank.settings.requireFrozen = true → bank.registry.frozen = true :=
    fun required => absurd required Bool.false_ne_true
  have passes : bank.Passes isClerk none "vault" ⟨2⟩ := ⟨by decide +kernel, by decide, rfl⟩
  constructor
  · obtain ⟨met, ending, -, unique, asked, -⟩ :=
      execute_asks reachable_bank ready answers (List.cons_ne_nil "vault" ["melt"]) []
    have missing : bank.registry.lookup "melt" (some ⟨2⟩) = none := by decide +kernel
    have ends : bank.EndsIn isClerk ["vault", "melt"] _ _ :=
      .intro (.down passes (.here _)) (.astray rfl missing)
    obtain ⟨rfl, rfl⟩ := unique _ _ ends
    rw [asked]
    with_unfolding_all rfl
  · obtain ⟨met, ending, -, unique, asked, -⟩ :=
      execute_asks reachable_bank ready answers (List.cons_ne_nil "vault" ["seal", "now"]) []
    have found : bank.registry.lookup "seal" (some ⟨2⟩) = some ⟨1⟩ := by decide +kernel
    have ends : bank.EndsIn isClerk ["vault", "seal", "now"] _ _ :=
      .intro (.down passes (.here _)) (.forbidden found (by decide))
    obtain ⟨rfl, rfl⟩ := unique _ _ ends
    rw [asked]
    rfl

end Dispatcher
end CommandTree
