import Mathlib.Data.List.Nodup
import CommandTree.Proofs.Privilege
import CommandTree.Proofs.Strict
import CommandTree.Proofs.Takeovers

namespace CommandTree.Dispatcher
variable {C : Type} {dispatcher : Dispatcher C} {caller : C} {granted : Value → Bool}
  {tokens before path : List String} {name message : String} {q r : Parent} {p d : DefId}
  {met above : List DefId}

/-- Tokens that end at an open command: for want of a sub-command of it, or as it takes its
arguments. -/
def Arrives (dispatcher : Dispatcher C) (granted : Value → Bool) (tokens : List String) (d : DefId) :
    Prop :=
  ∃ met ending, dispatcher.EndsIn granted tokens met ending ∧
    (ending = .short "Sub-command required." tokens d ∨
      ∃ leaf, leaf.definition = d ∧ dispatcher.Judges leaf ending)

theorem Descent.snoc (descent : dispatcher.Descent granted q before above r)
    (passes : dispatcher.Passes granted r name d) :
    dispatcher.Descent granted q (before ++ [name]) (above ++ [d]) (some d) := by
  induction descent with
  | here => exact .down passes (.here _)
  | down first _ ih => exact .down first (ih passes)

theorem EndsIn.descent_of_short (ends : dispatcher.EndsIn granted tokens met (.short message path p)) :
    ∃ above, dispatcher.Descent granted none path above (some p) := by
  obtain ⟨descent, stops⟩ := ends
  cases stops with
  | astray nested => exact ⟨_, nested ▸ descent⟩
  | last passes => exact ⟨_, descent.snoc passes⟩
  | leaf _ judged => exact nomatch judged

theorem Descent.arrives (descent : dispatcher.Descent granted none path above q)
    (typed : dispatcher.catalog.IsTyped) (found : dispatcher.registry.lookup name q = some d)
    (opens : dispatcher.isOpen granted d = true) :
    dispatcher.Arrives granted (path ++ [name]) d := by
  obtain ⟨met, ending, stops⟩ | ⟨more, -⟩ := stops_or_passes typed granted q path name []
  · refine ⟨above ++ met, ending, .intro descent stops, ?_⟩
    cases stops with
    | unknown _ missing => exact nomatch missing.symm.trans found
    | astray _ missing => exact nomatch missing.symm.trans found
    | forbidden found' closed => exact absurd opens (closed_of_found found' closed found)
    | last passes =>
      obtain rfl := Option.some.inj (found.symm.trans passes.found)
      exact .inl rfl
    | leaf isLeaf judged =>
      obtain rfl := Option.some.inj (found.symm.trans isLeaf.found)
      exact .inr ⟨_, rfl, judged⟩
  · exact absurd rfl more

/-! ### Rivals -/

/-- No other command under the parent has the canonical name of a command. -/
def Unrivalled (dispatcher : Dispatcher C) (p d : DefId) : Prop :=
  ∀ e ∈ dispatcher.registry.children (some p),
    dispatcher.catalog.GoesBy e (Text.lower (dispatcher.catalog.name d)) → e = d

theorem Unrivalled.count_choices (unrivalled : dispatcher.Unrivalled p d)
    (member : d ∈ dispatcher.registry.children (some p)) (opens : dispatcher.isOpen granted d = true) :
    (dispatcher.choices granted p).count (dispatcher.catalog.name d) = 1 := by
  have once : ((dispatcher.registry.children (some p)).filter (dispatcher.isOpen granted)).Nodup :=
    (nodup_distinct _).filter _
  have alone : ∀ e ∈ (dispatcher.registry.children (some p)).filter (dispatcher.isOpen granted),
      dispatcher.catalog.name e = dispatcher.catalog.name d ↔ e = d := by
    refine fun e listed => ⟨fun same => unrivalled e (List.mem_filter.mp listed).1 ?_, congrArg _⟩
    rw [← same]
    exact Catalog.goesBy_name e
  rw [choices, List.count_eq_countP, List.countP_map,
    ← List.count_eq_one_of_mem once (List.mem_filter.mpr ⟨member, opens⟩), List.count_eq_countP]
  refine List.countP_congr fun e listed => ?_
  simpa using alone e listed

section Reachable
variable (reachable : Host.Reachable ⟨dispatcher.catalog, dispatcher.registry⟩)
include reachable

theorem exists_child_of_name (member : d ∈ dispatcher.registry.children (some p)) :
    ∃ e ∈ dispatcher.registry.children (some p),
      dispatcher.registry.lookup (dispatcher.catalog.name d) (some p) = some e ∧
        dispatcher.catalog.GoesBy e (Text.lower (dispatcher.catalog.name d)) := by
  obtain ⟨name, -, found⟩ := (Host.mem_children reachable).mp member
  have held := (Host.reachable_covered reachable).kin (some p) _ d found _ List.mem_cons_self
  exact Host.exists_child_of_held reachable held

theorem Unrivalled.lookup (unrivalled : dispatcher.Unrivalled p d)
    (member : d ∈ dispatcher.registry.children (some p)) :
    dispatcher.registry.lookup (dispatcher.catalog.name d) (some p) = some d := by
  obtain ⟨e, member', found, goes⟩ := exists_child_of_name reachable member
  obtain rfl := unrivalled e member' goes
  exact found

theorem unrivalled_of_strict (strict : dispatcher.registry.settings.strictAliases = true)
    (member : d ∈ dispatcher.registry.children (some p)) : dispatcher.Unrivalled p d := by
  intro e member' ⟨name, named, same⟩
  have keeps := Host.reachable_keeps reachable strict
  obtain ⟨_, -, found⟩ := (Host.mem_children reachable).mp member
  obtain ⟨_, -, found'⟩ := (Host.mem_children reachable).mp member'
  have here := keeps (some p) _ d found _ List.mem_cons_self
  have there := keeps (some p) _ e found' name named
  rw [same] at there
  exact Option.some.inj (there.symm.trans here)

end Reachable

def wipeDraft : Draft where
  aliases := .list [.str "clear", .str "wipe"]
  handler := some fun _ _ => .give .null

def purgeDraft : Draft where
  aliases := .str "clear"
  handler := some fun _ _ => .give .null
  permissions := .str "admin"

def sweepDraft : Draft where
  aliases := .str "sweep"
  handler := some fun _ _ => .give .null

def toolDraft : Draft where
  aliases := .str "tool"
  nested := [.group ⟨1⟩]

def tools : Catalog where
  groups := #[{ members := [⟨3⟩] }, { members := [⟨0⟩, ⟨1⟩, ⟨2⟩] }]
  definitions := #[
    { name := "clear", synonyms := ["wipe"], body := .leaf fun _ _ => .give .null },
    { name := "clear", permissions := [.str "admin"], body := .leaf fun _ _ => .give .null },
    { name := "sweep", body := .leaf fun _ _ => .give .null },
    { name := "tool", body := .nested ⟨1⟩ [] }]

/-- Callers are granted everything or nothing. The second tool has taken the canonical name of the
first. -/
def janitor : Dispatcher Bool where
  catalog := tools
  registry := Registry.committed {} tools ⟨none, ⟨0⟩⟩
  check granted _ := .ok granted
  settings := {}

theorem reachable_janitor : Host.Reachable ⟨janitor.catalog, janitor.registry⟩ := by
  let empty : Host := { registry := {} }
  let grouped : Catalog := { groups := #[{}, {}] }
  let wiping : Catalog := ⟨#[{}, { members := [⟨0⟩] }], #[tools.definition ⟨0⟩]⟩
  let purging : Catalog := ⟨#[{}, { members := [⟨0⟩, ⟨1⟩] }],
    #[tools.definition ⟨0⟩, tools.definition ⟨1⟩]⟩
  let sweeping : Catalog := ⟨#[{}, { members := [⟨0⟩, ⟨1⟩, ⟨2⟩] }],
    #[tools.definition ⟨0⟩, tools.definition ⟨1⟩, tools.definition ⟨2⟩]⟩
  have grouping : Host.Reachable { empty with catalog := grouped } :=
    ((Host.Reachable.fresh {}).step (.group _ (.str ""))).step (.group _ (.str ""))
  have wiped : grouped.command ⟨1⟩ wipeDraft .null = .ok (⟨0⟩, wiping) := rfl
  have purged : wiping.command ⟨1⟩ purgeDraft .null = .ok (⟨1⟩, purging) := rfl
  have swept : purging.command ⟨1⟩ sweepDraft .null = .ok (⟨2⟩, sweeping) := rfl
  have nested : sweeping.nest ⟨0⟩ toolDraft = .ok (⟨3⟩, tools) := rfl
  have declaring : Host.Reachable { empty with catalog := sweeping } :=
    ((grouping.step (.command ⟨⟨0, rfl⟩, ⟨-1, rfl⟩, _, rfl⟩ wiped)).step
      (.command ⟨⟨0, rfl⟩, ⟨-1, rfl⟩, _, rfl⟩ purged)).step
      (.command ⟨⟨0, rfl⟩, ⟨-1, rfl⟩, _, rfl⟩ swept)
  have nesting : Host.Reachable { empty with catalog := tools } :=
    declaring.step (.nest ⟨⟨0, rfl⟩, ⟨-1, rfl⟩, _, rfl⟩ nested)
  have registering := nesting.step (.register _ (.group ⟨0⟩) none)
  rwa [(Registry.attempt_of_lenient rfl rfl rfl).2] at registering

/-- A command that ends at a nested one lists what the caller may use there. Every name that is
listed leads to a sub-command that has it. Where no other sub-command has the name, as is always so
while names are strict, the path followed by the name arrives at the command that was meant, and the
name is listed once. -/
theorem suggestions_lead_on
    (reachable : Host.Reachable ⟨dispatcher.catalog, dispatcher.registry⟩)
    (ready : dispatcher.settings.requireFrozen = true → dispatcher.registry.frozen = true)
    (answers : ∀ permission, dispatcher.check caller permission = .ok (granted permission))
    (ends : dispatcher.EndsIn granted tokens met (.short message path p)) (extras : List Value) :
    (dispatcher.choices granted p ≠ [] → (dispatcher.execute tokens caller extras).outcome =
      .error (.failure (dispatcher.shortage message path (dispatcher.choices granted p)))) ∧
    (∀ d ∈ dispatcher.registry.children (some p), ∃ e ∈ dispatcher.registry.children (some p),
      dispatcher.registry.lookup (dispatcher.catalog.name d) (some p) = some e ∧
        dispatcher.catalog.GoesBy e (Text.lower (dispatcher.catalog.name d))) ∧
    (∀ d ∈ dispatcher.registry.children (some p), dispatcher.isOpen granted d = true →
      dispatcher.Unrivalled p d →
        dispatcher.registry.lookup (dispatcher.catalog.name d) (some p) = some d ∧
          dispatcher.Arrives granted (path ++ [dispatcher.catalog.name d]) d ∧
          (dispatcher.choices granted p).count (dispatcher.catalog.name d) = 1) ∧
    (dispatcher.registry.settings.strictAliases = true →
      ∀ d ∈ dispatcher.registry.children (some p), dispatcher.Unrivalled p d) := by
  have typed := Host.reachable_isTyped reachable
  refine ⟨fun listed => ?_, fun d member => exists_child_of_name reachable member,
    fun d member opens unrivalled => ?_,
    fun strict d member => unrivalled_of_strict reachable strict member⟩
  · have resolved := resolve_eq answers typed ready ends
    rw [resolution_short listed] at resolved
    rw [execute_refused resolved]
  · have found := unrivalled.lookup reachable member
    obtain ⟨above, descent⟩ := ends.descent_of_short
    exact ⟨found, descent.arrives typed found opens, unrivalled.count_choices member opens⟩

theorem suggestions_lead_on_janitor :
    (janitor.execute ["tool"] false []).outcome =
        .error (.failure (janitor.shortage "Sub-command required." ["tool"] ["clear", "sweep"])) ∧
      janitor.registry.lookup "sweep" (some ⟨3⟩) = some ⟨2⟩ ∧
      janitor.Arrives (fun _ => false) ["tool", "sweep"] ⟨2⟩ ∧
      (janitor.choices (fun _ => false) ⟨3⟩).count "sweep" = 1 := by
  have passes : janitor.Passes (fun _ => false) none "tool" ⟨3⟩ := ⟨by decide +kernel, rfl, rfl⟩
  have ends : janitor.EndsIn (fun _ => false) ["tool"] [⟨3⟩]
      (.short "Sub-command required." ["tool"] ⟨3⟩) := .intro (.here none) (.last passes rfl)
  have listed : janitor.choices (fun _ => false) ⟨3⟩ = ["clear", "sweep"] := by decide +kernel
  have children : janitor.registry.children (some ⟨3⟩) = [⟨1⟩, ⟨0⟩, ⟨2⟩] := by decide +kernel
  have answers : ∀ permission, janitor.check false permission = .ok false := fun _ => rfl
  obtain ⟨usage, -, leads, -⟩ := suggestions_lead_on reachable_janitor
    (fun required => absurd required Bool.false_ne_true) answers ends []
  rw [listed] at usage
  rw [children] at leads
  have unrivalled : janitor.Unrivalled ⟨3⟩ ⟨2⟩ := by
    rw [Unrivalled, children]
    decide
  exact ⟨usage (List.cons_ne_nil _ _), leads ⟨2⟩ (by decide) rfl unrivalled⟩

/-- A listed name may lead to a command that is not open, and may be listed twice. -/
theorem suggestions_mislead :
    Host.Reachable ⟨janitor.catalog, janitor.registry⟩ ∧
      (janitor.execute ["tool"] false []).outcome =
        .error (.failure (janitor.shortage "Sub-command required." ["tool"] ["clear", "sweep"])) ∧
      janitor.isOpen (fun _ => false) ⟨0⟩ = true ∧ janitor.catalog.name ⟨0⟩ = "clear" ∧
      janitor.registry.lookup "clear" (some ⟨3⟩) = some ⟨1⟩ ∧
      (janitor.execute ["tool", "clear"] false []).outcome = .error (.failure .denied) ∧
      (janitor.execute ["tool"] true []).outcome = .error (.failure
        (janitor.shortage "Sub-command required." ["tool"] ["clear", "clear", "sweep"])) :=
  ⟨reachable_janitor, by with_unfolding_all rfl, rfl, rfl, by decide +kernel,
    by with_unfolding_all rfl, by with_unfolding_all rfl⟩

end CommandTree.Dispatcher
