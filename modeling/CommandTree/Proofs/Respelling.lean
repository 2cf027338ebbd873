import CommandTree.Proofs.Capitals
import CommandTree.Proofs.Execution
import CommandTree.Proofs.Listing

namespace CommandTree

/-- A text in its own letter case, in lower case, or in capitals that go back to it. -/
inductive Text.Casing (s : String) : String → Prop where
  | same : Casing s s
  | lower : Casing s (lower s)
  | upper (back : returns [] s.toList = true) : Casing s (upper s)

theorem Text.Casing.lower_eq {s t : String} (casing : Text.Casing s t) :
    Text.lower t = Text.lower s := by
  cases casing with
  | same => rfl
  | lower => exact Text.lower_lower s
  | upper back => exact (Text.lower_upper_iff s).mpr back

theorem Text.lower_eq_of_casings {names names' : List String}
    (casings : List.Forall₂ Text.Casing names names') :
    names'.map Text.lower = names.map Text.lower := by
  induction casings with
  | nil => rfl
  | cons casing _ ih => rw [List.map_cons, List.map_cons, casing.lower_eq, ih]

/-! ### Names that are held -/

/-- A definition was placed under a parent with a name, and nothing else that goes by the name was
placed there afterwards. -/
def Catalog.Holds (catalog : Catalog) (history : List Placement) (p : Parent) (name : String)
    (d : DefId) : Prop :=
  ∃ earlier later, history = earlier ++ ⟨p, d⟩ :: later ∧
    name ∈ (catalog.definition d).aliases ∧
    ∀ e ∈ placedUnder p later, catalog.GoesBy e (Text.lower name) → e = d

theorem Catalog.Holds.lastCalled_eq {catalog : Catalog} {history : List Placement} {p : Parent}
    {name : String} {d : DefId} (holds : catalog.Holds history p name d) :
    catalog.lastCalled (Text.lower name) (placedUnder p history) = some d := by
  obtain ⟨earlier, later, rfl, named, kept⟩ := holds
  have goes : catalog.GoesBy d (Text.lower name) := ⟨name, named, rfl⟩
  rw [placedUnder_append, placedUnder_cons, if_pos rfl, lastCalled_append, lastCalled_append,
    lastCalled_singleton, if_pos goes]
  cases last : catalog.lastCalled (Text.lower name) (placedUnder p later) with
  | none => rfl
  | some e =>
    obtain ⟨placed, goes⟩ := mem_of_lastCalled last
    rw [kept e placed goes]
    rfl

namespace Host.Chronicle
variable {h : Host} {history : List Placement}

theorem lookup_eq (chronicle : h.Chronicle history) (name : String) (p : Parent) :
    h.registry.lookup name p =
      h.catalog.lastCalled (Text.lower name) (placedUnder p history) := by
  rw [Registry.lookup, chronicle.node_eq, Ordered.get?_putAll, Ordered.get?_empty, Option.or_none,
    Catalog.lastOf?_flatMap_filings]

theorem lookup_of_holds (chronicle : h.Chronicle history) {p : Parent} {name name' : String}
    {d : DefId} (holds : h.catalog.Holds history p name d)
    (same : Text.lower name' = Text.lower name) : h.registry.lookup name' p = some d := by
  rw [chronicle.lookup_eq, same, holds.lastCalled_eq]

end Host.Chronicle

/-! ### Paths in another letter case -/

theorem Registry.lookup_congr (registry : Registry) {name name' : String}
    (same : Text.lower name' = Text.lower name) (p : Parent) :
    registry.lookup name' p = registry.lookup name p := by
  rw [lookup, lookup, same]

def Invocation.respell (leaf : Invocation) (path : List String) (name : String) : Invocation :=
  { leaf with path, context := { leaf.context with command := name } }

/-- The same ending at the same command, but for the tokens of the path, of which the last is
`name`. -/
inductive Ending.Alike (name : String) : Ending → Ending → Prop where
  | unknown (other : String) : Alike name (.unknown other) (.unknown name)
  | short (message message' : String) (path path' : List String) (p : DefId) :
      Alike name (.short message path p) (.short message' path' p)
  | forbidden (d : DefId) : Alike name (.forbidden d) (.forbidden d)
  | tooFew (leaf : Invocation) (path : List String) :
      Alike name (.tooFew leaf) (.tooFew (leaf.respell path name))
  | tooMany (leaf : Invocation) (path : List String) :
      Alike name (.tooMany leaf) (.tooMany (leaf.respell path name))
  | unknownFlag (leaf : Invocation) (path : List String) (flag : Char) :
      Alike name (.unknownFlag leaf flag) (.unknownFlag (leaf.respell path name) flag)
  | call (leaf : Invocation) (path : List String) :
      Alike name (.call leaf) (.call (leaf.respell path name))

/-- The call that an ending makes before any other. -/
def Ending.call? (extras : List Value) : Ending → Option Call
  | .call leaf => some ⟨leaf.definition, leaf.context, extras⟩
  | _ => none

theorem Ending.call?_eq_none {ending : Ending} (uncalled : ∀ leaf, ending ≠ .call leaf)
    (extras : List Value) : ending.call? extras = none := by
  cases ending with
  | call leaf => exact absurd rfl (uncalled leaf)
  | _ => rfl

theorem Ending.Alike.call?_eq {name : String} {ending ending' : Ending}
    (alike : ending.Alike name ending') (extras : List Value) :
    ending'.call? extras = (ending.call? extras).map fun call =>
      { call with context := { call.context with command := name } } := by
  cases alike <;> rfl

namespace Dispatcher
variable {C : Type} {dispatcher : Dispatcher C} {caller : C} {granted : Value → Bool} {p q : Parent}
  {before before' rest : List String} {name name' : String} {met above : List DefId}
  {leaf : Invocation} {ending : Ending}

theorem Descent.respell (descent : dispatcher.Descent granted p before above q)
    (same : before'.map Text.lower = before.map Text.lower) :
    dispatcher.Descent granted p before' above q := by
  induction descent generalizing before' with
  | here p =>
    rw [List.map_eq_nil_iff.mp same]
    exact .here p
  | @down p q name d tokens met passes _ ih =>
    cases before' with
    | nil => exact nomatch same
    | cons name' tokens' =>
      obtain ⟨first, others⟩ := List.cons.inj same
      have looked := dispatcher.registry.lookup_congr first p
      exact .down { passes with found := looked.trans passes.found } (ih others)

theorem IsLeaf.respell (isLeaf : dispatcher.IsLeaf granted p before name rest leaf)
    (same : Text.lower name' = Text.lower name) (before' : List String) :
    dispatcher.IsLeaf granted p before' name' rest (leaf.respell (before' ++ [name']) name') where
  found := (Registry.lookup_congr _ same p).trans isLeaf.found
  opens := isLeaf.opens
  body := isLeaf.body
  path := rfl
  context := by
    rw [Invocation.respell, ← Option.some.inj isLeaf.context]
    rfl

theorem Judges.respell (judged : dispatcher.Judges leaf ending) (path : List String)
    (name : String) :
    ∃ ending', dispatcher.Judges (leaf.respell path name) ending' ∧ ending.Alike name ending' := by
  cases judged with
  | tooFew few => exact ⟨_, .tooFew few, .tooFew leaf path⟩
  | tooMany enough many => exact ⟨_, .tooMany enough many, .tooMany leaf path⟩
  | unknownFlag enough bounded missed =>
    obtain ⟨given, unknown, first⟩ := missed
    exact ⟨_, .unknownFlag enough bounded ⟨given, unknown, first⟩, .unknownFlag leaf path _⟩
  | call accepts =>
    obtain ⟨enough, bounded, known⟩ := accepts
    exact ⟨_, .call ⟨enough, bounded, known⟩, .call leaf path⟩

theorem Stops.respell (stops : dispatcher.Stops granted p before name rest met ending)
    (same : Text.lower name' = Text.lower name) (before' : List String) :
    ∃ ending', dispatcher.Stops granted p before' name' rest met ending' ∧
      ending.Alike name' ending' := by
  have looked := dispatcher.registry.lookup_congr same p
  cases stops with
  | unknown root missing => exact ⟨_, .unknown root (looked.trans missing), .unknown name⟩
  | astray nested missing => exact ⟨_, .astray nested (looked.trans missing), .short _ _ _ _ _⟩
  | forbidden found closed => exact ⟨_, .forbidden (looked.trans found) closed, .forbidden _⟩
  | last passes last =>
    exact ⟨_, .last { passes with found := looked.trans passes.found } last, .short _ _ _ _ _⟩
  | @leaf leaf _ isLeaf judged =>
    obtain ⟨ending', judged', alike⟩ := judged.respell (before' ++ [name']) name'
    have stops : dispatcher.Stops granted p before' name' rest
        [(leaf.respell (before' ++ [name']) name').definition] ending' :=
      .leaf (isLeaf.respell same before') judged'
    exact ⟨ending', stops, alike⟩

theorem head?_calls_execute
    (answers : ∀ permission, dispatcher.check caller permission = .ok (granted permission))
    (typed : dispatcher.catalog.IsTyped)
    (ready : dispatcher.settings.requireFrozen = true → dispatcher.registry.frozen = true)
    {tokens : List String} (ends : dispatcher.EndsIn granted tokens met ending)
    (extras : List Value) :
    (dispatcher.execute tokens caller extras).trace.calls.head? = ending.call? extras := by
  have resolved := resolve_eq answers typed ready ends
  cases resolution : dispatcher.resolution granted ending with
  | ok leaf =>
    obtain rfl := resolution_eq_ok_iff.mp resolution
    rw [execute_called resolved, Trace.calls, List.filterMap_append]
    exact congrArg (List.head? <| · ++ _) (Trace.calls_asking _)
  | error failure =>
    have uncalled : ∀ leaf, ending ≠ .call leaf := by
      rintro leaf rfl
      cases resolution
    rw [resolution] at resolved
    rw [execute_refused resolved, Ending.call?_eq_none uncalled]
    exact congrArg List.head? (Trace.calls_asking _)

/-- A path with the same lower case forms leads to the same commands, and to a call of the same with
the same arguments. -/
theorem execute_respelled
    (answers : ∀ permission, dispatcher.check caller permission = .ok (granted permission))
    (typed : dispatcher.catalog.IsTyped)
    (ready : dispatcher.settings.requireFrozen = true → dispatcher.registry.frozen = true)
    (descent : dispatcher.Descent granted none before above q)
    (stops : dispatcher.Stops granted q before name rest met ending)
    (path : before'.map Text.lower = before.map Text.lower)
    (last : Text.lower name' = Text.lower name) (extras : List Value) :
    (∃ ending', ending.Alike name' ending' ∧
      dispatcher.EndsIn granted (before' ++ name' :: rest) (above ++ met) ending') ∧
    (dispatcher.execute (before' ++ name' :: rest) caller extras).trace.calls.head? =
      (dispatcher.execute (before ++ name :: rest) caller extras).trace.calls.head?.map
        fun call => { call with context := { call.context with command := name' } } := by
  have descent' := descent.respell path
  obtain ⟨ending', stops', alike⟩ := stops.respell last before'
  refine ⟨⟨ending', alike, .intro descent' stops'⟩, ?_⟩
  rw [head?_calls_execute answers typed ready (.intro descent' stops'),
    head?_calls_execute answers typed ready (.intro descent stops), alike.call?_eq]

end Dispatcher

/-- A name finds the command that holds it in its own letter case, in lower case, and in capitals
unless these do not go back to the name. They go back exactly if each character of the name does,
and each small sigma is the one that belongs there. Capitals that do not go back are another name,
which finds the last command that goes by it. With its path in letter cases that go back a command
meets the same definitions, ends alike and calls the same with the same arguments. -/
theorem Host.found_in_any_case {h : Host} (reachable : Host.Reachable h) :
    (∃ history, h.Chronicle history) ∧ ∀ history, h.Chronicle history →
      (∀ p name d, h.catalog.Holds history p name d →
        (∀ name', Text.Casing name name' → h.registry.lookup name' p = some d) ∧
        (Text.returns [] name.toList = false →
          Text.lower (Text.upper name) ≠ Text.lower name ∧
          h.registry.lookup (Text.upper name) p =
            h.catalog.lastCalled (Text.lower (Text.upper name)) (placedUnder p history))) ∧
      (∀ (C : Type) (dispatcher : Dispatcher C) (caller : C) (granted : Value → Bool)
        (extras : List Value), dispatcher.catalog = h.catalog →
        (dispatcher.settings.requireFrozen = true → dispatcher.registry.frozen = true) →
        (∀ permission, dispatcher.check caller permission = .ok (granted permission)) →
        ∀ before name rest above q met ending,
          dispatcher.Descent granted none before above q →
          dispatcher.Stops granted q before name rest met ending →
          ∀ before' name', List.Forall₂ Text.Casing before before' → Text.Casing name name' →
            (∃ ending', ending.Alike name' ending' ∧
              dispatcher.EndsIn granted (before' ++ name' :: rest) (above ++ met) ending') ∧
            (dispatcher.execute (before' ++ name' :: rest) caller extras).trace.calls.head? =
              (dispatcher.execute (before ++ name :: rest) caller extras).trace.calls.head?.map
                fun call => { call with context := { call.context with command := name' } }) := by
  refine ⟨Host.exists_chronicle reachable, fun history chronicle => ⟨fun p name d holds =>
    ⟨fun name' casing => chronicle.lookup_of_holds holds casing.lower_eq,
      fun lost => ⟨?_, ?_⟩⟩, ?_⟩⟩
  · rw [ne_eq, Text.lower_upper_iff, lost]
    exact Bool.false_ne_true
  · exact chronicle.lookup_eq _ p
  · intro C dispatcher caller granted extras same ready answers before name rest above q met
      ending descent stops before' name' casings casing
    have typed : dispatcher.catalog.IsTyped := same ▸ Host.reachable_isTyped reachable
    exact Dispatcher.execute_respelled answers typed ready descent stops
      (Text.lower_eq_of_casings casings) casing.lower_eq extras

def tintDesk : Dispatcher Unit where
  catalog := Host.tinter.catalog
  registry := Host.tinter.registry
  check _ _ := .ok true
  settings := { requireFrozen := false }

theorem Host.found_in_any_case_rose :
    Host.tinter.registry.lookup "ROSE" none = some ⟨0⟩ ∧
      (tintDesk.execute ["ROSE"] () []).trace.calls.head? =
        some ⟨⟨0⟩, Context.read [] "ROSE" [], []⟩ := by
  obtain ⟨-, tells⟩ := Host.found_in_any_case Host.chronicle_tinter.reachable
  obtain ⟨names, paths⟩ := tells _ Host.chronicle_tinter
  have holds : Host.tints.Holds [⟨none, ⟨0⟩⟩, ⟨none, ⟨1⟩⟩, ⟨none, ⟨2⟩⟩] none "rose" ⟨0⟩ :=
    ⟨[], [⟨none, ⟨1⟩⟩, ⟨none, ⟨2⟩⟩], rfl, List.mem_cons_of_mem _ List.mem_cons_self,
      by decide +kernel⟩
  have capitals : Text.upper "rose" = "ROSE" := by decide +kernel
  have casing : Text.Casing "rose" "ROSE" := by
    rw [← capitals]
    exact .upper (Text.returns_of_ascii (by simp) [])
  refine ⟨(names none "rose" ⟨0⟩ holds).1 _ casing, ?_⟩
  let leaf : Invocation := ⟨["rose"], ⟨0⟩, fun _ _ => .give .null, Context.read [] "rose" []⟩
  have found : tintDesk.registry.lookup "rose" none = some ⟨0⟩ := by decide +kernel
  have isLeaf : tintDesk.IsLeaf (fun _ => true) none [] "rose" [] leaf :=
    ⟨found, rfl, rfl, rfl, rfl⟩
  have flags : leaf.context.flags = [] := by decide +kernel
  have accepts : (tintDesk.catalog.definition ⟨0⟩).Accepts leaf.context :=
    ⟨⟨0, rfl, Int.natCast_nonneg _⟩, ⟨-1, rfl, .inl rfl⟩, by simp [flags]⟩
  have ready : tintDesk.settings.requireFrozen = true → tintDesk.registry.frozen = true :=
    fun required => absurd required Bool.false_ne_true
  have stops : tintDesk.Stops (fun _ => true) none [] "rose" [] [⟨0⟩] (.call leaf) :=
    .leaf isLeaf (.call accepts)
  have called := (paths Unit tintDesk () (fun _ => true) [] rfl ready (fun _ => rfl) [] "rose" []
    [] none [⟨0⟩] (.call leaf) (.here none) stops [] "ROSE" .nil casing).2
  have first : (tintDesk.execute ([] ++ ["rose"]) () []).trace.calls.head? = _ :=
    Dispatcher.head?_calls_execute (fun _ => rfl)
      (Host.reachable_isTyped Host.chronicle_tinter.reachable) ready (.intro (.here none) stops) []
  rw [first] at called
  exact called

def streetDraft : Draft where
  aliases := .str "straße"
  handler := some fun _ _ => .give .null

def streets : Catalog where
  groups := #[{ members := [⟨0⟩] }]
  definitions := #[{ name := "straße", body := .leaf fun _ _ => .give .null }]

def cartographer : Host where
  catalog := streets
  registry := Registry.committed {} streets ⟨none, ⟨0⟩⟩

theorem chronicle_cartographer : cartographer.Chronicle [⟨none, ⟨0⟩⟩] := by
  let grouped : Catalog := { groups := #[{}] }
  have typed : streetDraft.IsTyped := ⟨⟨0, rfl⟩, ⟨-1, rfl⟩, _, rfl⟩
  have checked : streetDraft.check grouped = .ok (streets.definition ⟨0⟩) := rfl
  have declaring : Host.Chronicle ⟨streets, {}⟩ [] :=
    ((Host.Chronicle.fresh {}).grow (.group _ (.str ""))).grow (.declare ⟨0⟩ typed checked)
  have done : (Registry.attempt {} streets (.group ⟨0⟩) none).outcome = .ok (streets.members ⟨0⟩) :=
    (Registry.attempt_of_lenient rfl rfl rfl).1
  have placed : streets.placed ⟨none, ⟨0⟩⟩ = [⟨none, ⟨0⟩⟩] := by decide +kernel
  have registering := declaring.register done
  rw [(Registry.attempt_of_lenient rfl rfl rfl).2, placed] at registering
  exact registering

/-- A name with a letter that becomes two in capitals is not found in capitals. -/
theorem lost_in_capitals :
    cartographer.Reachable ∧ cartographer.Chronicle [⟨none, ⟨0⟩⟩] ∧
      cartographer.catalog.Holds [⟨none, ⟨0⟩⟩] none "straße" ⟨0⟩ ∧
      cartographer.registry.lookup "straße" none = some ⟨0⟩ ∧
      Text.upper "straße" = "STRASSE" ∧
      cartographer.registry.lookup (Text.upper "straße") none = none := by
  have holds : cartographer.catalog.Holds [⟨none, ⟨0⟩⟩] none "straße" ⟨0⟩ :=
    ⟨[], [], rfl, by decide, by decide⟩
  have capitals : Text.upper "straße" = "STRASSE" := by decide +kernel
  have unnamed : streets.lastCalled (Text.lower "STRASSE") [⟨0⟩] = none := by decide +kernel
  refine ⟨chronicle_cartographer.reachable, chronicle_cartographer, holds,
    chronicle_cartographer.lookup_of_holds holds rfl, capitals, ?_⟩
  rw [capitals, chronicle_cartographer.lookup_eq]
  exact unnamed

end CommandTree
