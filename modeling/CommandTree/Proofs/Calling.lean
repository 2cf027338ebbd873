import CommandTree.Proofs.Execution
import CommandTree.Proofs.Mirror
import CommandTree.Proofs.Naming
import CommandTree.Proofs.Quoting

namespace CommandTree

def inQuotes (content : String) : String := "\"" ++ content ++ "\""

/-- The line that names a command from the root down and gives it arguments. -/
def commandLine (lead : String) (names args : List String) : String :=
  lead ++ " ".intercalate (names ++ args.map inQuotes)

theorem toList_inQuotes (content : String) :
    (inQuotes content).toList = '"' :: (content.toList ++ ['"']) := by
  simp [inQuotes]

theorem words_inQuotes {content : String} (spaced : Text.IsSpaced content.toList) :
    (Text.words (inQuotes content).toList).map String.ofList = wrapped '"' content := by
  rw [toList_inQuotes, spaced.words_quoted (by decide)]
  rfl

theorem splitLine_commandLine {lead : String} {names args : List String} (short : lead.length ≤ 1)
    (given : names ≠ []) (words : ∀ name ∈ names, Text.IsWord name.toList)
    (spaced : ∀ arg ∈ args, Text.IsSpaced arg.toList) :
    splitLine (commandLine lead names args) lead = names ++ args.flatMap (wrapped '"') := by
  have row : (" ".intercalate (names ++ args.map inQuotes)).toList =
      [' '].intercalate ((names ++ args.map inQuotes).map String.toList) := String.toList_intercalate
  have tight : Text.IsTight (" ".intercalate (names ++ args.map inQuotes)).toList := by
    rw [row]
    refine Text.isTight_intercalate (by simp [given]) ?_
    simp only [List.map_append, List.map_map, List.forall_mem_append, List.forall_mem_map]
    refine ⟨fun name member => (words name member).isTight, fun arg _ => ?_⟩
    rw [Function.comp_apply, toList_inQuotes]
    exact Text.isTight_quoted (by decide) _
  have named : (names.flatMap fun name => (Text.words name.toList).map String.ofList) = names := by
    conv_rhs => rw [← List.flatMap_singleton' names]
    refine List.flatMap_congr fun name member => ?_
    simp [(words name member).words_eq]
  have written : (args.flatMap fun arg => (Text.words (inQuotes arg).toList).map String.ofList) =
      args.flatMap (wrapped '"') :=
    List.flatMap_congr fun arg member => words_inQuotes (spaced arg member)
  rw [commandLine, splitLine_lead short tight, row, Text.words_intercalate, List.map_flatMap,
    List.flatMap_map, List.flatMap_append, List.flatMap_map, named, written]

theorem Context.read_wrapped (valued : List Char) (command : String) {args : List String}
    (unquoted : ∀ arg ∈ args, '"' ∉ arg.toList) :
    Context.read valued command (args.flatMap (wrapped '"')) =
      { command, args, flags := [], values := ∅ } := by
  have fit : ∀ phrase ∈ args.map (Phrase.text '"'), phrase.Fits valued := by
    simp only [List.forall_mem_map]
    exact fun arg member => .text rfl (unquoted arg member)
  have tokens : (args.map (Phrase.text '"')).flatMap Phrase.tokens = args.flatMap (wrapped '"') :=
    List.flatMap_map _ _ _
  have letters : ((args.map (Phrase.text '"')).map Phrase.segment).flatMap Segment.letters = [] := by
    simp [Phrase.segment, Segment.letters]
  have given :
      ((args.map (Phrase.text '"')).map Phrase.segment).flatMap Segment.valueTexts = [] := by
    simp [Phrase.segment, Segment.valueTexts]
  have texts : ((args.map (Phrase.text '"')).map Phrase.segment).filterMap Segment.argumentText? =
      args := by
    simp [Function.comp_def, Phrase.segment, Segment.argumentText?]
  rw [← tokens, Context.read_phrases fit, Context.ofSegments, letters, given, texts]
  rfl

/-! ### Chains of declared commands -/

namespace Catalog
variable {catalog : Catalog} {group : GroupId} {p q : Parent} {d e : DefId} {names : List String}

/-- Names that lead from a parent to another, each of a definition that is declared under the one
before it. -/
inductive Chain (catalog : Catalog) (group : GroupId) : Parent → List String → Parent → Prop where
  | here (p : Parent) : Chain catalog group p [] p
  | down {p q : Parent} {name : String} {d : DefId} {names : List String}
      (member : d ∈ catalog.declared group p) (named : name ∈ (catalog.definition d).aliases)
      (chain : Chain catalog group (some d) names q) : Chain catalog group p (name :: names) q

theorem isNested_of_declared (member : e ∈ catalog.declared group (some d)) :
    (catalog.definition d).isNested = true := by
  obtain ⟨g, nested, -⟩ := mem_declaredUnder.mp member
  exact isNested_iff.mpr ⟨g, nested⟩

theorem Chain.isNested (chain : catalog.Chain group (some d) names q)
    (member : e ∈ catalog.declared group q) : (catalog.definition d).isNested = true := by
  cases chain with
  | here => exact isNested_of_declared member
  | down next => exact isNested_of_declared next

theorem Chain.reach (chain : catalog.Chain group p names q) (member : e ∈ catalog.declared group q)
    (reach : catalog.Reach group p) : catalog.Reach group q := by
  -- Something is declared under each command on the way, so each is nested.
  induction chain with
  | here => exact reach
  | down next _ chain ih => exact ih member (.nested reach next (chain.isNested member))

theorem IsNamed.of_declared (named : catalog.IsNamed) (member : d ∈ catalog.declared group p) :
    (catalog.definition d).IsNamed := by
  cases p with
  | none => exact named.of_member member
  | some p =>
    obtain ⟨_, -, member⟩ := mem_declaredUnder.mp member
    exact named.of_member member

theorem Chain.words (chain : catalog.Chain group p names q) (named : catalog.IsNamed) :
    ∀ name ∈ names, Text.IsWord name.toList := by
  induction chain with
  | here => exact fun _ member => nomatch member
  | down member called _ ih =>
    exact List.forall_mem_cons.mpr ⟨named.of_declared member _ called, ih⟩

end Catalog

namespace Registry

theorem frozen_freeze (registry : Registry) : registry.freeze.1.frozen = true := by
  unfold freeze
  split <;> rename_i frozen
  · exact frozen
  · rfl

theorem lookup_freeze (registry : Registry) (name : String) (parent : Parent) :
    registry.freeze.1.lookup name parent = registry.lookup name parent := by
  unfold freeze
  split <;> rfl

theorem children_freeze (registry : Registry) (parent : Parent) :
    registry.freeze.1.children parent = registry.children parent := by
  unfold freeze
  split <;> rfl

end Registry

/-! ### Calls -/

namespace Dispatcher
variable {C : Type} {dispatcher : Dispatcher C} {caller : C} {settings : Settings} {group : GroupId}
  {registration : Registry.Registration} {p q : Parent} {d e : DefId} {name : String}
  {names args : List String} {handler : Handler} {least most : Int}

theorem isOpen_of_granted (d : DefId) : dispatcher.isOpen (fun _ => true) d = true := by
  unfold isOpen Definition.isOpenTo
  cases (dispatcher.catalog.definition d).permissions <;> rfl

section Registered
variable (strict : settings.strictAliases = true)
  (done : ({ settings } : Registry).register dispatcher.catalog (.group group) none =
    .ok registration)
  (frozen : dispatcher.registry = registration.registry.freeze.1)
include strict done frozen

theorem lookup_declared (reach : dispatcher.catalog.Reach group p)
    (member : d ∈ dispatcher.catalog.declared group p)
    (named : name ∈ (dispatcher.catalog.definition d).aliases) :
    dispatcher.registry.lookup name p = some d := by
  rw [frozen, Registry.lookup_freeze]
  exact Registry.get?_registered_strict done strict
    (Catalog.mem_claimed_root_iff.mpr ⟨reach, member, name, named, rfl⟩)

theorem descent_of_chain (chain : dispatcher.catalog.Chain group p names q)
    (member : e ∈ dispatcher.catalog.declared group q) (reach : dispatcher.catalog.Reach group p) :
    ∃ met, dispatcher.Descent (fun _ => true) p names met q := by
  induction chain with
  | here => exact ⟨_, .here _⟩
  | down next named chain ih =>
    have nested := chain.isNested member
    obtain ⟨met, descent⟩ := ih member (.nested reach next nested)
    have passes : dispatcher.Passes (fun _ => true) _ _ _ :=
      ⟨lookup_declared strict done frozen reach next named, isOpen_of_granted _, nested⟩
    exact ⟨_, .down passes descent⟩

end Registered

/-- Every declared command can be called by its names, as often as these go round, and its handler
is given exactly the arguments that were typed. -/
theorem executeLine_declared
    (fresh : Host.Reachable ⟨dispatcher.catalog, { settings }⟩)
    (strict : settings.strictAliases = true)
    (done : ({ settings } : Registry).register dispatcher.catalog (.group group) none =
      .ok registration)
    (frozen : dispatcher.registry = registration.registry.freeze.1)
    (short : dispatcher.settings.lead.length ≤ 1)
    (granted : ∀ permission, dispatcher.check caller permission = .ok true)
    (chain : dispatcher.catalog.Chain group none names p)
    (member : d ∈ dispatcher.catalog.declared group p)
    (named : name ∈ (dispatcher.catalog.definition d).aliases)
    (body : (dispatcher.catalog.definition d).body = .leaf handler)
    (minArgs : (dispatcher.catalog.definition d).minArgs = .int least)
    (maxArgs : (dispatcher.catalog.definition d).maxArgs = .int most)
    (enough : least ≤ args.length) (bounded : most = -1 ∨ args.length ≤ most)
    (unquoted : ∀ arg ∈ args, '"' ∉ arg.toList)
    (spaced : ∀ arg ∈ args, Text.IsSpaced arg.toList) (extras : List Value) :
    let context : Context := { command := name, args, flags := [], values := ∅ }
    let run := dispatcher.handle caller ⟨names ++ [name], d, handler, context⟩ extras
    ∃ asked : List Value,
      dispatcher.executeLine (commandLine dispatcher.settings.lead (names ++ [name]) args) caller
          extras =
        { outcome := wrap run.outcome
          trace := asked.map .asked ++
            .logged ⟨.debug, "Executing command: " ++ " ".intercalate (names ++ [name])⟩ ::
            .called ⟨d, context, extras⟩ :: run.trace } := by
  intro context run
  have worded := Host.reachable_isNamed fresh
  have words : ∀ word ∈ names ++ [name], Text.IsWord word.toList := by
    refine List.forall_mem_append.mpr ⟨chain.words worded, ?_⟩
    exact List.forall_mem_singleton.mpr (worded.of_declared member name named)
  have reach := chain.reach member .root
  obtain ⟨met, descent⟩ := descent_of_chain strict done frozen chain member .root
  have isLeaf : dispatcher.IsLeaf (fun _ => true) p names name (args.flatMap (wrapped '"'))
      ⟨names ++ [name], d, handler, context⟩ := {
    found := lookup_declared strict done frozen reach member named
    opens := isOpen_of_granted d
    body := body
    path := rfl
    context := congrArg some (Context.read_wrapped _ name unquoted) }
  have accepts : (dispatcher.catalog.definition d).Accepts context :=
    ⟨⟨least, minArgs, enough⟩, ⟨most, maxArgs, bounded⟩, fun _ given => nomatch given⟩
  obtain ⟨asked, ends⟩ := names_iff.mp ⟨names, name, _, met, p, rfl, descent, isLeaf, accepts⟩
  have ready : dispatcher.settings.requireFrozen = true → dispatcher.registry.frozen = true := by
    intro _
    rw [frozen, Registry.frozen_freeze]
  rw [executeLine, splitLine_commandLine short (by simp) words spaced, List.append_assoc,
    List.singleton_append,
    execute_called (resolve_eq granted (Host.reachable_isTyped fresh) ready ends)]
  exact ⟨_, rfl⟩

def going : Draft where
  aliases := .str "go"
  nested := [.group ⟨0⟩]

def stopping : Draft where
  aliases := .str "stop"
  handler := some fun _ _ => .give .null

theorem reachable_leadingBack (settings : Settings) :
    Host.Reachable ⟨Registry.leadingBack, { settings }⟩ := by
  let grouped : Host := { registry := { settings }, catalog.groups := #[{}] }
  let nested : Host := { grouped with
    catalog := ⟨#[{ members := [⟨0⟩] }], #[Registry.leadingBack.definition ⟨0⟩]⟩ }
  have grouping : grouped.Reachable := (Host.Reachable.fresh settings).step (.group _ (.str ""))
  have nestDeclared : grouped.catalog.nest ⟨0⟩ going = .ok (⟨0⟩, nested.catalog) := rfl
  have leafDeclared : nested.catalog.command ⟨0⟩ stopping .null =
    .ok (⟨1⟩, Registry.leadingBack) := rfl
  have nesting : nested.Reachable :=
    grouping.step (.nest ⟨⟨0, rfl⟩, ⟨-1, rfl⟩, _, rfl⟩ nestDeclared)
  exact nesting.step (.command ⟨⟨0, rfl⟩, ⟨-1, rfl⟩, _, rfl⟩ leafDeclared)

def wanderer : Dispatcher Unit where
  catalog := Registry.leadingBack
  registry := (Registry.attempt { settings := { strictAliases := true } } Registry.leadingBack
    (.group ⟨0⟩) none).registry.freeze.1
  check _ _ := .ok true
  settings := {}

/-- Arguments that are empty or start with a space reach a command behind two rounds. -/
theorem executeLine_declared_wanderer :
    (wanderer.executeLine "/go go stop \" a\" \"\"" () []).trace.calls =
      [⟨⟨1⟩, { command := "stop", args := [" a", ""], flags := [], values := ∅ }, []⟩] := by
  have outcome : (Registry.attempt { settings := { strictAliases := true } } Registry.leadingBack
      (.group ⟨0⟩) none).outcome = .ok (Registry.leadingBack.members ⟨0⟩) := by
    rw [Registry.attempt_group _ rfl rfl, Registry.rivals_eq_nil_iff_not_contested.mpr
      (Registry.not_contested_leadingBack _)]
  obtain ⟨registration, done⟩ := Registry.register_of_outcome _ outcome
  have frozen : wanderer.registry = registration.registry.freeze.1 := by
    rw [← (Registry.register_ok _ done).2]
    rfl
  have fresh : Host.Reachable ⟨wanderer.catalog, { settings := { strictAliases := true } }⟩ :=
    reachable_leadingBack _
  have short : wanderer.settings.lead.length ≤ 1 := by decide
  have granted : ∀ permission, wanderer.check () permission = .ok true := fun _ => rfl
  have body : (wanderer.catalog.definition ⟨1⟩).body = .leaf fun _ _ => .give .null := rfl
  have minArgs : (wanderer.catalog.definition ⟨1⟩).minArgs = .int 0 := rfl
  have maxArgs : (wanderer.catalog.definition ⟨1⟩).maxArgs = .int (-1) := rfl
  have round : wanderer.catalog.Chain ⟨0⟩ (some ⟨0⟩) ["go"] (some ⟨0⟩) :=
    .down (show ⟨0⟩ ∈ Registry.leadingBack.declared ⟨0⟩ (some ⟨0⟩) by decide) (by decide) (.here _)
  have chain : wanderer.catalog.Chain ⟨0⟩ none ["go", "go"] (some ⟨0⟩) :=
    .down (show ⟨0⟩ ∈ Registry.leadingBack.declared ⟨0⟩ none by decide) (by decide) round
  have member : ⟨1⟩ ∈ wanderer.catalog.declared ⟨0⟩ (some ⟨0⟩) := by decide
  have named : "stop" ∈ (wanderer.catalog.definition ⟨1⟩).aliases := by decide
  have enough : (0 : Int) ≤ [" a", ""].length := by decide
  have unquoted : ∀ arg ∈ [" a", ""], '"' ∉ arg.toList := by decide
  have spaced : ∀ arg ∈ [" a", ""], Text.IsSpaced arg.toList := by
    have letter : Text.isBlank 'a' = false := by decide
    have padded : Text.IsSpaced " a".toList := ⟨by simp [letter], by decide⟩
    have empty : Text.IsSpaced "".toList := ⟨by simp, by decide⟩
    simpa using And.intro padded empty
  obtain ⟨asked, same⟩ := executeLine_declared fresh rfl done frozen short granted chain member
    named body minArgs maxArgs enough (.inl rfl) unquoted spaced []
  have line : commandLine "/" ["go", "go", "stop"] [" a", ""] = "/go go stop \" a\" \"\"" := by
    decide +kernel
  have calls := congrArg (fun run => run.trace.calls) same
  rw [← line]
  refine calls.trans ?_
  rw [Trace.calls, List.filterMap_append]
  exact congrArg (· ++ _) (Trace.calls_asking asked)

end Dispatcher
end CommandTree
