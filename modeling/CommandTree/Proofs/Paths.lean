import CommandTree.Proofs.Calling
import CommandTree.Proofs.Casing
import CommandTree.Proofs.Consistency
import CommandTree.Proofs.Stopping

/-!
Only words are found in a registry, so the tokens that a usage starts with come apart again at their
blanks.
-/

namespace CommandTree

theorem isWord_of_mem_splitLine {line lead token : String} (member : token ∈ splitLine line lead) :
    Text.IsWord token.toList := by
  obtain ⟨word, cut, rfl⟩ := List.mem_map.mp member
  rw [String.toList_ofList]
  exact Text.isWord_of_mem_words cut

theorem splitLine_path {lead : String} {tokens : List String} (short : lead.length ≤ 1)
    (given : tokens ≠ []) (words : ∀ token ∈ tokens, Text.IsWord token.toList) :
    splitLine (Usage.path lead tokens) lead = tokens := by
  have spaced : ∀ arg ∈ ([] : List String), Text.IsSpaced arg.toList := nofun
  have cut := splitLine_commandLine short given words spaced
  rwa [commandLine, List.map_nil, List.flatMap_nil, List.append_nil] at cut

/-! ### Names one below the other -/

namespace Registry

/-- Where names lead to from a parent when each is looked up under the command before it. -/
def follow (registry : Registry) : Parent → List String → Option Parent
  | p, [] => some p
  | p, name :: names => (registry.lookup name p).bind fun d => registry.follow (some d) names

variable {registry : Registry} {catalog : Catalog} {p q : Parent} {d : DefId} {name : String}
  {names : List String}

theorem follow_append (names more : List String) (p : Parent) :
    registry.follow p (names ++ more) =
      (registry.follow p names).bind fun q => registry.follow q more := by
  induction names generalizing p with
  | nil => rfl
  | cons name names ih => simp only [List.cons_append, follow, Option.bind_assoc, ih]

theorem follow_concat (followed : registry.follow p names = some q)
    (found : registry.lookup name q = some d) :
    registry.follow p (names ++ [name]) = some (some d) := by
  rw [follow_append, followed, Option.bind_some, follow, found]
  rfl

theorem ne_nil_of_follow (followed : registry.follow none names = some (some d)) : names ≠ [] := by
  rintro rfl
  exact nomatch followed

theorem Consistent.isWord_of_lookup (consistent : registry.Consistent catalog)
    (named : catalog.IsNamed) (found : registry.lookup name p = some d) :
    Text.IsWord name.toList := by
  obtain ⟨member, declared, called, same⟩ := consistent.filed p _ d found
  have word := named.words d (consistent.declared d member) declared called
  rwa [← Text.isWord_lower_iff, ← same, Text.isWord_lower_iff]

theorem Consistent.isWord_of_follow (consistent : registry.Consistent catalog)
    (named : catalog.IsNamed) (followed : registry.follow p names = some q) :
    ∀ name ∈ names, Text.IsWord name.toList := by
  induction names generalizing p with
  | nil => exact fun _ member => nomatch member
  | cons name names ih =>
    obtain ⟨d, found, followed⟩ := Option.bind_eq_some_iff.mp followed
    exact List.forall_mem_cons.mpr ⟨consistent.isWord_of_lookup named found, ih followed⟩

end Registry

/-! ### Usages of definitions -/

namespace Usage

/-- A text is the usage of a definition that was reached by a path. -/
inductive IsFor (lead : String) (path : List String) (d : Definition) : String → Prop where
  | leaf {handler : Handler} {usage : String} (body : d.body = .leaf handler)
      (built : Usage.leaf lead path d = .ok usage) : IsFor lead path d usage
  | nested (nested : d.isNested = true) (choices : String) :
      IsFor lead path d (Usage.nested lead path choices)

theorem intercalate_begins (first : String) (rest : List String) :
    ∃ below, " ".intercalate (first :: rest) = first ++ below := by
  cases rest with
  | nil => exact ⟨"", by rw [String.intercalate_singleton, String.append_empty]⟩
  | cons next rest => exact ⟨_, by rw [String.intercalate_cons_cons, String.append_assoc]⟩

theorem IsFor.begins {lead usage : String} {path : List String} {d : Definition}
    (built : IsFor lead path d usage) : ∃ below, usage = Usage.path lead path ++ below := by
  cases built with
  | leaf body built =>
    unfold Usage.leaf at built
    extract_lets flags parts at built
    split at built
    · obtain rfl := Except.ok.inj built
      exact intercalate_begins _ _
    · split at built
      · obtain rfl := Except.ok.inj built
        exact intercalate_begins _ _
      · exact nomatch built
  | nested nested choices =>
    exact ⟨_, by rw [Usage.nested, String.append_assoc, String.append_assoc]⟩

end Usage

namespace Dispatcher
variable {C : Type} {dispatcher : Dispatcher C} {caller : C} {failure : Failure} {d : DefId}
  {p : Parent} {before path tokens : List String}

/-! ### Checks do not fail -/

/-- A check of permissions may end in a fault, but not in a failure. -/
theorem failed_after {α β : Type} {run : Run α} {next : α → Run β}
    (checks : run.StopsBy fun interrupt => ∃ fault, interrupt = .fault fault)
    (failed : (run >>= next).outcome = .error (.failure failure)) :
    ∃ a, (next a).outcome = .error (.failure failure) := by
  obtain before | ⟨a, -, after⟩ := Run.bind_error failed
  · obtain ⟨fault, same⟩ := checks _ before
    exact nomatch same
  · exact ⟨a, after⟩

/-! ### Failures with a usage -/

/-- The usage of a failure is that of a definition to which the first tokens lead. -/
def Shows (dispatcher : Dispatcher C) (tokens : List String) (usage : Value) : Prop :=
  ∃ path d text, path <+: tokens ∧
    dispatcher.registry.follow none path = some (some d) ∧ usage = .str text ∧
    Usage.IsFor dispatcher.settings.lead path (dispatcher.catalog.definition d) text

theorem failBelow_shows {α : Type} {message : String} {more : List String}
    (followed : dispatcher.registry.follow none path = some (some d))
    (nested : (dispatcher.catalog.definition d).isNested = true)
    (failed : (dispatcher.failBelow message path d caller : Run α).outcome =
      .error (.failure failure))
    (given : failure.usage ≠ .null) : dispatcher.Shows (path ++ more) failure.usage := by
  obtain ⟨visible, failed⟩ :=
    failed_after (stopsBy_visible (fun _ fault _ => ⟨fault, rfl⟩) _) failed
  unfold Usage.choices at failed
  split at failed <;> rename_i chosen
  · split at chosen
    · exact nomatch chosen
    · split at chosen
      · cases chosen
        cases failed
        exact absurd rfl given
      · exact nomatch chosen
  · cases failed
    exact ⟨path, d, _, List.prefix_append _ _, followed, rfl, .nested nested _⟩

theorem resolveFrom_shows (followed : dispatcher.registry.follow none before = some p)
    (nested : ∀ d, p = some d → (dispatcher.catalog.definition d).isNested = true)
    (failed : (dispatcher.resolveFrom caller p before tokens).outcome = .error (.failure failure))
    (given : failure.usage ≠ .null) : dispatcher.Shows (before ++ tokens) failure.usage := by
  induction tokens generalizing p before with
  | nil => cases failed
  | cons name rest ih =>
    unfold resolveFrom at failed
    cases found : dispatcher.registry.lookup name p with
    | none =>
      rw [found] at failed
      cases p with
      | none =>
        cases failed
        exact absurd rfl given
      | some p => exact failBelow_shows followed (nested p rfl) failed given
    | some d =>
      rw [found] at failed
      have here := Registry.follow_concat followed found
      obtain ⟨permitted, failed⟩ :=
        failed_after (stopsBy_hasPermission (fun _ fault _ => ⟨fault, rfl⟩) d) failed
      rw [List.append_cons]
      cases permitted with
      | false =>
        cases failed
        exact absurd rfl given
      | true =>
        dsimp only at failed
        cases body : (dispatcher.catalog.definition d).body with
        | nested first others =>
          have below : (dispatcher.catalog.definition d).isNested = true := by
            simp [Definition.isNested, Definition.nested, body]
          rw [if_pos rfl, body] at failed
          dsimp only at failed
          split at failed
          · exact failBelow_shows here below failed given
          · refine ih here (fun e same => ?_) failed
            rwa [← Option.some.inj same]
        | leaf handler =>
          rw [if_pos rfl, body] at failed
          dsimp only at failed
          split at failed <;> rename_i built
          · cases failed
          · split at failed
            · cases failed
              exact ⟨_, d, _, List.prefix_append _ _, here, rfl, .leaf body built⟩
            · cases failed

theorem resolve_shows
    (failed : (dispatcher.resolve tokens caller).outcome = .error (.failure failure))
    (given : failure.usage ≠ .null) : dispatcher.Shows tokens failure.usage := by
  unfold resolve at failed
  split at failed
  · exact nomatch failed
  · split at failed
    · exact nomatch failed
    · exact resolveFrom_shows (p := none) rfl (fun _ same => nomatch same) failed given

theorem resolve_of_uncalled {depth : Nat} {standing : Standing} {extras : List Value}
    (uncalled : (dispatcher.executeWithin depth standing tokens extras).trace.calls = [])
    (failed : (dispatcher.executeWithin depth standing tokens extras).outcome =
      .error (.failure failure)) :
    (dispatcher.anyone.resolve tokens standing).outcome = .error (.failure failure) := by
  cases depth with
  | zero => exact nomatch failed
  | succ depth =>
    cases resolved : dispatcher.anyone.resolve tokens standing with
    | mk outcome trace =>
      cases outcome with
      | error interrupt =>
        rw [executeWithin_refused resolved] at failed
        exact congrArg Except.error (Except.error.inj failed)
      | ok leaf =>
        rw [executeWithin_called resolved, Trace.calls, List.filterMap_append] at uncalled
        simp [Event.call?] at uncalled

/-- Lines are cut into words, and words that are written behind a sign with spaces between them are
cut apart again. So when a command fails before a handler is called and its failure has a usage,
this is for a definition to which some of the first tokens lead, and it begins with a line that is
cut into just these tokens. The commands that handlers execute are no different. -/
theorem splitLine_usage_path
    (reachable : Host.Reachable ⟨dispatcher.catalog, dispatcher.registry⟩) :
    let lead := dispatcher.settings.lead
    (∀ line sign : String, ∀ token ∈ splitLine line sign, Text.IsWord token.toList) ∧
    (∀ (sign : String) (tokens : List String), sign.length ≤ 1 → tokens ≠ [] →
      (∀ token ∈ tokens, Text.IsWord token.toList) →
      splitLine (sign ++ " ".intercalate tokens) sign = tokens) ∧
    ∀ depth standing tokens extras failure, lead.length ≤ 1 →
      (dispatcher.executeWithin depth standing tokens extras).trace.calls = [] →
      (dispatcher.executeWithin depth standing tokens extras).outcome = .error (.failure failure) →
      failure.usage ≠ .null →
      ∃ level d usage below, level < tokens.length ∧
        dispatcher.registry.follow none (tokens.take (level + 1)) = some (some d) ∧
        failure.usage = .str usage ∧
        Usage.IsFor lead (tokens.take (level + 1)) (dispatcher.catalog.definition d) usage ∧
        usage = Usage.path lead (tokens.take (level + 1)) ++ below ∧
        splitLine (Usage.path lead (tokens.take (level + 1))) lead = tokens.take (level + 1) := by
  intro lead
  refine ⟨fun _ _ _ => isWord_of_mem_splitLine, fun _ _ => splitLine_path, ?_⟩
  intro depth standing tokens extras failure short uncalled failed given
  have shows : dispatcher.anyone.Shows tokens failure.usage :=
    resolve_shows (resolve_of_uncalled uncalled failed) given
  obtain ⟨path, d, usage, leads, followed, shown, built⟩ := shows
  obtain ⟨below, same⟩ := built.begins
  have words := (Host.reachable_consistent reachable).isWord_of_follow
    (Host.reachable_isNamed reachable) followed
  have nonempty := Registry.ne_nil_of_follow followed
  have positive := List.length_pos_of_ne_nil nonempty
  have bounded := leads.length_le
  have taken : tokens.take (path.length - 1 + 1) = path := by
    rw [Nat.sub_add_cancel positive]
    exact (List.prefix_iff_eq_take.mp leads).symm
  refine ⟨path.length - 1, d, usage, below, by omega, ?_⟩
  rw [taken]
  exact ⟨followed, shown, built, same, splitLine_path short nonempty words⟩

theorem splitLine_usage_path_sphere :
    ∃ level d, level < 2 ∧
      easel.registry.follow none (["Brush", "sphere"].take (level + 1)) = some (some d) ∧
      Usage.IsFor "/" (["Brush", "sphere"].take (level + 1)) (easel.catalog.definition d)
        "/Brush sphere [-h] <block> [radius]" ∧
      splitLine (Usage.path "/" (["Brush", "sphere"].take (level + 1))) "/" =
        ["Brush", "sphere"].take (level + 1) := by
  have uncalled : (easel.executeWithin 1 (easel.check ()) ["Brush", "sphere"] []).trace.calls =
      [] := by decide +kernel
  have failed : (easel.executeWithin 1 (easel.check ()) ["Brush", "sphere"] []).outcome =
    .error (.failure {
      kind := .tooFewArguments
      message := .str "Too few arguments."
      usage := .str "/Brush sphere [-h] <block> [radius]" }) := by with_unfolding_all rfl
  obtain ⟨-, -, back⟩ := splitLine_usage_path reachable_easel
  obtain ⟨level, d, usage, below, bounded, followed, shown, built, -, again⟩ :=
    back 1 (easel.check ()) ["Brush", "sphere"] [] _ (by decide) uncalled failed (by simp)
  obtain rfl := Value.str.inj shown
  exact ⟨level, d, bounded, followed, built, again⟩

end Dispatcher
end CommandTree
