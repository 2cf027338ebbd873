import CommandTree.Proofs.Tables
import CommandTree.Proofs.Terms
import CommandTree.Table.Load

namespace CommandTree

namespace Resolver

def Agrees (first second : Resolver) : Prop :=
  ∀ reference, (first.resolve reference).outcome = (second.resolve reference).outcome

theorem Agrees.symm {first second : Resolver} (agrees : first.Agrees second) :
    second.Agrees first := fun reference => (agrees reference).symm

variable (resolver : Resolver) (reference : String)

theorem outcome_resolveAnew_known (known : List (String × Target × Handler)) :
    (({ resolver with known } : Resolver).resolveAnew reference).outcome =
      (resolver.resolveAnew reference).outcome := by
  unfold resolveAnew
  split
  · rfl
  · split
    · rfl
    · dsimp only
      split
      · rfl
      · split <;> rfl

theorem resolveAnew_cases :
    (∃ fault, (resolver.resolveAnew reference).outcome = .error fault) ∧
      (resolver.resolveAnew reference).resolver = resolver ∨
    ∃ found, (resolver.resolveAnew reference).outcome = .ok found ∧
      (resolver.resolveAnew reference).resolver =
        { resolver with known := (reference, found) :: resolver.known } := by
  unfold resolveAnew
  split
  · exact .inl ⟨⟨_, rfl⟩, rfl⟩
  · split
    · exact .inl ⟨⟨_, rfl⟩, rfl⟩
    · split
      · exact .inl ⟨⟨_, rfl⟩, rfl⟩
      · split
        · exact .inl ⟨⟨_, rfl⟩, rfl⟩
        · exact .inr ⟨_, rfl, rfl⟩

theorem agrees_resolve : (resolver.resolve reference).resolver.Agrees resolver := by
  intro other
  cases known : resolver.known.lookup reference with
  | some found => simp only [resolve, known]
  | none =>
    have anew : resolver.resolve reference = resolver.resolveAnew reference := by
      simp only [resolve, known]
    rw [anew]
    rcases resolver.resolveAnew_cases reference with ⟨-, same⟩ | ⟨found, ended, remembered⟩
    · rw [same]
    · rw [remembered]
      by_cases again : other = reference
      · subst again
        rw [anew, ended]
        simp [resolve]
      · have missed : (other == reference) = false := by simpa using again
        cases there : resolver.known.lookup other with
        | some kept => simp only [resolve, List.lookup_cons, missed, there]
        | none =>
          simp only [resolve, List.lookup_cons, missed, there]
          exact outcome_resolveAnew_known ..

end Resolver

/-! ### Entries -/

namespace Table.Entry

/-- What the checks of a declaration ask of an entry. -/
structure IsSound (e : Entry) : Prop where
  names : ∀ name ∈ e.aliases, Text.IsWord name.toList
  bounds : e.maxArgs = -1 ∨ e.minArgs ≤ e.maxArgs
  flags : FlagAlphabet.IsRow e.flags.toList

/-- An entry that passes the checks and whose reference, if it has one, leads to a handler. -/
structure IsLoadable (resolver : Resolver) (e : Entry) : Prop where
  sound : e.IsSound
  resolves : ∀ reference, e.reference? = some reference →
    ∃ found, (resolver.resolve reference).outcome = .ok found

def handlerIn (resolver : Resolver) (e : Entry) : Option Handler :=
  e.reference?.bind fun reference =>
    (resolver.resolve reference).outcome.toOption.map (·.2)

/-- A definition that says what an entry says and leads to the groups of the names that the entry
lists. -/
structure IsBuilt (groups : List (String × GroupId)) (handler? : Option Handler) (e : Entry)
    (d : Definition) : Prop where
  aliases : d.aliases = e.aliases
  desc : d.desc = .str e.desc
  usage : d.usage = .str e.usage
  flags : d.flags = .str e.flags
  alphabet : FlagAlphabet.parse e.flags = .ok d.alphabet
  minArgs : d.minArgs = .int e.minArgs
  maxArgs : d.maxArgs = .int e.maxArgs
  admits : ∀ n, d.admits n = true ↔ e.minArgs ≤ n ∧ (e.maxArgs = -1 ∨ n ≤ e.maxArgs)
  permissions : d.permissions = e.permissions.map .str
  handler : d.handler? = handler?
  nested : d.nested.map some = e.nested.map (groups.lookup ·)

variable {groups : List (String × GroupId)} {e : Entry} {handler? : Option Handler}
  {d : Definition} {catalog : Catalog} {first second : Resolver}

theorem IsLoadable.of_agrees (loadable : e.IsLoadable first) (agrees : first.Agrees second) :
    e.IsLoadable second :=
  ⟨loadable.sound, fun reference given => agrees reference ▸ loadable.resolves reference given⟩

theorem handlerIn_of_agrees (agrees : first.Agrees second) :
    e.handlerIn first = e.handlerIn second := by
  unfold handlerIn
  cases e.reference? with
  | none => rfl
  | some reference =>
    rw [Option.bind_some, Option.bind_some, agrees reference]

theorem IsValid.isSome_reference?_iff (valid : e.IsValid) :
    e.reference?.isSome ↔ e.nested = [] := by
  rw [← valid.body, Option.isSome_iff_exists]
  exact exists_congr fun _ => reference?_eq_some_iff

section
variable (valid : e.IsValid) (found : ∀ name ∈ e.nested, ∃ id, groups.lookup name = some id)
  (either : handler?.isSome ↔ e.nested = [])

def providers (groups : List (String × GroupId)) (e : Entry) : List GroupId :=
  e.nested.filterMap (groups.lookup ·)

def terms (groups : List (String × GroupId)) (handler? : Option Handler) (e : Entry) : Terms where
  names := e.aliases
  desc := e.desc
  usage := e.usage
  flags := e.flags
  minArgs := e.minArgs
  maxArgs := e.maxArgs
  permissions := e.permissions
  handler? := handler?
  groups := e.providers groups

theorem states_draft (groups : List (String × GroupId)) (handler? : Option Handler) (e : Entry) :
    (e.draft groups handler?).States (e.terms groups handler?) where
  names := rfl
  desc := rfl
  usage := rfl
  flags := rfl
  minArgs := rfl
  maxArgs := rfl
  permissions := rfl
  handler := rfl
  nested := List.map_filterMap.symm

include found in
theorem map_some_providers :
    (e.providers groups).map some = e.nested.map (groups.lookup ·) := by
  unfold providers
  revert found
  induction e.nested with
  | nil => exact fun _ => rfl
  | cons name rest ih =>
    intro found
    obtain ⟨⟨id, here⟩, found⟩ := List.forall_mem_cons.mp found
    simp only [List.filterMap_cons, here, List.map_cons, ih found]

include found in
theorem providers_eq_nil_iff : e.providers groups = [] ↔ e.nested = [] := by
  rw [← List.map_eq_nil_iff (f := some), map_some_providers found, List.map_eq_nil_iff]

include found in
theorem isBuilt_of_terms (built : (e.terms groups handler?).IsBuilt d) :
    e.IsBuilt groups handler? d where
  aliases := built.aliases
  desc := built.desc
  usage := built.usage
  flags := built.flags
  alphabet := built.alphabet
  minArgs := built.minArgs
  maxArgs := built.maxArgs
  admits := built.admits
  permissions := built.permissions
  handler := built.handler
  nested := by
    rw [built.nested]
    exact map_some_providers found

include valid found either

theorem isSound_terms_iff : (e.terms groups handler?).IsSound ↔ e.IsSound := by
  constructor
  · intro sound
    exact ⟨sound.words, sound.ordered, sound.flags⟩
  · intro sound
    exact {
      named := List.cons_ne_nil _ _
      words := sound.names
      least := valid.least
      most := valid.most
      ordered := sound.bounds
      either := either.trans (providers_eq_nil_iff found).symm
      flags := sound.flags }

theorem declare_cases (id : GroupId) (building : Building) :
    (e.IsSound ∧ ∃ d, e.IsBuilt groups handler? d ∧ e.declare groups id handler? building =
      ({ building with catalog := (building.catalog.declare id d).2 }, none)) ∨
    ¬e.IsSound ∧ ∃ fault, e.declare groups id handler? building = (building, some fault) := by
  unfold declare
  rw [← isSound_terms_iff valid found either]
  rcases Draft.check_cases (states_draft groups handler? e) building.catalog with
    ⟨sound, d, checked, built⟩ | ⟨unsound, -, fault, refused⟩ | ⟨long, refused⟩
  · rw [checked]
    exact .inl ⟨sound, d, isBuilt_of_terms found built, rfl⟩
  · rw [refused]
    exact .inr ⟨unsound, _, rfl⟩
  · rw [refused]
    exact .inr ⟨long.not_isSound, _, rfl⟩

end

/-- The reference of an entry is resolved before the entry is declared, and fails the building if it
leads to no handler. -/
theorem build_eq_declare (groups : List (String × GroupId)) (id : GroupId) (e : Entry)
    (building : Building) :
    ((∀ reference, e.reference? = some reference →
        ∃ found, (building.resolver.resolve reference).outcome = .ok found) ∧
      ∃ resolver records, resolver.Agrees building.resolver ∧
        (e.handlerIn building.resolver).isSome = e.reference?.isSome ∧
        e.build groups id building =
          e.declare groups id (e.handlerIn building.resolver) ⟨building.catalog, resolver, records⟩) ∨
    (¬∀ reference, e.reference? = some reference →
        ∃ found, (building.resolver.resolve reference).outcome = .ok found) ∧
      ∃ built fault, e.build groups id building = (built, some fault) := by
  unfold build handlerIn
  cases given : e.reference? with
  | none => exact .inl ⟨nofun, _, _, fun _ => rfl, rfl, rfl⟩
  | some reference =>
    dsimp only
    cases ended : (building.resolver.resolve reference).outcome with
    | error fault =>
      refine .inr ⟨fun resolves => ?_, _, _, rfl⟩
      obtain ⟨_, resolved⟩ := resolves reference rfl
      exact nomatch ended.symm.trans resolved
    | ok found =>
      refine .inl ⟨fun other same => ?_, (building.resolver.resolve reference).resolver,
        building.records ++ (building.resolver.resolve reference).records,
        building.resolver.agrees_resolve reference, ?_⟩
      · obtain rfl := Option.some.inj same
        exact ⟨found, ended⟩
      · rw [Option.bind_some, ended]
        exact ⟨rfl, rfl⟩

theorem build_cases (valid : e.IsValid)
    (found : ∀ name ∈ e.nested, ∃ id, groups.lookup name = some id) (id : GroupId)
    (building : Building) :
    (e.IsLoadable building.resolver ∧ ∃ d resolver records,
      e.IsBuilt groups (e.handlerIn building.resolver) d ∧ resolver.Agrees building.resolver ∧
      e.build groups id building =
        (⟨(building.catalog.declare id d).2, resolver, records⟩, none)) ∨
    ¬e.IsLoadable building.resolver ∧ ∃ built fault,
      e.build groups id building = (built, some fault) := by
  rcases build_eq_declare groups id e building with
    ⟨resolves, resolver, records, agrees, handled, same⟩ | ⟨unresolved, failed⟩
  · have either : (e.handlerIn building.resolver).isSome ↔ e.nested = [] := by
      rw [handled]
      exact valid.isSome_reference?_iff
    rw [same]
    rcases declare_cases valid found either id ⟨building.catalog, resolver, records⟩ with
      ⟨sound, d, built, done⟩ | ⟨unsound, fault, failed⟩
    · exact .inl ⟨⟨sound, resolves⟩, d, resolver, records, built, agrees, done⟩
    · exact .inr ⟨fun loadable => unsound loadable.sound, _, fault, failed⟩
  · exact .inr ⟨fun loadable => unresolved loadable.resolves, failed⟩

end Table.Entry
end CommandTree
