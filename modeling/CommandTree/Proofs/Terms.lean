import CommandTree.Proofs.Alphabet
import CommandTree.Proofs.Naming

namespace CommandTree

def Definition.handler? (d : Definition) : Option Handler :=
  match d.body with
  | .leaf handler => some handler
  | .nested _ _ => none

structure Terms where
  names : List String
  desc : String := ""
  usage : String := ""
  flags : String := ""
  minArgs : Int := 0
  maxArgs : Int := -1
  permissions : List String := []
  handler? : Option Handler := none
  groups : List GroupId := []

/-- A draft in fields of the right sorts. One text may stand for the list of it, and null for the
empty list. -/
structure Draft.States (draft : Draft) (terms : Terms) : Prop where
  names : draft.aliases.items? = some (terms.names.map .str)
  desc : draft.desc = .str terms.desc
  usage : draft.usage = .str terms.usage
  flags : draft.flags = .str terms.flags
  minArgs : draft.minArgs = .int terms.minArgs
  maxArgs : draft.maxArgs = .int terms.maxArgs
  permissions : draft.permissions.items? = some (terms.permissions.map .str)
  handler : draft.handler = terms.handler?
  nested : draft.nested = terms.groups.map .group

namespace Terms

structure IsSound (terms : Terms) : Prop where
  named : terms.names ≠ []
  words : ∀ name ∈ terms.names, Text.IsWord name.toList
  least : 0 ≤ terms.minArgs
  most : -1 ≤ terms.maxArgs
  ordered : terms.maxArgs = -1 ∨ terms.minArgs ≤ terms.maxArgs
  either : terms.handler?.isSome ↔ terms.groups = []
  flags : FlagAlphabet.IsRow terms.flags.toList

/-- The names are words, and the bounds cross where the larger one is too long to be shown. -/
structure HasLongBounds (terms : Terms) : Prop where
  named : terms.names ≠ []
  words : ∀ name ∈ terms.names, Text.IsWord name.toList
  most : -1 ≤ terms.maxArgs
  crossed : terms.maxArgs ≠ -1 ∧ terms.maxArgs < terms.minArgs
  long : Numeral.isWritable terms.minArgs = false

structure IsBuilt (terms : Terms) (d : Definition) : Prop where
  aliases : d.aliases = terms.names
  desc : d.desc = .str terms.desc
  usage : d.usage = .str terms.usage
  flags : d.flags = .str terms.flags
  alphabet : FlagAlphabet.parse terms.flags = .ok d.alphabet
  minArgs : d.minArgs = .int terms.minArgs
  maxArgs : d.maxArgs = .int terms.maxArgs
  admits : ∀ n, d.admits n = true ↔
    terms.minArgs ≤ n ∧ (terms.maxArgs = -1 ∨ n ≤ terms.maxArgs)
  permissions : d.permissions = terms.permissions.map .str
  handler : d.handler? = terms.handler?
  nested : d.nested = terms.groups

theorem HasLongBounds.not_isSound {terms : Terms} (bounds : terms.HasLongBounds) :
    ¬terms.IsSound := by
  intro sound
  have ordered := sound.ordered
  have crossed := bounds.crossed
  omega

end Terms

namespace Draft
variable {catalog : Catalog} {draft : Draft} {terms : Terms} {d : Definition} {name : String}
  {groups : List GroupId} {handler? : Option Handler}

theorem checkBounds_int_cases (name : String) (minimum maximum : Int) :
    (0 ≤ minimum ∧ -1 ≤ maximum ∧ (maximum = -1 ∨ minimum ≤ maximum) ∧
      ∃ bounds, checkBounds name (.int minimum) (.int maximum) = .ok bounds) ∨
    (¬(0 ≤ minimum ∧ -1 ≤ maximum ∧ (maximum = -1 ∨ minimum ≤ maximum)) ∧
      (-1 ≤ maximum → maximum ≠ -1 ∧ maximum < minimum → Numeral.isWritable minimum = true) ∧
      ∃ fault, checkBounds name (.int minimum) (.int maximum) = .error (.registration fault)) ∨
    -1 ≤ maximum ∧ (maximum ≠ -1 ∧ maximum < minimum) ∧ Numeral.isWritable minimum = false ∧
      checkBounds name (.int minimum) (.int maximum) = .error .longBound := by
  by_cases least : 0 ≤ minimum
  · by_cases most : -1 ≤ maximum
    · rw [checkBounds_int least most]
      split <;> rename_i ordered
      · exact .inl ⟨least, most, ordered, _, rfl⟩
      · split <;> rename_i short
        · exact .inr (.inl ⟨by omega, fun _ _ => short, _, rfl⟩)
        · exact .inr (.inr ⟨most, by omega, by simpa using short, rfl⟩)
    · have early := Bounds.objectionTo_ofInt_iff.mpr ⟨least, Int.le_refl (-1), .inl rfl⟩
      have late := Bounds.objectionTo_bad least (Int.not_le.mp most)
      refine .inr (.inl ⟨by omega, by omega, .badMaximum name, ?_⟩)
      simp only [checkBounds, Value.quantity?, sorted, early, late, bind, Except.bind, reduceCtorEq,
        if_false]
      rfl
  · have early := Bounds.objectionTo_negative (Int.not_le.mp least)
    refine .inr (.inl ⟨by omega, by omega, .negativeMinimum name, ?_⟩)
    simp only [checkBounds, Value.quantity?, sorted, early, bind, Except.bind, if_true]
    rfl

theorem checkProviders_groups :
    checkProviders catalog name (groups.map .group) = .ok groups := by
  induction groups with
  | nil => rfl
  | cons id rest ih =>
    rw [List.map_cons, checkProviders, ih]
    rfl

theorem checkBody_cases (name : String) (handler? : Option Handler) (groups : List GroupId) :
    ((handler?.isSome ↔ groups = []) ∧ ∃ body, checkBody name handler? groups = .ok body ∧
      ∀ d : Definition, d.body = body → d.handler? = handler? ∧ d.nested = groups) ∨
    ¬(handler?.isSome ↔ groups = []) ∧
      ∃ fault, checkBody name handler? groups = .error (.registration fault) := by
  unfold Definition.handler? Definition.nested
  cases handler? with
  | none =>
    cases groups with
    | nil => exact .inr ⟨by simp, _, rfl⟩
    | cons first others =>
      exact .inl ⟨by simp, _, rfl, fun d same => by rw [same]; exact ⟨rfl, rfl⟩⟩
  | some handler =>
    cases groups with
    | nil => exact .inl ⟨by simp, _, rfl, fun d same => by rw [same]; exact ⟨rfl, rfl⟩⟩
    | cons first others => exact .inr ⟨by simp, _, rfl⟩

/-! ### All checks -/

section
variable (states : draft.States terms)
include states

theorem Passed.named (passed : Passed catalog draft d) :
    terms.names ≠ [] ∧ d.aliases = terms.names ∧ ∀ name ∈ terms.names, Text.IsWord name.toList := by
  obtain ⟨first, others, given, read⟩ := passed.names
  rw [states.names, Option.some.injEq] at given
  rw [← given] at read
  obtain ⟨aliases, words⟩ := checkNames_texts_iff.mp read
  refine ⟨?_, aliases, words⟩
  intro none
  simp [none] at given

theorem Passed.bounded (passed : Passed catalog draft d) :
    0 ≤ terms.minArgs ∧ -1 ≤ terms.maxArgs ∧
      (terms.maxArgs = -1 ∨ terms.minArgs ≤ terms.maxArgs) ∧
      d.bounds = ⟨Bounds.leastOf (.ofInt terms.minArgs), Bounds.mostOf (.ofInt terms.maxArgs)⟩ := by
  have read := passed.bounds
  rw [states.minArgs, states.maxArgs] at read
  exact checkBounds_int_iff.mp read

theorem Passed.filled (passed : Passed catalog draft d) :
    (terms.handler?.isSome ↔ terms.groups = []) ∧
      d.handler? = terms.handler? ∧ d.nested = terms.groups := by
  obtain ⟨ids, provided, filled⟩ := passed.body
  rw [states.nested, checkProviders_groups] at provided
  obtain rfl := Except.ok.inj provided
  rw [states.handler] at filled
  rcases checkBody_cases d.name terms.handler? terms.groups with
    ⟨either, body, made, shape⟩ | ⟨_, fault, refused⟩
  · exact ⟨either, shape d (Except.ok.inj (filled.symm.trans made))⟩
  · cases filled.symm.trans refused

theorem Passed.lettered (passed : Passed catalog draft d) :
    FlagAlphabet.parse terms.flags = .ok d.alphabet := by
  have read := passed.alphabet
  rwa [states.flags, checkFlags_str_iff] at read

theorem Passed.isSound (passed : Passed catalog draft d) : terms.IsSound := by
  obtain ⟨named, -, words⟩ := passed.named states
  obtain ⟨least, most, ordered, -⟩ := passed.bounded states
  obtain ⟨either, -⟩ := passed.filled states
  have flags := FlagAlphabet.parse_ok_iff.mp ⟨_, passed.lettered states⟩
  exact ⟨named, words, least, most, ordered, either, flags⟩

theorem Passed.isBuilt (passed : Passed catalog draft d) : terms.IsBuilt d where
  aliases := (passed.named states).2.1
  desc := passed.desc.trans states.desc
  usage := passed.usage.trans states.usage
  flags := passed.flags.trans states.flags
  alphabet := passed.lettered states
  minArgs := passed.minArgs.trans states.minArgs
  maxArgs := passed.maxArgs.trans states.maxArgs
  admits n := by
    obtain ⟨-, most, -, bounds⟩ := passed.bounded states
    rw [Definition.admits, bounds, Bounds.admits, Bool.and_eq_true,
      Bounds.isReached_leastOf_ofInt, Bounds.isKept_mostOf_ofInt most]
  permissions := Option.some.inj (passed.permissions.symm.trans states.permissions)
  handler := (passed.filled states).2.1
  nested := (passed.filled states).2.2

theorem check_of_words (catalog : Catalog) {synonyms : List String}
    (shape : terms.names = name :: synonyms)
    (words : ∀ name ∈ terms.names, Text.IsWord name.toList) :
    draft.check catalog = (do
      let bounds ← checkBounds name (.int terms.minArgs) (.int terms.maxArgs)
      let body ← checkBody name terms.handler? terms.groups
      let alphabet ← checkFlags (.str terms.flags)
      return {
        name, synonyms, desc := .str terms.desc, usage := .str terms.usage
        flags := .str terms.flags, alphabet, minArgs := .int terms.minArgs
        maxArgs := .int terms.maxArgs, bounds
        permissions := terms.permissions.map .str, body }) := by
  have read : checkNames (.str name) (terms.names.map .str) = .ok terms.names :=
    checkNames_texts_iff.mpr ⟨rfl, words⟩
  rw [shape, List.map_cons] at read
  simp only [check, sorted, states.names, states.permissions, states.minArgs, states.maxArgs,
    states.desc, states.usage, states.flags, states.handler, states.nested, shape, List.map_cons,
    read, checkProviders_groups, bind, Except.bind]

theorem check_cases (catalog : Catalog) :
    (terms.IsSound ∧ ∃ d, draft.check catalog = .ok d ∧ terms.IsBuilt d) ∨
    (¬terms.IsSound ∧ ¬terms.HasLongBounds ∧
      ∃ fault, draft.check catalog = .error (.registration fault)) ∨
    terms.HasLongBounds ∧ draft.check catalog = .error .longBound := by
  cases shape : terms.names with
  | nil =>
    refine .inr (.inl ⟨fun sound => sound.named shape, fun long => long.named shape, .noAlias, ?_⟩)
    simp only [check, sorted, states.names, states.permissions, shape, List.map_nil, bind,
      Except.bind]
    rfl
  | cons name synonyms =>
    -- Check by check, in order; behind a check that fails the demands of the later ones are open.
    have given : terms.names ≠ [] := by simp [shape]
    rcases checkNames_texts_cases (.str name) terms.names with ⟨words, -⟩ | ⟨broken, fault, refused⟩
    · have checked := check_of_words states catalog shape words
      rcases checkBounds_int_cases name terms.minArgs terms.maxArgs with
        ⟨least, most, ordered, bounds, bounded⟩ | ⟨unordered, short, fault, refused⟩ |
        ⟨most, crossed, long, refused⟩
      · have short : ¬terms.HasLongBounds := fun long => by
          have crossed := long.crossed
          omega
        rw [bounded] at checked
        rcases checkBody_cases name terms.handler? terms.groups with
          ⟨either, body, filled, -⟩ | ⟨neither, fault, refused⟩
        · rw [filled] at checked
          rcases checkFlags_str_cases terms.flags with ⟨alphabet, lettered⟩ | ⟨fault, refused⟩
          · rw [lettered] at checked
            have passed := check_ok checked
            exact .inl ⟨passed.isSound states, _, checked, passed.isBuilt states⟩
          · rw [refused] at checked
            refine .inr (.inl ⟨fun sound => ?_, short, fault, checked⟩)
            obtain ⟨alphabet, lettered⟩ := FlagAlphabet.parse_ok_iff.mpr sound.flags
            cases refused.symm.trans (checkFlags_str_iff.mpr lettered)
        · rw [refused] at checked
          exact .inr (.inl ⟨fun sound => neither sound.either, short, fault, checked⟩)
      · rw [refused] at checked
        refine .inr (.inl ⟨fun sound => unordered ⟨sound.least, sound.most, sound.ordered⟩,
          fun long => ?_, fault, checked⟩)
        cases long.long.symm.trans (short long.most long.crossed)
      · rw [refused] at checked
        exact .inr (.inr ⟨⟨given, words, most, crossed, long⟩, checked⟩)
    · rw [shape, List.map_cons] at refused
      refine .inr (.inl ⟨fun sound => broken sound.words, fun long => broken long.words, fault, ?_⟩)
      simp only [check, sorted, states.names, states.permissions, shape, List.map_cons, refused,
        bind, Except.bind]

end

end Draft
end CommandTree
