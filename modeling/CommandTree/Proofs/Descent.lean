import CommandTree.Proofs.Arguments
import CommandTree.Proofs.Questions

/-!
Tokens lead from the root down open nested commands to the first that goes no further. There every
row of tokens ends, and in one way only.
-/

namespace CommandTree

inductive Ending where
  | unknown (name : String)
  /-- The path leads to a nested command, and no sub-command of it is named. -/
  | short (message : String) (path : List String) (p : DefId)
  | forbidden (d : DefId)
  | tooFew (leaf : Invocation)
  | tooMany (leaf : Invocation)
  | unknownFlag (leaf : Invocation) (flag : Char)
  | call (leaf : Invocation)

namespace Dispatcher
variable {C : Type} (dispatcher : Dispatcher C) (granted : Value → Bool)

/-- A token names an open nested command under a parent. -/
structure Passes (parent : Parent) (name : String) (d : DefId) : Prop where
  found : dispatcher.registry.lookup name parent = some d
  opens : dispatcher.isOpen granted d = true
  nested : (dispatcher.catalog.definition d).isNested = true

/-- Tokens that lead from a parent to another, each to an open nested command, and the commands that
are met. -/
inductive Descent : Parent → List String → List DefId → Parent → Prop where
  | here (p : Parent) : Descent p [] [] p
  | down {p q : Parent} {name : String} {d : DefId} {tokens : List String} {met : List DefId} :
      dispatcher.Passes granted p name d → Descent (some d) tokens met q →
        Descent p (name :: tokens) (d :: met) q

/-- A token that names an open leaf under a parent, reached by `before`. -/
structure IsLeaf (parent : Parent) (before : List String) (name : String) (rest : List String)
    (leaf : Invocation) : Prop where
  found : dispatcher.registry.lookup name parent = some leaf.definition
  opens : dispatcher.isOpen granted leaf.definition = true
  body : (dispatcher.catalog.definition leaf.definition).body = .leaf leaf.handler
  path : leaf.path = before ++ [name]
  context : Context.ofTokens? (dispatcher.catalog.definition leaf.definition).alphabet.valued
    (name :: rest) = some leaf.context

/-- How the tokens end at a leaf: with what is wrong with what it is given, or with its call. -/
inductive Judges (leaf : Invocation) : Ending → Prop where
  | tooFew (few : (dispatcher.catalog.definition leaf.definition).Lacks leaf.context) :
      Judges leaf (.tooFew leaf)
  | tooMany (enough : ¬ (dispatcher.catalog.definition leaf.definition).Lacks leaf.context)
      (many : (dispatcher.catalog.definition leaf.definition).Exceeded leaf.context) :
      Judges leaf (.tooMany leaf)
  | unknownFlag {flag : Char}
      (enough : ¬ (dispatcher.catalog.definition leaf.definition).Lacks leaf.context)
      (bounded : ¬ (dispatcher.catalog.definition leaf.definition).Exceeded leaf.context)
      (missed : (dispatcher.catalog.definition leaf.definition).Misses leaf.context flag) :
      Judges leaf (.unknownFlag leaf flag)
  | call (accepts : (dispatcher.catalog.definition leaf.definition).Accepts leaf.context) :
      Judges leaf (.call leaf)

/-- The first token that names no open nested command with tokens left, and how the tokens end
there. -/
inductive Stops (parent : Parent) (before : List String) (name : String) (rest : List String) :
    List DefId → Ending → Prop where
  | unknown (root : parent = none) (missing : dispatcher.registry.lookup name parent = none) :
      Stops parent before name rest [] (.unknown name)
  | astray {p : DefId} (nested : parent = some p)
      (missing : dispatcher.registry.lookup name parent = none) :
      Stops parent before name rest [] (.short ("Unknown command: " ++ name) before p)
  | forbidden {d : DefId} (found : dispatcher.registry.lookup name parent = some d)
      (closed : dispatcher.isOpen granted d = false) :
      Stops parent before name rest [d] (.forbidden d)
  | last {d : DefId} (passes : dispatcher.Passes granted parent name d) (last : rest = []) :
      Stops parent before name rest [d] (.short "Sub-command required." (before ++ [name]) d)
  | leaf {leaf : Invocation} {ending : Ending}
      (isLeaf : dispatcher.IsLeaf granted parent before name rest leaf)
      (judged : dispatcher.Judges leaf ending) :
      Stops parent before name rest [leaf.definition] ending

/-- How the tokens end, and the definitions that are met on the way. -/
inductive EndsIn : List String → List DefId → Ending → Prop where
  | intro {before rest : List String} {name : String} {p : Parent} {above met : List DefId}
      {ending : Ending} (descent : dispatcher.Descent granted none before above p)
      (stops : dispatcher.Stops granted p before name rest met ending) :
      EndsIn (before ++ name :: rest) (above ++ met) ending

/-! ### The ending of a command -/

variable {dispatcher granted} {p q p' q' : Parent} {before before' rest rest' : List String}
  {name name' : String} {met met' above above' : List DefId} {d d' : DefId} {ending ending' : Ending}
  {leaf leaf' : Invocation}

theorem isNested_of_leaf {d : Definition} {handler : Handler} (body : d.body = .leaf handler) :
    d.isNested = false := by
  simp [Definition.isNested, Definition.nested, body]

theorem body_of_isNested {d : Definition} (nested : d.isNested = true) :
    ∃ first others, d.body = .nested first others := by
  cases body : d.body with
  | leaf handler => exact nomatch (isNested_of_leaf body).symm.trans nested
  | nested first others => exact ⟨first, others, rfl⟩

theorem Passes.unique (first : dispatcher.Passes granted p name d)
    (second : dispatcher.Passes granted p name d') : d = d' :=
  Option.some.inj (first.found.symm.trans second.found)

theorem IsLeaf.unique (first : dispatcher.IsLeaf granted p before name rest leaf)
    (second : dispatcher.IsLeaf granted p before name rest leaf') : leaf = leaf' := by
  obtain ⟨path, d, handler, context⟩ := leaf
  obtain ⟨path', d', handler', context'⟩ := leaf'
  obtain rfl : d = d' := Option.some.inj (first.found.symm.trans second.found)
  obtain rfl : path = path' := first.path.trans second.path.symm
  obtain rfl : handler = handler' := Body.leaf.inj (first.body.symm.trans second.body)
  obtain rfl : context = context' := Option.some.inj (first.context.symm.trans second.context)
  rfl

theorem IsLeaf.not_passes (isLeaf : dispatcher.IsLeaf granted p before name rest leaf) :
    ¬ dispatcher.Passes granted p name d := by
  intro passes
  obtain rfl : leaf.definition = d := Option.some.inj (isLeaf.found.symm.trans passes.found)
  have nested := passes.nested
  rw [isNested_of_leaf isLeaf.body] at nested
  exact nomatch nested

theorem closed_of_found {d d' : DefId} (found : dispatcher.registry.lookup name p = some d)
    (closed : dispatcher.isOpen granted d = false)
    (found' : dispatcher.registry.lookup name p = some d') :
    dispatcher.isOpen granted d' ≠ true := by
  rw [Option.some.inj (found'.symm.trans found), closed]
  exact Bool.false_ne_true

theorem Judges.unique (typed : dispatcher.catalog.IsTyped) (first : dispatcher.Judges leaf ending)
    (second : dispatcher.Judges leaf ending') : ending = ending' := by
  obtain ⟨_, _, _, typed⟩ := typed leaf.definition
  cases first with
  | tooFew few =>
    cases second with
    | tooFew => rfl
    | tooMany enough => exact absurd few enough
    | unknownFlag enough => exact absurd few enough
    | call accepts => exact absurd few (typed.accepts_iff.mp accepts).1
  | tooMany enough many =>
    cases second with
    | tooFew few => exact absurd few enough
    | tooMany => rfl
    | unknownFlag _ bounded => exact absurd many bounded
    | call accepts => exact absurd many (typed.accepts_iff.mp accepts).2.1
  | unknownFlag enough bounded missed =>
    cases second with
    | tooFew few => exact absurd few enough
    | tooMany _ many => exact absurd many bounded
    | unknownFlag _ _ missed' => rw [missed.unique missed']
    | call accepts => exact absurd (accepts.known _ missed.given) missed.unknown
  | call accepts =>
    cases second with
    | tooFew few => exact absurd few (typed.accepts_iff.mp accepts).1
    | tooMany _ many => exact absurd many (typed.accepts_iff.mp accepts).2.1
    | unknownFlag _ _ missed => exact absurd (accepts.known _ missed.given) missed.unknown
    | call => rfl

theorem Stops.unique (typed : dispatcher.catalog.IsTyped)
    (first : dispatcher.Stops granted p before name rest met ending)
    (second : dispatcher.Stops granted p before name rest met' ending') :
    met = met' ∧ ending = ending' := by
  cases first with
  | unknown root missing =>
    cases second with
    | unknown => exact ⟨rfl, rfl⟩
    | astray nested => exact nomatch root.symm.trans nested
    | forbidden found => exact nomatch missing.symm.trans found
    | last passes => exact nomatch missing.symm.trans passes.found
    | leaf isLeaf => exact nomatch missing.symm.trans isLeaf.found
  | astray nested missing =>
    cases second with
    | unknown root => exact nomatch root.symm.trans nested
    | astray nested' =>
      rw [Option.some.inj (nested.symm.trans nested')]
      exact ⟨rfl, rfl⟩
    | forbidden found => exact nomatch missing.symm.trans found
    | last passes => exact nomatch missing.symm.trans passes.found
    | leaf isLeaf => exact nomatch missing.symm.trans isLeaf.found
  | forbidden found closed =>
    cases second with
    | unknown _ missing => exact nomatch missing.symm.trans found
    | astray _ missing => exact nomatch missing.symm.trans found
    | forbidden found' =>
      rw [Option.some.inj (found.symm.trans found')]
      exact ⟨rfl, rfl⟩
    | last passes => exact absurd passes.opens (closed_of_found found closed passes.found)
    | leaf isLeaf => exact absurd isLeaf.opens (closed_of_found found closed isLeaf.found)
  | last passes =>
    cases second with
    | unknown _ missing => exact nomatch missing.symm.trans passes.found
    | astray _ missing => exact nomatch missing.symm.trans passes.found
    | forbidden found closed =>
      exact absurd passes.opens (closed_of_found found closed passes.found)
    | last passes' =>
      rw [passes.unique passes']
      exact ⟨rfl, rfl⟩
    | leaf isLeaf => exact absurd passes isLeaf.not_passes
  | leaf isLeaf judged =>
    cases second with
    | unknown _ missing => exact nomatch missing.symm.trans isLeaf.found
    | astray _ missing => exact nomatch missing.symm.trans isLeaf.found
    | forbidden found closed =>
      exact absurd isLeaf.opens (closed_of_found found closed isLeaf.found)
    | last passes => exact absurd passes isLeaf.not_passes
    | leaf isLeaf' judged' =>
      obtain rfl := isLeaf.unique isLeaf'
      exact ⟨rfl, judged.unique typed judged'⟩

theorem Stops.rest_eq_nil (stops : dispatcher.Stops granted p before name rest met ending)
    (passes : dispatcher.Passes granted p name d) : rest = [] := by
  cases stops with
  | unknown _ missing => exact nomatch missing.symm.trans passes.found
  | astray _ missing => exact nomatch missing.symm.trans passes.found
  | forbidden found closed => exact absurd passes.opens (closed_of_found found closed passes.found)
  | last _ last => exact last
  | leaf isLeaf => exact absurd passes isLeaf.not_passes

theorem judges_exists (typed : dispatcher.catalog.IsTyped) (leaf : Invocation) :
    ∃ ending, dispatcher.Judges leaf ending := by
  obtain ⟨_, _, _, typed⟩ := typed leaf.definition
  rcases typed.judged leaf.context with few | ⟨enough, many⟩ | ⟨enough, bounded, flag, missed⟩ | fine
  · exact ⟨_, .tooFew few⟩
  · exact ⟨_, .tooMany enough many⟩
  · exact ⟨_, .unknownFlag enough bounded missed⟩
  · exact ⟨_, .call fine⟩

theorem stops_or_passes (typed : dispatcher.catalog.IsTyped) (granted : Value → Bool) (p : Parent)
    (before : List String) (name : String) (rest : List String) :
    (∃ met ending, dispatcher.Stops granted p before name rest met ending) ∨
      rest ≠ [] ∧ ∃ d, dispatcher.Passes granted p name d := by
  cases found : dispatcher.registry.lookup name p with
  | none =>
    cases p with
    | none => exact .inl ⟨_, _, .unknown rfl found⟩
    | some p => exact .inl ⟨_, _, .astray rfl found⟩
  | some d =>
    cases opens : dispatcher.isOpen granted d with
    | false => exact .inl ⟨_, _, .forbidden found opens⟩
    | true =>
      cases body : (dispatcher.catalog.definition d).body with
      | leaf handler =>
        let leaf : Invocation := ⟨before ++ [name], d, handler,
          Context.read (dispatcher.catalog.definition d).alphabet.valued name rest⟩
        have isLeaf : dispatcher.IsLeaf granted p before name rest leaf :=
          ⟨found, opens, body, rfl, rfl⟩
        obtain ⟨ending, judged⟩ := judges_exists typed leaf
        exact .inl ⟨_, _, .leaf isLeaf judged⟩
      | nested first others =>
        have passes : dispatcher.Passes granted p name d :=
          ⟨found, opens, by simp [Definition.isNested, Definition.nested, body]⟩
        by_cases last : rest = []
        · exact .inl ⟨_, _, .last passes last⟩
        · exact .inr ⟨last, d, passes⟩

theorem descent_exists (typed : dispatcher.catalog.IsTyped) (granted : Value → Bool)
    (tokens : List String) (given : tokens ≠ []) (p : Parent) (path : List String) :
    ∃ before name rest above q met ending, tokens = before ++ name :: rest ∧
      dispatcher.Descent granted p before above q ∧
      dispatcher.Stops granted q (path ++ before) name rest met ending := by
  induction tokens generalizing p path with
  | nil => exact absurd rfl given
  | cons name rest ih =>
    rcases stops_or_passes typed granted p path name rest with ⟨met, ending, stops⟩ | ⟨left, d, passes⟩
    · refine ⟨[], name, rest, [], p, met, ending, rfl, .here p, ?_⟩
      rwa [List.append_nil]
    · obtain ⟨before, last, rest, above, q, met, ending, rfl, descent, stops⟩ :=
        ih left (some d) (path ++ [name])
      refine ⟨name :: before, last, rest, d :: above, q, met, ending, rfl, .down passes descent, ?_⟩
      rwa [List.append_assoc] at stops

theorem Descent.unique (first : dispatcher.Descent granted p before above q)
    (second : dispatcher.Descent granted p before' above' q')
    (ends : ∀ d, dispatcher.Passes granted q name d → rest = [])
    (ends' : ∀ d, dispatcher.Passes granted q' name' d → rest' = [])
    (same : before ++ name :: rest = before' ++ name' :: rest') :
    before = before' ∧ above = above' ∧ q = q' := by
  induction first generalizing before' above' with
  | here =>
    cases second with
    | here => exact ⟨rfl, rfl, rfl⟩
    | down passes =>
      rw [List.nil_append, List.cons_append, List.cons.injEq] at same
      obtain ⟨rfl, left⟩ := same
      rw [ends _ passes] at left
      exact absurd left.symm (by simp)
  | down passes descent ih =>
    cases second with
    | here =>
      rw [List.nil_append, List.cons_append, List.cons.injEq] at same
      obtain ⟨rfl, left⟩ := same
      rw [ends' _ passes] at left
      exact absurd left (by simp)
    | down passes' descent' =>
      rw [List.cons_append, List.cons_append, List.cons.injEq] at same
      obtain ⟨rfl, same⟩ := same
      obtain rfl := passes.unique passes'
      obtain ⟨rfl, rfl, rfl⟩ := ih descent' ends same
      exact ⟨rfl, rfl, rfl⟩

theorem endsIn_exists (typed : dispatcher.catalog.IsTyped) (granted : Value → Bool)
    {tokens : List String} (given : tokens ≠ []) :
    ∃ met ending, dispatcher.EndsIn granted tokens met ending := by
  obtain ⟨before, name, rest, above, q, met, ending, rfl, descent, stops⟩ :=
    descent_exists typed granted tokens given none []
  exact ⟨_, _, .intro descent stops⟩

theorem EndsIn.unique (typed : dispatcher.catalog.IsTyped) {tokens : List String}
    (first : dispatcher.EndsIn granted tokens met ending)
    (second : dispatcher.EndsIn granted tokens met' ending') : met = met' ∧ ending = ending' := by
  obtain ⟨descent, stops⟩ := first
  generalize same : _ ++ _ :: _ = tokens at second
  obtain ⟨descent', stops'⟩ := second
  obtain ⟨rfl, rfl, rfl⟩ :=
    descent.unique descent' (fun _ => stops.rest_eq_nil) (fun _ => stops'.rest_eq_nil) same
  obtain ⟨rfl, rfl⟩ := List.cons.inj (List.append_cancel_left same)
  obtain ⟨rfl, rfl⟩ := stops.unique typed stops'
  exact ⟨rfl, rfl⟩

end Dispatcher
end CommandTree
