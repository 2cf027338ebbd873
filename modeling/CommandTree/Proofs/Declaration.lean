import CommandTree.Declaration
import CommandTree.Proofs.Bounds

namespace CommandTree

theorem bind_ok {ε α β : Type} {x : Except ε α} {f : α → Except ε β} {b : β}
    (done : (x >>= f) = .ok b) : ∃ a, x = .ok a ∧ f a = .ok b := by
  cases x with
  | error fault => exact nomatch done
  | ok a => exact ⟨a, rfl, done⟩

theorem bind_error {ε α β : Type} {x : Except ε α} {f : α → Except ε β} {fault : ε}
    (failed : (x >>= f) = .error fault) :
    x = .error fault ∨ ∃ a, x = .ok a ∧ f a = .error fault := by
  cases x with
  | error other => exact .inl (congrArg Except.error (Except.error.inj failed))
  | ok a => exact .inr ⟨a, rfl, failed⟩

namespace Draft
variable {catalog : Catalog} {draft : Draft} {d : Definition}

theorem sorted_ok {α : Type} {x? : Option α} {a : α} (done : sorted x? = .ok a) : x? = some a := by
  cases x? with
  | none => exact nomatch done
  | some b => exact congrArg some (Except.ok.inj done)

/-- The checks that a definition passed, each with what it made of the draft. -/
structure Passed (catalog : Catalog) (draft : Draft) (d : Definition) : Prop where
  names : ∃ first others, draft.aliases.items? = some (first :: others) ∧
    checkNames first (first :: others) = .ok d.aliases
  permissions : draft.permissions.items? = some d.permissions
  bounds : checkBounds d.name draft.minArgs draft.maxArgs = .ok d.bounds
  body : ∃ groups, checkProviders catalog d.name draft.nested = .ok groups ∧
    checkBody d.name draft.handler groups = .ok d.body
  alphabet : checkFlags draft.flags = .ok d.alphabet
  desc : d.desc = draft.desc
  usage : d.usage = draft.usage
  flags : d.flags = draft.flags
  minArgs : d.minArgs = draft.minArgs
  maxArgs : d.maxArgs = draft.maxArgs

theorem check_ok (done : draft.check catalog = .ok d) : Passed catalog draft d := by
  unfold check at done
  obtain ⟨aliases, names, done⟩ := bind_ok done
  obtain ⟨permissions, allowed, done⟩ := bind_ok done
  cases aliases with
  | nil => exact nomatch done
  | cons first others =>
    obtain ⟨checked, read, done⟩ := bind_ok done
    cases checked with
    | nil => exact nomatch done
    | cons name synonyms =>
      obtain ⟨bounds, bounded, done⟩ := bind_ok done
      obtain ⟨groups, provided, done⟩ := bind_ok done
      obtain ⟨body, filled, done⟩ := bind_ok done
      obtain ⟨alphabet, lettered, done⟩ := bind_ok done
      obtain rfl := Except.ok.inj done
      exact {
        names := ⟨first, others, sorted_ok names, read⟩
        permissions := sorted_ok allowed
        bounds := bounded
        body := ⟨groups, provided, filled⟩
        alphabet := lettered
        desc := rfl, usage := rfl, flags := rfl, minArgs := rfl, maxArgs := rfl }

theorem Passed.check (passed : Passed catalog draft d) : draft.check catalog = .ok d := by
  obtain ⟨first, others, given, named⟩ := passed.names
  obtain ⟨groups, provided, filled⟩ := passed.body
  have read : checkNames first (first :: others) = .ok (d.name :: d.synonyms) := named
  simp only [Draft.check, sorted, given, passed.permissions, read, passed.bounds, provided, filled,
    passed.alphabet, bind, Except.bind, pure, Except.pure]
  rw [← passed.desc, ← passed.usage, ← passed.flags, ← passed.minArgs, ← passed.maxArgs]

theorem checkBounds_int_iff {name : String} {minimum maximum : Int} {bounds : Bounds} :
    checkBounds name (.int minimum) (.int maximum) = .ok bounds ↔
      0 ≤ minimum ∧ -1 ≤ maximum ∧ (maximum = -1 ∨ minimum ≤ maximum) ∧
        bounds = ⟨Bounds.leastOf (.ofInt minimum), Bounds.mostOf (.ofInt maximum)⟩ := by
  constructor
  · intro done
    unfold checkBounds at done
    obtain ⟨least, readLeast, done⟩ := bind_ok done
    obtain rfl : Numeral.Quantity.ofInt minimum = least := Option.some.inj (sorted_ok readLeast)
    dsimp only at done
    split at done
    · obtain ⟨_, refused, _⟩ := bind_ok done
      exact nomatch refused
    obtain ⟨most, readMost, done⟩ := bind_ok done
    obtain rfl : Numeral.Quantity.ofInt maximum = most := Option.some.inj (sorted_ok readMost)
    cases objection : Bounds.objectionTo (.ofInt minimum) (.ofInt maximum) with
    | none =>
      rw [objection] at done
      obtain ⟨first, second, third⟩ := Bounds.objectionTo_ofInt_iff.mp objection
      exact ⟨first, second, third, (Except.ok.inj done).symm⟩
    | some fault =>
      rw [objection] at done
      cases fault with
      | negativeMinimum => exact nomatch done
      | badMaximum => exact nomatch done
      | crossed =>
        obtain ⟨_, _, done⟩ := bind_ok done
        obtain ⟨_, _, done⟩ := bind_ok done
        exact nomatch done
  · rintro ⟨first, second, third, rfl⟩
    have fine := Bounds.objectionTo_ofInt_iff.mpr ⟨first, second, third⟩
    have early := Bounds.objectionTo_ofInt_iff.mpr ⟨first, Int.le_refl (-1), .inl rfl⟩
    simp only [checkBounds, Value.quantity?, sorted, fine, early, bind, Except.bind, pure,
      Except.pure, reduceCtorEq, if_false]

theorem shownBound_int (n : Int) : shownBound (.int n) =
    if Numeral.isWritable n then .ok (Value.int n).text else .error .longBound := rfl

theorem isWritable_of_le {m n : Int} (positive : 0 ≤ m) (less : m ≤ n)
    (short : Numeral.isWritable n = true) : Numeral.isWritable m = true := by
  unfold Numeral.isWritable at short ⊢
  generalize Nat.pow 10 Numeral.digitLimit = limit at short ⊢
  rw [decide_eq_true_eq] at short ⊢
  omega

theorem checkBounds_int {name : String} {minimum maximum : Int} (least : 0 ≤ minimum)
    (most : -1 ≤ maximum) :
    checkBounds name (.int minimum) (.int maximum) =
      if maximum = -1 ∨ minimum ≤ maximum then
        .ok ⟨Bounds.leastOf (.ofInt minimum), Bounds.mostOf (.ofInt maximum)⟩
      else if Numeral.isWritable minimum then
        refuse (.crossedBounds name (Value.int minimum).text (Value.int maximum).text)
      else .error .longBound := by
  split <;> rename_i ordered
  · exact checkBounds_int_iff.mpr ⟨least, most, ordered, rfl⟩
  · have positive : 0 ≤ maximum := by omega
    have crossed : maximum < minimum := by omega
    have early := Bounds.objectionTo_ofInt_iff.mpr ⟨least, Int.le_refl (-1), .inl rfl⟩
    have late := Bounds.objectionTo_crossed positive crossed
    have long : Numeral.isWritable minimum = true → Numeral.isWritable maximum = true :=
      isWritable_of_le positive (Int.le_of_lt crossed)
    simp only [checkBounds, Value.quantity?, sorted, early, late, bind, Except.bind, reduceCtorEq,
      if_false, shownBound_int]
    by_cases short : Numeral.isWritable minimum = true
    · simp only [if_pos short, if_pos (long short)]
    · simp only [if_neg short]

end Draft

namespace Catalog
variable {catalog grown : Catalog} {group : GroupId} {draft : Draft} {documentation : Value}
  {new : DefId}

theorem command_ok (done : catalog.command group draft documentation = .ok (new, grown)) :
    ∃ desc d, Draft.description draft.desc documentation = .ok desc ∧
      ({ draft with desc } : Draft).check catalog = .ok d ∧ catalog.declare group d = (new, grown) := by
  obtain ⟨desc, described, done⟩ := bind_ok done
  obtain ⟨d, checked, done⟩ := bind_ok done
  exact ⟨desc, d, described, checked, Except.ok.inj done⟩

theorem nest_ok (done : catalog.nest group draft = .ok (new, grown)) :
    ∃ d, draft.nested ≠ [] ∧ draft.check catalog = .ok d ∧
      catalog.declare group d = (new, grown) := by
  unfold nest at done
  dsimp only at done
  split at done
  · obtain ⟨_, refused, _⟩ := bind_ok done
    exact nomatch refused
  · rename_i provided
    obtain ⟨d, checked, done⟩ := bind_ok done
    exact ⟨d, by simpa using provided, checked, Except.ok.inj done⟩

theorem declareAlone_ok (done : catalog.declareAlone draft = .ok (new, grown)) :
    ∃ d, draft.check catalog = .ok d ∧ catalog.define d = (new, grown) := by
  obtain ⟨d, checked, done⟩ := bind_ok done
  exact ⟨d, checked, Except.ok.inj done⟩

end Catalog
end CommandTree
