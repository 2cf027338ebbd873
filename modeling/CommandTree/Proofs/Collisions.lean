import CommandTree.Proofs.Registering

/-!
Claims are staged one after the other, and each is held against the last holder of its name only.
Still a registration meets a rival exactly when two definitions claim one name under one parent, in
whatever order the claims come.
-/

namespace CommandTree.Registry
variable {registry : Registry} {catalog : Catalog}

def standing (registry : Registry) (staging : Staging) (parent : Parent) (key : String) :
    Option DefId :=
  (staging.holder? parent key).or ((registry.node parent).get? key)

theorem standing_claim (staging : Staging) (c : Claim) (parent : Parent) (key : String) :
    registry.standing (staging.claim c) parent key =
      if c.parent = parent ∧ c.key = key then some c.holder
      else registry.standing staging parent key := by
  unfold standing
  rw [Staging.holder?_claim]
  split <;> rfl

theorem rival?_eq_none_iff {staging : Staging} {c : Claim} :
    registry.rival? staging c = none ↔
      ∀ d, registry.standing staging c.parent c.key = some d → d = c.holder := by
  change (registry.standing staging c.parent c.key).filter (· ≠ c.holder) = none ↔ _
  simp [Option.filter_eq_none_iff]

/-- Claims that leave every name with the holder it has, or else with one new holder. -/
structure Agree (registry : Registry) (staging : Staging) (claims : List Claim) : Prop where
  before : ∀ c ∈ claims, ∀ d, registry.standing staging c.parent c.key = some d → d = c.holder
  together : ∀ c ∈ claims, ∀ e ∈ claims, c.parent = e.parent → c.key = e.key → c.holder = e.holder

theorem agree_nil {staging : Staging} : Agree registry staging [] := ⟨by simp, by simp⟩

theorem agree_cons {staging : Staging} {c : Claim} {claims : List Claim} :
    Agree registry staging (c :: claims) ↔
      (∀ d, registry.standing staging c.parent c.key = some d → d = c.holder) ∧
        Agree registry (staging.claim c) claims := by
  constructor
  · rintro ⟨before, together⟩
    refine ⟨before c List.mem_cons_self, fun e member d standing => ?_, fun e he f hf => ?_⟩
    · rw [standing_claim] at standing
      split at standing <;> rename_i same
      · obtain rfl := Option.some.inj standing
        exact together c List.mem_cons_self e (List.mem_cons_of_mem _ member) same.1 same.2
      · exact before e (List.mem_cons_of_mem _ member) d standing
    · exact together e (List.mem_cons_of_mem _ he) f (List.mem_cons_of_mem _ hf)
  · rintro ⟨first, before, together⟩
    have toFirst : ∀ e ∈ claims, c.parent = e.parent → c.key = e.key → c.holder = e.holder :=
      fun e member parent key => before e member c.holder (by simp [standing_claim, parent, key])
    refine ⟨fun e member d standing => ?_, fun e he f hf parent key => ?_⟩
    · rcases List.mem_cons.mp member with rfl | member
      · exact first d standing
      · by_cases same : c.parent = e.parent ∧ c.key = e.key
        · rw [← same.1, ← same.2] at standing
          exact (first d standing).trans (toFirst e member same.1 same.2)
        · exact before e member d (by simpa [standing_claim, same] using standing)
    · rcases List.mem_cons.mp he with rfl | later <;> rcases List.mem_cons.mp hf with rfl | last
      · rfl
      · exact toFirst f last parent key
      · exact (toFirst e later parent.symm key.symm).symm
      · exact together e later f last parent key

theorem rivals_eq_nil_iff {staging : Staging} {claims : List Claim} :
    registry.rivals staging claims = [] ↔ Agree registry staging claims := by
  induction claims generalizing staging with
  | nil => exact ⟨fun _ => agree_nil, fun _ => rfl⟩
  | cons c claims ih =>
    rw [agree_cons, ← ih, ← rival?_eq_none_iff, rivals]
    cases registry.rival? staging c <;> simp

/-! ### Contested names -/

/-- A definition has a name under a parent, or would get it from a registration. -/
def Claimed (registry : Registry) (catalog : Catalog) (start : Visit) (parent : Parent)
    (key : String) (d : DefId) : Prop :=
  (registry.node parent).get? key = some d ∨
    ∃ v, catalog.Meets [] start v ∧ v.parent = parent ∧ d ∈ catalog.members v.group ∧
      ∃ name ∈ (catalog.definition d).aliases, Text.lower name = key

/-- Two definitions have claims to one name under one parent. -/
def Contested (registry : Registry) (catalog : Catalog) (start : Visit) : Prop :=
  ∃ parent key d e, d ≠ e ∧ registry.Claimed catalog start parent key d ∧
    registry.Claimed catalog start parent key e

theorem claimed_iff {start : Visit} {parent : Parent} {key : String} {d : DefId} :
    registry.Claimed catalog start parent key d ↔
      (registry.node parent).get? key = some d ∨ ⟨parent, key, d⟩ ∈ catalog.claimed start := by
  rw [Claimed, Catalog.mem_claimed]
  simp only [eq_comm (a := parent)]

theorem agree_iff_not_contested {start : Visit} :
    Agree registry ∅ (catalog.claimed start) ↔ ¬ registry.Contested catalog start := by
  constructor
  · rintro ⟨before, together⟩ ⟨parent, key, d, e, different, hd, he⟩
    rw [claimed_iff] at hd he
    rcases hd with hd | hd <;> rcases he with he | he
    · exact different (Option.some.inj (hd.symm.trans he))
    · exact different (before _ he d hd)
    · exact different (before _ hd e he).symm
    · exact different (together _ hd _ he rfl rfl)
  · intro calm
    refine ⟨fun c member d standing => ?_, fun c hc e he parent key => ?_⟩
    · refine Decidable.byContradiction fun different =>
        calm ⟨c.parent, c.key, d, c.holder, different, ?_⟩
      exact ⟨claimed_iff.mpr (.inl standing), claimed_iff.mpr (.inr member)⟩
    · refine Decidable.byContradiction fun different =>
        calm ⟨c.parent, c.key, c.holder, e.holder, different, ?_⟩
      exact ⟨claimed_iff.mpr (.inr hc), claimed_iff.mpr (.inr (by rw [parent, key]; exact he))⟩

theorem rivals_eq_nil_iff_not_contested {start : Visit} :
    registry.rivals ∅ (catalog.claimed start) = [] ↔ ¬ registry.Contested catalog start :=
  rivals_eq_nil_iff.trans agree_iff_not_contested

theorem attempt_ok_iff {group : GroupId} {parent : Parent} (unfrozen : registry.frozen = false)
    (valid : registry.isParent catalog parent = true) :
    (∃ ds, (registry.attempt catalog (.group group) parent).outcome = .ok ds) ↔
      (registry.settings.strictAliases = true → ¬ registry.Contested catalog ⟨parent, group⟩) := by
  rw [attempt_group registry unfrozen valid, ← rivals_eq_nil_iff_not_contested]
  cases registry.settings.strictAliases with
  | false => simp
  | true => cases registry.rivals ∅ (catalog.claimed ⟨parent, group⟩) <;> simp

theorem register_ok_iff {provider : Provider} {parent : Parent} :
    (∃ registration, registry.register catalog provider parent = .ok registration) ↔
      ∃ ds, (registry.attempt catalog provider parent).outcome = .ok ds :=
  ⟨fun ⟨_, done⟩ => ⟨_, (register_ok registry done).1⟩,
    fun ⟨_, done⟩ => register_of_outcome registry done⟩

/-! ### What a registration reports -/

theorem severity_of_mem_records {claims : List Claim} {record : LogRecord}
    (member : record ∈ (Staging.of claims).records) : record.severity = .debug := by
  obtain ⟨⟨_, claims⟩, _, member⟩ := List.mem_flatMap.mp member
  obtain ⟨⟨key, _⟩, _, rfl⟩ := List.mem_map.mp member
  rfl

theorem warning_iff {group : GroupId} {parent : Parent} {claims : List Claim}
    {met : List (Claim × DefId)} :
    (∃ record ∈ met.map (fun (c, r) => redefinition catalog c r) ++
        ((Staging.of claims).records ++ [registeredRecord catalog group parent]),
      record.severity = .warning) ↔ met ≠ [] := by
  constructor
  · rintro ⟨record, member, warning⟩ rfl
    rcases List.mem_append.mp member with member | member
    · exact absurd member List.not_mem_nil
    · rcases List.mem_append.mp member with member | member
      · rw [severity_of_mem_records member] at warning
        exact nomatch warning
      · rw [List.mem_singleton.mp member] at warning
        exact nomatch warning
  · intro rivals
    obtain ⟨⟨c, r⟩, rest, rfl⟩ := List.exists_cons_of_ne_nil rivals
    exact ⟨redefinition catalog c r, by simp, rfl⟩

/-- Strict names refuse a registration exactly when a name is contested, and without them it
succeeds and warns exactly then. A registration that fails leaves the registry as it was. -/
theorem registration_exact (registry : Registry) (catalog : Catalog) :
    (∀ group parent, registry.frozen = false → registry.isParent catalog parent = true →
      (registry.settings.strictAliases = true →
        ((∃ key place holder, (registry.attempt catalog (.group group) parent).outcome =
          .error (.aliasTaken key place holder)) ↔ registry.Contested catalog ⟨parent, group⟩) ∧
        ((registry.attempt catalog (.group group) parent).outcome = .ok (catalog.members group) ↔
          ¬ registry.Contested catalog ⟨parent, group⟩)) ∧
      (registry.settings.strictAliases = false →
        (registry.attempt catalog (.group group) parent).outcome = .ok (catalog.members group) ∧
        ((∃ record ∈ (registry.attempt catalog (.group group) parent).records,
          record.severity = .warning) ↔ registry.Contested catalog ⟨parent, group⟩))) ∧
    ∀ provider parent fault,
      (registry.attempt catalog provider parent).outcome = .error fault →
        (registry.attempt catalog provider parent).registry = registry := by
  refine ⟨fun group parent unfrozen valid => ⟨fun strict => ?_, fun lenient => ?_⟩,
    fun _ _ _ failed => attempt_atomic registry failed⟩
  · have calm : registry.rivals ∅ (catalog.claimed ⟨parent, group⟩) = [] ↔
        ¬ registry.Contested catalog ⟨parent, group⟩ := rivals_eq_nil_iff_not_contested
    rw [attempt_group registry unfrozen valid, strict]
    rcases met : registry.rivals ∅ (catalog.claimed ⟨parent, group⟩) with _ | ⟨⟨c, rival⟩, rest⟩
    · simp [calm.mp met]
    · have contested : registry.Contested catalog ⟨parent, group⟩ := by
        refine Classical.byContradiction fun none => ?_
        rw [calm.mpr none] at met
        exact nomatch met
      simp [contested, collision]
  · rw [attempt_group registry unfrozen valid, lenient]
    refine ⟨rfl, ?_⟩
    rw [warning_iff, ne_eq, rivals_eq_nil_iff_not_contested, Classical.not_not]

/-- A group with a command that leads back to the group, and another command of the same name. -/
def twinsOnACycle : Catalog where
  groups := #[{ members := [⟨0⟩, ⟨1⟩] }]
  definitions := #[{ name := "go", body := .nested ⟨0⟩ [] },
    { name := "Go", body := .leaf fun _ _ => .give .null }]

theorem contested_twins (registry : Registry) : registry.Contested twinsOnACycle ⟨none, ⟨0⟩⟩ :=
  ⟨none, "go", ⟨0⟩, ⟨1⟩, by decide,
    .inr ⟨_, .start List.not_mem_nil, rfl, by decide, "go", by decide, by decide⟩,
    .inr ⟨_, .start List.not_mem_nil, rfl, by decide, "Go", by decide, by decide⟩⟩

theorem registration_exact_twins :
    (∃ key place holder, (Registry.attempt { settings := { strictAliases := true } } twinsOnACycle
      (.group ⟨0⟩) none).outcome = .error (.aliasTaken key place holder)) ∧
    (Registry.attempt { settings := { strictAliases := true } } twinsOnACycle
      (.group ⟨0⟩) none).registry = { settings := { strictAliases := true } } ∧
    ∃ record ∈ (Registry.attempt {} twinsOnACycle (.group ⟨0⟩) none).records,
      record.severity = .warning := by
  obtain ⟨exactly, unchanged⟩ := registration_exact { settings := { strictAliases := true } }
    twinsOnACycle
  obtain ⟨key, place, holder, failed⟩ := ((exactly ⟨0⟩ none rfl rfl).1 rfl).1.mpr (contested_twins _)
  refine ⟨⟨key, place, holder, failed⟩, unchanged _ _ _ failed, ?_⟩
  exact (((registration_exact {} twinsOnACycle).1 ⟨0⟩ none rfl rfl).2 rfl).2.mpr (contested_twins _)

end CommandTree.Registry
