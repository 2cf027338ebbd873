import CommandTree.Proofs.Staging

/-!
Staging only reads the registry, and committing cannot fail, so a registration that fails leaves the
registry as it was.
-/

namespace CommandTree.Registry

namespace Registering
variable {α β : Type} {x : Registering α} {f : α → Registering β}

theorem perform_bind (x : Registering α) (f : α → Registering β) (desk : Desk) :
    (x >>= f).perform desk =
      match x.perform desk with
      | (.ok a, next) => (f a).perform next
      | (.error fault, next) => (.error fault, next) := by
  simp only [perform, ExceptT.run_bind, StateT.run_bind, Id.run_bind]
  rcases (x.run.run desk).run with ⟨_ | _, _⟩ <;> rfl

@[simp] theorem perform_pure (a : α) (desk : Desk) :
    (pure a : Registering α).perform desk = (.ok a, desk) := rfl

@[simp] theorem perform_throw (fault : RegistrationFault) (desk : Desk) :
    (throw fault : Registering α).perform desk = (.error fault, desk) := rfl

@[simp] theorem perform_get (desk : Desk) : (get : Registering Desk).perform desk = (.ok desk, desk) :=
  rfl

@[simp] theorem perform_modify (g : Desk → Desk) (desk : Desk) :
    (modify g : Registering Unit).perform desk = (.ok (), g desk) := rfl

@[simp] theorem perform_note (records : List LogRecord) (desk : Desk) :
    (note records).perform desk = (.ok (), { desk with records := desk.records ++ records }) := rfl

def Reads (x : Registering α) : Prop := ∀ desk, (x.perform desk).2.registry = desk.registry

/-- A step that leaves the registry as it is if it fails. -/
def Atomic (x : Registering α) : Prop :=
  ∀ desk fault, (x.perform desk).1 = .error fault → (x.perform desk).2.registry = desk.registry

theorem Reads.atomic (reads : Reads x) : Atomic x := fun desk _ _ => reads desk

theorem Reads.bind (reads : Reads x) (after : ∀ a, Reads (f a)) : Reads (x >>= f) := by
  intro desk
  have before := reads desk
  rw [perform_bind]
  rcases performed : x.perform desk with ⟨_ | a, next⟩
  · rw [performed] at before
    exact before
  · rw [performed] at before
    exact (after a next).trans before

theorem Atomic.bind (reads : Reads x) (after : ∀ a, Atomic (f a)) : Atomic (x >>= f) := by
  intro desk fault failed
  have before := reads desk
  rw [perform_bind] at failed ⊢
  rcases performed : x.perform desk with ⟨_ | a, next⟩
  · rw [performed] at before
    exact before
  · rw [performed] at before failed
    exact (after a next fault failed).trans before

theorem atomic_of_completes (completes : ∀ desk, ∃ a, (x.perform desk).1 = .ok a) : Atomic x := by
  intro desk fault failed
  obtain ⟨a, done⟩ := completes desk
  rw [done] at failed
  exact nomatch failed

end Registering

open Registering

variable {catalog : Catalog}

/-! ### Staging -/

theorem perform_stageClaim (staging : Staging) (c : Claim) (desk : Desk) :
    (stageClaim catalog staging c).perform desk =
      match desk.registry.rival? staging c with
      | none => (.ok (staging.claim c), desk)
      | some rival =>
        if desk.registry.settings.strictAliases then (.error (collision catalog c rival), desk)
        else (.ok (staging.claim c),
          { desk with records := desk.records ++ [redefinition catalog c rival] }) := by
  unfold stageClaim
  rw [perform_bind, perform_get]
  dsimp only
  cases desk.registry.rival? staging c with
  | none => rfl
  | some rival =>
    by_cases strict : desk.registry.settings.strictAliases
    · simp only [strict, ↓reduceIte]
      rfl
    · simp only [strict]
      rfl

theorem reads_stageClaim (staging : Staging) (c : Claim) : Reads (stageClaim catalog staging c) := by
  intro desk
  rw [perform_stageClaim]
  split
  · rfl
  · split <;> rfl

theorem reads_stageAll (claims : List Claim) (staging : Staging) :
    Reads (claims.foldlM (stageClaim catalog) staging) := by
  induction claims generalizing staging with
  | nil => exact fun _ => rfl
  | cons c claims ih =>
    rw [List.foldlM_cons]
    exact (reads_stageClaim staging c).bind ih

/-- The claims that meet another holder, with the holder, when they are staged one after the other.
-/
def rivals (registry : Registry) (staging : Staging) : List Claim → List (Claim × DefId)
  | [] => []
  | c :: claims =>
    (registry.rival? staging c).toList.map (c, ·) ++ rivals registry (staging.claim c) claims

/-- Strict names end the staging at the first rival; otherwise every rival is noted. -/
theorem perform_stageAll (claims : List Claim) (staging : Staging) (desk : Desk) :
    (claims.foldlM (stageClaim catalog) staging).perform desk =
      match desk.registry.settings.strictAliases, desk.registry.rivals staging claims with
      | true, (c, rival) :: _ => (.error (collision catalog c rival), desk)
      | _, met => (.ok (claims.foldl Staging.claim staging),
          { desk with records := desk.records ++ met.map fun (c, r) => redefinition catalog c r }) := by
  induction claims generalizing staging desk with
  | nil => simp [rivals]
  | cons c claims ih =>
    rw [List.foldlM_cons, perform_bind, perform_stageClaim]
    unfold rivals
    cases desk.registry.rival? staging c with
    | none => simpa using ih (staging.claim c) desk
    | some rival =>
      by_cases strict : desk.registry.settings.strictAliases = true
      · simp [strict]
      · simp [strict, ih]

/-! ### Whole registrations -/

theorem atomic_registerGroup (group : GroupId) (parent : Parent) :
    Atomic (registerGroup catalog group parent) := by
  unfold registerGroup
  refine Atomic.bind (reads_stageAll _ _) fun staging => atomic_of_completes fun desk => ?_
  exact ⟨catalog.members group, rfl⟩

theorem atomic_registerProvider (provider : Provider) (parent : Parent) :
    Atomic (registerProvider catalog provider parent) := by
  unfold registerProvider
  refine Atomic.bind (fun _ => rfl) fun desk => ?_
  split
  · exact Reads.atomic fun _ => rfl
  · split
    · exact Reads.atomic fun _ => rfl
    · split
      · exact atomic_registerGroup _ _
      · exact Reads.atomic fun _ => rfl

theorem perform_registerGroup (group : GroupId) (parent : Parent) (desk : Desk) :
    (registerGroup catalog group parent).perform desk =
      match desk.registry.settings.strictAliases,
        desk.registry.rivals ∅ (catalog.claimed ⟨parent, group⟩) with
      | true, (c, rival) :: _ => (.error (collision catalog c rival), desk)
      | _, met =>
        let staging := Staging.of (catalog.claimed ⟨parent, group⟩)
        (.ok (catalog.members group),
          { registry := desk.registry.commit catalog (catalog.placed ⟨parent, group⟩) staging
            records := desk.records ++ met.map (fun (c, r) => redefinition catalog c r) ++
              (staging.records ++ [registeredRecord catalog group parent]) }) := by
  unfold registerGroup
  rw [perform_bind, perform_stageAll]
  cases desk.registry.settings.strictAliases <;>
    cases desk.registry.rivals ∅ (catalog.claimed ⟨parent, group⟩) <;> rfl

theorem attempt_group (registry : Registry) {group : GroupId} {parent : Parent}
    (unfrozen : registry.frozen = false) (valid : registry.isParent catalog parent = true) :
    registry.attempt catalog (.group group) parent =
      match registry.settings.strictAliases, registry.rivals ∅ (catalog.claimed ⟨parent, group⟩) with
      | true, (c, rival) :: _ => ⟨.error (collision catalog c rival), registry, []⟩
      | _, met =>
        let staging := Staging.of (catalog.claimed ⟨parent, group⟩)
        { outcome := .ok (catalog.members group)
          registry := registry.commit catalog (catalog.placed ⟨parent, group⟩) staging
          records := met.map (fun (c, r) => redefinition catalog c r) ++
            (staging.records ++ [registeredRecord catalog group parent]) } := by
  have same : (registerProvider catalog (.group group) parent).perform { registry } =
      (registerGroup catalog group parent).perform { registry } := by
    unfold registerProvider
    rw [perform_bind, perform_get]
    simp [unfrozen, valid]
  unfold attempt
  rw [same, perform_registerGroup]
  cases registry.settings.strictAliases <;>
    cases registry.rivals ∅ (catalog.claimed ⟨parent, group⟩) <;> rfl

theorem attempt_ok (registry : Registry) {provider : Provider} {parent : Parent} {ds : List DefId}
    (done : (registry.attempt catalog provider parent).outcome = .ok ds) :
    ∃ group, provider = .group group ∧ registry.frozen = false ∧
      registry.isParent catalog parent = true ∧ ds = catalog.members group ∧
      (registry.settings.strictAliases = true →
        registry.rivals ∅ (catalog.claimed ⟨parent, group⟩) = []) ∧
      (registry.attempt catalog provider parent).registry =
        registry.commit catalog (catalog.placed ⟨parent, group⟩)
          (Staging.of (catalog.claimed ⟨parent, group⟩)) := by
  by_cases frozen : registry.frozen = true
  · simp [attempt, registerProvider, perform_bind, frozen] at done
  have unfrozen : registry.frozen = false := by simpa using frozen
  cases provider with
  | other value => simp [attempt, registerProvider, perform_bind, unfrozen] at done
  | group group =>
    by_cases valid : registry.isParent catalog parent = true
    · refine ⟨group, rfl, unfrozen, valid, ?_⟩
      rw [attempt_group registry unfrozen valid] at done ⊢
      cases strict : registry.settings.strictAliases with
      | false =>
        rw [strict] at done
        exact ⟨(Except.ok.inj done).symm, nofun, rfl⟩
      | true =>
        rw [strict] at done
        rcases met : registry.rivals ∅ (catalog.claimed ⟨parent, group⟩) with _ | ⟨⟨c, rival⟩, rest⟩
        · rw [met] at done
          exact ⟨(Except.ok.inj done).symm, fun _ => rfl, rfl⟩
        · rw [met] at done
          exact nomatch done
    · simp [attempt, registerProvider, perform_bind, unfrozen, valid] at done

theorem register_ok (registry : Registry) {provider : Provider} {parent : Parent}
    {registration : Registration}
    (done : registry.register catalog provider parent = .ok registration) :
    (registry.attempt catalog provider parent).outcome = .ok registration.definitions ∧
      (registry.attempt catalog provider parent).registry = registration.registry := by
  unfold register at done
  rcases ended : registry.attempt catalog provider parent with ⟨_ | ds, grown, records⟩
  · rw [ended] at done
    exact nomatch done
  · rw [ended] at done
    obtain rfl := Except.ok.inj done
    exact ⟨rfl, rfl⟩

theorem register_of_outcome (registry : Registry) {provider : Provider} {parent : Parent}
    {ds : List DefId} (done : (registry.attempt catalog provider parent).outcome = .ok ds) :
    ∃ registration, registry.register catalog provider parent = .ok registration := by
  unfold register
  rcases ended : registry.attempt catalog provider parent with ⟨_ | _, grown, records⟩
  · rw [ended] at done
    exact nomatch done
  · exact ⟨_, rfl⟩

theorem node_attempt (registry : Registry) {group : GroupId} {parent : Parent} {ds : List DefId}
    (done : (registry.attempt catalog (.group group) parent).outcome = .ok ds) (place : Parent) :
    (registry.attempt catalog (.group group) parent).registry.node place =
      (registry.node place).putAll
        ((Staging.of (catalog.claimed ⟨parent, group⟩)).claimsUnder place) := by
  obtain ⟨_, same, -, -, -, -, grown⟩ := attempt_ok registry done
  obtain rfl := Provider.group.inj same
  rw [grown, node_commit _ _ _ (Staging.nodup_keys_of _)]

theorem attempt_atomic (registry : Registry) {provider : Provider} {parent : Parent}
    {fault : RegistrationFault}
    (failed : (registry.attempt catalog provider parent).outcome = .error fault) :
    (registry.attempt catalog provider parent).registry = registry :=
  atomic_registerProvider provider parent { registry } fault failed

end CommandTree.Registry
