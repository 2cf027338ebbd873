import CommandTree.Catalog

/-!
Registering a group walks the graph of groups and nested commands depth first, in the order of
declaration. A group is walked once under each parent, so the walk ends on cycles too.
-/

namespace CommandTree

/-- Commands stand under the root or under a nested command. -/
abbrev Parent := Option DefId

structure Visit where
  parent : Parent
  group : GroupId
  deriving DecidableEq, Repr

structure Placement where
  parent : Parent
  definition : DefId
  deriving DecidableEq, Repr

inductive Step where
  | visit (visit : Visit)
  | place (placement : Placement)
  deriving DecidableEq, Repr

namespace Catalog
variable (catalog : Catalog)

def visitsBelow (d : DefId) : List Visit :=
  (catalog.definition d).nested.map fun g => ⟨some d, g⟩

def placementsOf (v : Visit) : List Placement :=
  (catalog.members v.group).map fun d => ⟨v.parent, d⟩

def allVisits : List Visit :=
  (List.range catalog.definitions.size).flatMap fun i => catalog.visitsBelow ⟨i⟩

/-- The work that a step brings before its visits are walked. -/
def weight : Step → Nat
  | .visit _ => 1
  | .place p => 1 + (catalog.visitsBelow p.definition).length

def totalWeight : List Step → Nat
  | [] => 0
  | step :: agenda => catalog.weight step + totalWeight agenda

theorem totalWeight_visits (visits : List Visit) (agenda : List Step) :
    catalog.totalWeight (visits.map .visit ++ agenda) =
      visits.length + catalog.totalWeight agenda := by
  induction visits with
  | nil => simp
  | cons v visits ih =>
    rw [List.map_cons, List.cons_append, totalWeight, ih, weight, List.length_cons]
    omega

theorem totalWeight_append (first second : List Step) :
    catalog.totalWeight (first ++ second) =
      catalog.totalWeight first + catalog.totalWeight second := by
  induction first with
  | nil => simp [totalWeight]
  | cons step first ih =>
    rw [List.cons_append, totalWeight, ih, totalWeight]
    omega

/-- The work that visits bring if each of them is walked. -/
def visitsWeight : List Visit → Nat
  | [] => 0
  | v :: fresh => 1 + catalog.totalWeight ((catalog.placementsOf v).map .place) + visitsWeight fresh

def without (fresh : List Visit) (v : Visit) : List Visit := fresh.filter (· ≠ v)

theorem visitsWeight_without_le (fresh : List Visit) (v : Visit) :
    catalog.visitsWeight (without fresh v) ≤ catalog.visitsWeight fresh := by
  induction fresh with
  | nil => exact Nat.le_refl 0
  | cons w fresh ih =>
    unfold without at ih ⊢
    rw [List.filter_cons]
    split <;> simp only [visitsWeight] <;> omega

/-- A visit that is walked leaves no more work than its group brings. -/
theorem visitsWeight_without_lt {fresh : List Visit} {v : Visit} (there : v ∈ fresh) :
    catalog.visitsWeight (without fresh v) +
      catalog.totalWeight ((catalog.placementsOf v).map .place) < catalog.visitsWeight fresh := by
  induction fresh with
  | nil => exact absurd there List.not_mem_nil
  | cons w fresh ih =>
    by_cases same : w = v
    · subst same
      have less := catalog.visitsWeight_without_le fresh w
      have dropped : without (w :: fresh) w = without fresh w := by simp [without]
      rw [dropped, visitsWeight]
      omega
    · have kept : without (w :: fresh) v = w :: without fresh v := by simp [without, same]
      have others := ih ((List.mem_cons.mp there).resolve_left fun other => same other.symm)
      rw [kept, visitsWeight, visitsWeight]
      omega

/-- Works through an agenda. Visits outside `fresh` are passed over. -/
def walkAgenda (fresh : List Visit) : List Step → List Step
  | [] => []
  | .visit v :: agenda =>
    if v ∈ fresh then
      .visit v :: walkAgenda (without fresh v) ((catalog.placementsOf v).map .place ++ agenda)
    else walkAgenda fresh agenda
  | .place p :: agenda =>
    .place p :: walkAgenda fresh ((catalog.visitsBelow p.definition).map .visit ++ agenda)
termination_by agenda => catalog.visitsWeight fresh + catalog.totalWeight agenda
decreasing_by
  · have less := catalog.visitsWeight_without_lt (by assumption)
    rw [totalWeight_append, totalWeight]
    omega
  · simp only [totalWeight, weight]
    omega
  · rw [totalWeight_visits, totalWeight, weight]
    omega

/-- The steps of a walk that starts with one visit and passes over those already seen. -/
def walk (seen : List Visit) (start : Visit) : List Step :=
  catalog.walkAgenda ((start :: catalog.allVisits).filter (· ∉ seen)) [.visit start]

end Catalog

def Step.placement? : Step → Option Placement
  | visit _ => none
  | place p => some p

/-- What a group and the groups below it declare, under the parents that a walk meets them under. -/
def Catalog.placed (catalog : Catalog) (start : Visit) : List Placement :=
  (catalog.walk [] start).filterMap Step.placement?

end CommandTree
