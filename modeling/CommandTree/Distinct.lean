/-! Lists that hold each item once, in the order in which the items first came. -/

namespace CommandTree

variable {α : Type} [DecidableEq α]

def addNew (xs : List α) (x : α) : List α := if x ∈ xs then xs else xs ++ [x]

/-- Each item of a list once, where it first came. -/
def distinct (xs : List α) : List α := xs.foldl addNew []

theorem mem_addNew {xs : List α} {x y : α} : y ∈ addNew xs x ↔ y ∈ xs ∨ y = x := by
  unfold addNew
  split <;> rename_i h
  · constructor
    · exact .inl
    · rintro (there | rfl)
      · exact there
      · exact h
  · simp

theorem nodup_addNew {xs : List α} (x : α) (once : xs.Nodup) : (addNew xs x).Nodup := by
  unfold addNew
  split <;> rename_i h
  · exact once
  · refine List.nodup_append.mpr ⟨once, by simp, ?_⟩
    intro a ha b hb same
    rw [List.mem_singleton] at hb
    exact h (hb ▸ same ▸ ha)

theorem mem_foldl_addNew {xs ys : List α} {y : α} :
    y ∈ ys.foldl addNew xs ↔ y ∈ xs ∨ y ∈ ys := by
  induction ys generalizing xs with
  | nil => simp
  | cons x ys ih => rw [List.foldl_cons, ih, mem_addNew, List.mem_cons, or_assoc]

theorem nodup_foldl_addNew {xs : List α} (ys : List α) (once : xs.Nodup) :
    (ys.foldl addNew xs).Nodup := by
  induction ys generalizing xs with
  | nil => exact once
  | cons x ys ih => exact ih (nodup_addNew x once)

theorem mem_distinct {xs : List α} {x : α} : x ∈ distinct xs ↔ x ∈ xs := by
  simp [distinct, mem_foldl_addNew]

theorem nodup_distinct (xs : List α) : (distinct xs).Nodup := nodup_foldl_addNew xs List.nodup_nil

theorem prefix_foldl_addNew (xs ys : List α) : xs <+: ys.foldl addNew xs := by
  induction ys generalizing xs with
  | nil => exact List.prefix_rfl
  | cons y ys ih =>
    have step : xs <+: addNew xs y := by
      unfold addNew
      split
      · exact List.prefix_rfl
      · exact List.prefix_append _ _
    exact step.trans (ih _)

theorem foldl_addNew_of_known {xs ys : List α} (known : ∀ y ∈ ys, y ∈ xs) :
    ys.foldl addNew xs = xs := by
  induction ys with
  | nil => rfl
  | cons y ys ih =>
    have here : addNew xs y = xs := if_pos (known y List.mem_cons_self)
    rw [List.foldl_cons, here]
    exact ih fun z member => known z (List.mem_cons_of_mem _ member)

theorem distinct_append_singleton (xs : List α) (x : α) :
    distinct (xs ++ [x]) = addNew (distinct xs) x := by
  rw [distinct, List.foldl_append]
  rfl

theorem foldl_addNew_cons (x : α) (xs ys : List α) :
    ys.foldl addNew (x :: xs) = x :: (ys.filter (· ≠ x)).foldl addNew xs := by
  induction ys generalizing xs with
  | nil => rfl
  | cons y ys ih =>
    rw [List.foldl_cons]
    by_cases same : y = x
    · have known : addNew (x :: xs) y = x :: xs := if_pos (same ▸ List.mem_cons_self)
      have dropped : (y :: ys).filter (· ≠ x) = ys.filter (· ≠ x) := by simp [same]
      rw [known, ih, dropped]
    · have step : addNew (x :: xs) y = x :: addNew xs y := by
        by_cases there : y ∈ xs <;> simp [addNew, same, there]
      have kept : (y :: ys).filter (· ≠ x) = y :: ys.filter (· ≠ x) := by simp [same]
      rw [step, ih, kept, List.foldl_cons]

theorem distinct_cons (x : α) (xs : List α) :
    distinct (x :: xs) = x :: distinct (xs.filter (· ≠ x)) :=
  foldl_addNew_cons x [] xs

theorem foldl_addNew_eraseDups (xs ys : List α) :
    ys.foldl addNew xs.eraseDups = (xs ++ ys).eraseDups := by
  induction ys generalizing xs with
  | nil => rw [List.append_nil]; rfl
  | cons y ys ih =>
    have step : addNew xs.eraseDups y = (xs ++ [y]).eraseDups := by
      rw [List.eraseDups_append]
      by_cases there : y ∈ xs <;> simp [addNew, List.removeAll, List.eraseDups_cons, there]
    rw [List.foldl_cons, step, ih, List.append_assoc, List.singleton_append]

theorem distinct_eq_eraseDups (xs : List α) : distinct xs = xs.eraseDups :=
  foldl_addNew_eraseDups [] xs

theorem distinct_of_nodup {xs : List α} (once : xs.Nodup) : distinct xs = xs := by
  induction xs with
  | nil => rfl
  | cons x xs ih =>
    obtain ⟨fresh, once⟩ := List.nodup_cons.mp once
    have kept : xs.filter (· ≠ x) = xs := by
      refine List.filter_eq_self.mpr fun y member => decide_eq_true ?_
      rintro rfl
      exact fresh member
    rw [distinct_cons, kept, ih once]

theorem foldl_addNew_flatMap {f : α → List α} (same : ∀ x, ∀ y ∈ f x, y = x)
    (given : ∀ x, f x ≠ []) (xs ys : List α) :
    (ys.flatMap f).foldl addNew xs = ys.foldl addNew xs := by
  induction ys generalizing xs with
  | nil => rfl
  | cons y ys ih =>
    obtain ⟨z, row, shape⟩ := List.exists_cons_of_ne_nil (given y)
    have first : z = y := same y z (shape ▸ List.mem_cons_self)
    have rest : ∀ w ∈ row, w ∈ addNew xs y := by
      intro w member
      rw [same y w (shape ▸ List.mem_cons_of_mem _ member)]
      exact mem_addNew.mpr (.inr rfl)
    have once : (f y).foldl addNew xs = addNew xs y := by
      rw [shape, first, List.foldl_cons, foldl_addNew_of_known rest]
    rw [List.flatMap_cons, List.foldl_append, once, List.foldl_cons, ih]

theorem map_foldl_addNew {β : Type} [DecidableEq β] {key : α → β} {xs ys : List α}
    (apart : ∀ x ∈ ys.foldl addNew xs, ∀ y ∈ ys.foldl addNew xs, key x = key y → x = y) :
    (ys.foldl addNew xs).map key = (ys.map key).foldl addNew (xs.map key) := by
  induction ys generalizing xs with
  | nil => rfl
  | cons y ys ih =>
    rw [List.foldl_cons] at apart
    have kept : ∀ x ∈ xs, x ∈ ys.foldl addNew (addNew xs y) := fun x member =>
      mem_foldl_addNew.mpr (.inl (mem_addNew.mpr (.inl member)))
    have new : y ∈ ys.foldl addNew (addNew xs y) :=
      mem_foldl_addNew.mpr (.inl (mem_addNew.mpr (.inr rfl)))
    have step : (addNew xs y).map key = addNew (xs.map key) (key y) := by
      by_cases known : y ∈ xs
      · rw [addNew, if_pos known, addNew, if_pos (List.mem_map_of_mem known)]
      · have fresh : key y ∉ xs.map key := by
          intro taken
          obtain ⟨x, member, alike⟩ := List.mem_map.mp taken
          exact known (apart x (kept x member) y new alike ▸ member)
        rw [addNew, if_neg known, addNew, if_neg fresh, List.map_append, List.map_singleton]
    rw [List.foldl_cons, ih apart, step, List.map_cons, List.foldl_cons]

theorem foldl_addNew_distinct {xs ys : List α} (earlier : xs <+: ys) :
    ys.foldl addNew (distinct xs) = distinct ys := by
  obtain ⟨rest, rfl⟩ := earlier
  have known : xs.foldl addNew (distinct xs) = distinct xs :=
    foldl_addNew_of_known fun _ member => mem_distinct.mpr member
  rw [List.foldl_append, known, distinct, distinct, List.foldl_append]

end CommandTree
