import CommandTree.Distinct
import CommandTree.Ordered
import Mathlib.Data.List.Basic

namespace CommandTree.Ordered
variable {α β : Type} [DecidableEq α]

theorem mem_of_find? {k : α} {v : β} {entries : List (α × β)} (found : find? k entries = some v) :
    (k, v) ∈ entries := by
  induction entries with
  | nil => simp [find?] at found
  | cons entry rest ih =>
    obtain ⟨l, w⟩ := entry
    by_cases same : l = k
    · simp only [find?, same, ↓reduceIte, Option.some.injEq] at found
      rw [same, found]
      exact List.mem_cons_self
    · simp only [find?, same, ↓reduceIte] at found
      exact List.mem_cons_of_mem _ (ih found)

theorem find?_of_mem {k : α} {v : β} {entries : List (α × β)} (once : (entries.map (·.1)).Nodup)
    (member : (k, v) ∈ entries) : find? k entries = some v := by
  induction entries with
  | nil => exact absurd member List.not_mem_nil
  | cons entry rest ih =>
    obtain ⟨l, w⟩ := entry
    obtain ⟨fresh, once⟩ := List.nodup_cons.mp once
    rcases List.mem_cons.mp member with same | member
    · obtain ⟨rfl, rfl⟩ := Prod.mk.inj same
      simp [find?]
    · have different : l ≠ k := by
        intro same
        exact fresh (List.mem_map.mpr ⟨(k, v), member, same.symm⟩)
      simpa [find?, different] using ih once member

theorem get?_eq_some_iff {m : Ordered α β} (once : m.keys.Nodup) {k : α} {v : β} :
    m.get? k = some v ↔ (k, v) ∈ m.entries :=
  ⟨mem_of_find?, find?_of_mem once⟩

theorem mem_values_iff {m : Ordered α β} (once : m.keys.Nodup) {v : β} :
    v ∈ m.values ↔ ∃ k, m.get? k = some v := by
  simp only [values, List.mem_map, get?_eq_some_iff once]
  constructor
  · rintro ⟨⟨k, w⟩, member, rfl⟩
    exact ⟨k, member⟩
  · rintro ⟨k, member⟩
    exact ⟨(k, v), member, rfl⟩

omit [DecidableEq α] in
theorem nodup_keys_empty : (∅ : Ordered α β).keys.Nodup := List.nodup_nil

theorem nodup_keys_put {m : Ordered α β} (once : m.keys.Nodup) (k : α) (v : β) :
    (m.put k v).keys.Nodup := by
  have keys : (m.put k v).keys = addNew m.keys k := keys_put m k v
  rw [keys]
  exact nodup_addNew k once

theorem nodup_keys_putAll {m : Ordered α β} (once : m.keys.Nodup) (entries : List (α × β)) :
    (m.putAll entries).keys.Nodup := by
  induction entries generalizing m with
  | nil => exact once
  | cons entry rest ih => exact ih (nodup_keys_put once entry.1 entry.2)

theorem keys_putAll (m : Ordered α β) (entries : List (α × β)) :
    (m.putAll entries).keys = (entries.map (·.1)).foldl addNew m.keys := by
  induction entries generalizing m with
  | nil => rfl
  | cons entry rest ih =>
    have step : (m.put entry.1 entry.2).keys = addNew m.keys entry.1 := keys_put m _ _
    have all : (m.putAll (entry :: rest)).keys = ((m.put entry.1 entry.2).putAll rest).keys := rfl
    rw [all, ih, step]
    rfl

theorem keys_ensure (m : Ordered α β) (k : α) (v : β) : (m.ensure k v).keys = addNew m.keys k := by
  unfold ensure
  split <;> rename_i there
  · obtain ⟨w, found⟩ := Option.isSome_iff_exists.mp there
    have known : k ∈ m.keys := List.mem_map.mpr ⟨(k, w), mem_of_find? found, rfl⟩
    exact (if_pos known).symm
  · exact keys_put m k v

theorem find?_eq_none_iff {k : α} {entries : List (α × β)} :
    find? k entries = none ↔ k ∉ entries.map (·.1) := by
  induction entries with
  | nil => simp [find?]
  | cons entry rest ih =>
    obtain ⟨l, w⟩ := entry
    by_cases same : l = k
    · simp [find?, same]
    · simpa [find?, same, Ne.symm same] using ih

theorem mem_keys_iff {m : Ordered α β} {k : α} : k ∈ m.keys ↔ ∃ v, m.get? k = some v := by
  have absent : m.get? k = none ↔ k ∉ m.keys := find?_eq_none_iff
  rw [← Option.ne_none_iff_exists', ne_eq, absent, Classical.not_not]

theorem entries_eq {m : Ordered α β} (once : m.keys.Nodup) :
    m.entries = m.keys.filterMap fun k => (m.get? k).map (k, ·) := by
  have found : ∀ entry ∈ m.entries, some entry = (m.get? entry.1).map (entry.1, ·) := by
    intro entry member
    have here : m.get? entry.1 = some entry.2 := find?_of_mem once member
    rw [here]
    rfl
  rw [keys, List.filterMap_map]
  exact List.filterMap_some.symm.trans (List.filterMap_congr found)

theorem ext_get? {m n : Ordered α β} (once : m.keys.Nodup) (keys : m.keys = n.keys)
    (same : ∀ k, m.get? k = n.get? k) : m = n := by
  have entries : m.entries = n.entries := by
    rw [entries_eq once, entries_eq (keys ▸ once), keys]
    simp only [same]
  obtain ⟨_⟩ := m
  obtain ⟨_⟩ := n
  exact congrArg Ordered.mk entries

/-! ### Values that stay -/

theorem put_of_get? {m : Ordered α β} {k : α} {v : β} (found : m.get? k = some v) :
    m.put k v = m := by
  obtain ⟨entries⟩ := m
  suffices unchanged : replace k v entries = entries from congrArg Ordered.mk unchanged
  change find? k entries = some v at found
  induction entries with
  | nil => exact nomatch found
  | cons entry rest ih =>
    obtain ⟨l, w⟩ := entry
    by_cases same : l = k
    · rw [find?, if_pos same] at found
      rw [replace, if_pos same, same, Option.some.inj found]
    · rw [find?, if_neg same] at found
      rw [replace, if_neg same, ih found]

theorem values_put_of_absent {m : Ordered α β} {k : α} (absent : m.get? k = none) (v : β) :
    (m.put k v).values = m.values ++ [v] := by
  obtain ⟨entries⟩ := m
  suffices appended : replace k v entries = entries ++ [(k, v)] by
    rw [put, values, values, appended, List.map_append, List.map_singleton]
  change find? k entries = none at absent
  induction entries with
  | nil => rfl
  | cons entry rest ih =>
    obtain ⟨l, w⟩ := entry
    by_cases same : l = k
    · rw [find?, if_pos same] at absent
      exact absurd absent (Option.some_ne_none w)
    · rw [find?, if_neg same] at absent
      rw [replace, if_neg same, ih absent, List.cons_append]

theorem distinct_values_putAll [DecidableEq β] {m : Ordered α β} {entries : List (α × β)}
    {final : α → Option β} (kept : ∀ k v, m.get? k = some v → final k = some v)
    (entered : ∀ k v, (k, v) ∈ entries → final k = some v) :
    distinct (m.putAll entries).values = (entries.map (·.2)).foldl addNew (distinct m.values) := by
  induction entries generalizing m with
  | nil => rfl
  | cons entry rest ih =>
    obtain ⟨k, v⟩ := entry
    have here : final k = some v := entered k v List.mem_cons_self
    have step : distinct (m.put k v).values = addNew (distinct m.values) v := by
      cases before : m.get? k with
      | none => rw [values_put_of_absent before, distinct_append_singleton]
      | some w =>
        obtain rfl : w = v := Option.some.inj ((kept k w before).symm.trans here)
        have known : w ∈ distinct m.values :=
          mem_distinct.mpr (List.mem_map.mpr ⟨(k, w), mem_of_find? before, rfl⟩)
        rw [put_of_get? before, addNew, if_pos known]
    have kept' : ∀ l w, (m.put k v).get? l = some w → final l = some w := by
      intro l w found
      rw [get?_put] at found
      split at found <;> rename_i same
      · rw [same, here, found]
      · exact kept l w found
    have all : m.putAll ((k, v) :: rest) = (m.put k v).putAll rest := rfl
    rw [all, ih kept' fun l w member => entered l w (List.mem_cons_of_mem _ member), step,
      List.map_cons, List.foldl_cons]

/-! ### The last value of a key -/

theorem lastOf?_append (k : α) (first second : List (α × β)) :
    lastOf? k (first ++ second) = (lastOf? k second).or (lastOf? k first) := by
  simp only [lastOf?, List.filter_append, List.getLast?_append]
  cases (second.filter (·.1 = k)).getLast? <;> rfl

theorem lastOf?_append_singleton (k l : α) (v : β) (entries : List (α × β)) :
    lastOf? k (entries ++ [(l, v)]) = if l = k then some v else lastOf? k entries := by
  rw [lastOf?_append]
  by_cases same : l = k <;> simp [lastOf?, same]

theorem lastOf?_cons (k l : α) (v : β) (entries : List (α × β)) :
    lastOf? k ((l, v) :: entries) = (lastOf? k entries).or (if l = k then some v else none) := by
  by_cases same : l = k
  · simp only [lastOf?, List.filter_cons, same, decide_true, ↓reduceIte, List.getLast?_cons]
    cases (entries.filter (·.1 = k)).getLast? <;> rfl
  · simp [lastOf?, same]

theorem mem_of_lastOf? {k : α} {v : β} {entries : List (α × β)}
    (last : lastOf? k entries = some v) : (k, v) ∈ entries := by
  obtain ⟨⟨l, w⟩, found, rfl⟩ := Option.map_eq_some_iff.mp last
  obtain ⟨member, same⟩ := List.mem_filter.mp (List.mem_of_getLast? found)
  obtain rfl : l = k := of_decide_eq_true same
  exact member

theorem lastOf?_eq_none_iff {k : α} {entries : List (α × β)} :
    lastOf? k entries = none ↔ ∀ v, (k, v) ∉ entries := by
  simp only [lastOf?, Option.map_eq_none_iff, List.getLast?_eq_none_iff, List.filter_eq_nil_iff,
    decide_eq_true_eq]
  constructor
  · exact fun absent v member => absent (k, v) member rfl
  · rintro absent ⟨l, v⟩ member rfl
    exact absent v member

theorem get?_putAll (m : Ordered α β) (entries : List (α × β)) (k : α) :
    (m.putAll entries).get? k = (lastOf? k entries).or (m.get? k) := by
  induction entries generalizing m with
  | nil => rfl
  | cons entry rest ih =>
    obtain ⟨l, v⟩ := entry
    have step : m.putAll ((l, v) :: rest) = (m.put l v).putAll rest := rfl
    rw [step, ih, get?_put, lastOf?_cons, Option.or_assoc]
    by_cases same : l = k
    · simp [same]
    · simp [same, Ne.symm same]

/-- Entries that are put into a map once more change nothing, even where they take keys from each
other. -/
theorem putAll_putAll {m : Ordered α β} (once : m.keys.Nodup) (entries : List (α × β)) :
    (m.putAll entries).putAll entries = m.putAll entries := by
  have known : ∀ k ∈ entries.map (·.1), k ∈ (m.putAll entries).keys := by
    intro k member
    rw [keys_putAll, mem_foldl_addNew]
    exact .inr member
  refine ext_get? (nodup_keys_putAll (nodup_keys_putAll once entries) entries) ?_ fun k => ?_
  · rw [keys_putAll, foldl_addNew_of_known known]
  · rw [get?_putAll, get?_putAll]
    cases lastOf? k entries <;> rfl

end CommandTree.Ordered
