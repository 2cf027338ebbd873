import CommandTree.Proofs.Ordered
import CommandTree.Table.Schema

namespace CommandTree

namespace Schema

namespace Checked
variable {α β : Type} {checked : Checked α} {a : α} {b : β}

theorem map_valid {f : α → β} (done : checked.map f = .valid b) :
    ∃ a, checked = .valid a ∧ f a = b := by
  cases checked with
  | faulty faults => exact nomatch done
  | valid a => exact ⟨a, rfl, valid.inj done⟩

theorem bind_valid {f : α → Checked β} (done : checked.bind f = .valid b) :
    ∃ a, checked = .valid a ∧ f a = .valid b := by
  cases checked with
  | faulty faults => exact nomatch done
  | valid a => exact ⟨a, rfl, done⟩

theorem apply_valid {f : Checked (α → β)} (done : f.apply checked = .valid b) :
    ∃ g a, f = .valid g ∧ checked = .valid a ∧ g a = b := by
  cases f with
  | faulty faults => cases checked <;> exact nomatch done
  | valid g =>
    cases checked with
    | faulty faults => exact nomatch done
    | valid a => exact ⟨g, a, rfl, rfl, valid.inj done⟩

theorem under_valid {step : Step} (done : checked.under step = .valid a) : checked = .valid a := by
  cases checked with
  | faulty faults => exact nomatch done
  | valid b => exact done

theorem demand_valid {ok : α → Bool} {issue : Issue} (done : checked.demand ok issue = .valid a) :
    checked = .valid a ∧ ok a = true := by
  obtain ⟨b, read, done⟩ := bind_valid done
  split at done <;> rename_i fine
  · obtain rfl := valid.inj done
    exact ⟨read, fine⟩
  · exact nomatch done

theorem all_valid {check : Nat → α → Checked β} {n : Nat} {items : List α} {values : List β}
    (done : all check n items = .valid values) :
    ∀ b ∈ values, ∃ k, ∃ item ∈ items, check k item = .valid b := by
  induction items generalizing n values with
  | nil =>
    obtain rfl := valid.inj done
    exact fun _ member => nomatch member
  | cons item rest ih =>
    obtain ⟨_, others, first, more, rfl⟩ := apply_valid done
    obtain ⟨b, here, rfl⟩ := map_valid first
    refine List.forall_mem_cons.mpr ⟨⟨n, item, List.mem_cons_self, here⟩, fun c member => ?_⟩
    obtain ⟨k, later, there, read⟩ := ih more c member
    exact ⟨k, later, List.mem_cons_of_mem _ there, read⟩

end Checked

variable {α : Type} {read : Value → Checked α} {v : Value} {fields : List (Value × Value)}
  {name : String} {a : α}

theorem readList_valid {values : List α} (done : readList read v = .valid values) :
    ∀ a ∈ values, ∃ item, read item = .valid a := by
  cases v with
  | list items =>
    intro a member
    obtain ⟨_, item, -, checked⟩ := Checked.all_valid done a member
    exact ⟨item, Checked.under_valid checked⟩
  | _ => exact nomatch done

theorem readField_valid {absent : Checked α}
    (done : readField fields name absent read = .valid a) :
    absent = .valid a ∨ ∃ v, read v = .valid a := by
  unfold readField at done
  split at done
  · exact .inr ⟨_, Checked.under_valid done⟩
  · exact .inl done

theorem needField_valid (done : needField fields name read = .valid a) :
    ∃ v, read v = .valid a := by
  rcases readField_valid done with absent | found
  · exact nomatch absent
  · exact found

theorem readRecord_valid {read : List (Value × Value) → Checked α}
    (done : readRecord read v = .valid a) : ∃ fields, v = .map fields ∧ read fields = .valid a := by
  unfold readRecord at done
  split at done
  · split at done
    · exact nomatch done
    · exact ⟨_, rfl, done⟩
  · exact nomatch done

end Schema

/-! ### Entries and tables -/

namespace Table
open Schema

/-- An entry has a handler that is not empty or leads to groups, and its bounds are in range. -/
structure Entry.IsValid (e : Entry) : Prop where
  body : (∃ reference, e.handler = some reference ∧ reference ≠ "") ↔ e.nested = []
  least : 0 ≤ e.minArgs
  most : -1 ≤ e.maxArgs

/-- Every group that a table names is in the table, and there once. -/
structure IsClosed (table : Table) : Prop where
  root : table.root ∈ table.names
  once : table.names.Nodup
  entries : ∀ group ∈ table.groups, ∀ e ∈ group.2, e.IsValid
  nested : ∀ group ∈ table.groups, ∀ e ∈ group.2, ∀ name ∈ e.nested, name ∈ table.names

namespace Entry
variable {e : Entry}

theorem reference?_eq_some_iff {reference : String} :
    e.reference? = some reference ↔ e.handler = some reference ∧ reference ≠ "" := by
  rw [reference?, Option.filter_eq_some_iff, decide_eq_true_eq]

theorem body_of_hasOneBody (one : e.hasOneBody = true) :
    (∃ reference, e.handler = some reference ∧ reference ≠ "") ↔ e.nested = [] := by
  have either : ∀ runs bare : Bool, (runs != !bare) = true → (runs = true ↔ bare = true) := by decide
  simp only [← reference?_eq_some_iff, ← Option.isSome_iff_exists, ← List.isEmpty_iff]
  exact either _ _ one

theorem readBound_valid {least n : Int} {v : Value} (done : readBound least v = .valid n) :
    least ≤ n := of_decide_eq_true (Checked.demand_valid done).2

theorem readFields_valid {fields : List (Value × Value)} (done : readFields fields = .valid e) :
    0 ≤ e.minArgs ∧ -1 ≤ e.maxArgs := by
  unfold readFields at done
  obtain ⟨_, _, known, -, rfl⟩ := Checked.apply_valid done
  obtain ⟨_, _, nested, -, rfl⟩ := Checked.apply_valid known
  obtain ⟨_, _, handled, -, rfl⟩ := Checked.apply_valid nested
  obtain ⟨_, _, allowed, -, rfl⟩ := Checked.apply_valid handled
  obtain ⟨_, most, bounded, readMost, rfl⟩ := Checked.apply_valid allowed
  obtain ⟨_, least, flagged, readLeast, rfl⟩ := Checked.apply_valid bounded
  obtain ⟨_, _, used, -, rfl⟩ := Checked.apply_valid flagged
  obtain ⟨_, _, described, -, rfl⟩ := Checked.apply_valid used
  obtain ⟨_, _, named, -, rfl⟩ := Checked.apply_valid described
  obtain ⟨_, -, rfl⟩ := Checked.map_valid named
  change 0 ≤ least ∧ -1 ≤ most
  constructor
  · rcases readField_valid readLeast with absent | ⟨v, read⟩
    · obtain rfl := Checked.valid.inj absent
      exact Int.le_refl 0
    · exact readBound_valid read
  · rcases readField_valid readMost with absent | ⟨v, read⟩
    · obtain rfl := Checked.valid.inj absent
      exact Int.le_refl (-1)
    · exact readBound_valid read

theorem isValid_of_read {v : Value} (done : read v = .valid e) : e.IsValid := by
  obtain ⟨fields, -, done⟩ := readRecord_valid done
  obtain ⟨_, parts, done⟩ := Checked.bind_valid done
  split at done <;> rename_i one
  · obtain rfl := Checked.valid.inj done
    obtain ⟨least, most⟩ := readFields_valid parts
    exact ⟨body_of_hasOneBody one, least, most⟩
  · exact nomatch done

end Entry

variable {table : Table}

theorem readGroups_valid {v : Value} {groups : List (String × List Entry)}
    (done : readGroups v = .valid groups) :
    (groups.map (·.1)).Nodup ∧ ∀ group ∈ groups, ∀ e ∈ group.2, e.IsValid := by
  cases v with
  | map pairs =>
    obtain ⟨read, checked, rfl⟩ := Checked.map_valid done
    have put : read.foldl putGroup ∅ = Ordered.putAll ∅ read := rfl
    have once := Ordered.nodup_keys_putAll Ordered.nodup_keys_empty read
    rw [put]
    refine ⟨once, fun group member e inside => ?_⟩
    have found := (Ordered.get?_eq_some_iff once).mpr member
    rw [Ordered.get?_putAll, Ordered.get?_empty, Option.or_none] at found
    obtain ⟨_, pair, -, here⟩ := Checked.all_valid checked _ (Ordered.mem_of_lastOf? found)
    obtain ⟨_, entries, named, listed, same⟩ := Checked.apply_valid (Checked.under_valid here)
    obtain ⟨name, -, rfl⟩ := Checked.map_valid named
    obtain rfl : entries = group.2 := congrArg Prod.snd same
    obtain ⟨item, entered⟩ := readList_valid listed e inside
    exact Entry.isValid_of_read entered
  | _ => exact nomatch done

theorem dangling?_eq_none_iff : table.dangling? = none ↔
    ∀ group ∈ table.groups, ∀ e ∈ group.2, ∀ name ∈ e.nested, name ∈ table.names := by
  simp [dangling?, List.findSome?_eq_none_iff]

theorem isClosed_of_read {data : Value} (done : read data = .valid table) : table.IsClosed := by
  obtain ⟨fields, -, done⟩ := readRecord_valid done
  obtain ⟨_, parts, done⟩ := Checked.bind_valid done
  unfold close at done
  split at done <;> rename_i there
  · exact nomatch done
  split at done <;> rename_i dangling
  · obtain rfl := Checked.valid.inj done
    obtain ⟨_, _, known, -, rfl⟩ := Checked.apply_valid parts
    obtain ⟨_, groups, rooted, needed, rfl⟩ := Checked.apply_valid known
    obtain ⟨root, -, rfl⟩ := Checked.map_valid rooted
    obtain ⟨v, listed⟩ := needField_valid needed
    obtain ⟨once, entries⟩ := readGroups_valid listed
    exact ⟨by simpa using there, once, entries, dangling?_eq_none_iff.mp dangling⟩
  · exact nomatch done

end Table
end CommandTree
