/-!
Maps that keep the order in which their keys first came. Setting a key again keeps its place.
-/

namespace CommandTree

structure Ordered (α β : Type) where
  entries : List (α × β) := []
  deriving Repr

namespace Ordered
variable {α β : Type} [DecidableEq α]

instance : EmptyCollection (Ordered α β) := ⟨{}⟩

def keys (m : Ordered α β) : List α := m.entries.map (·.1)

def values (m : Ordered α β) : List β := m.entries.map (·.2)

def find? (k : α) : List (α × β) → Option β
  | [] => none
  | (l, v) :: rest => if l = k then some v else find? k rest

def get? (m : Ordered α β) (k : α) : Option β := find? k m.entries

def replace (k : α) (v : β) : List (α × β) → List (α × β)
  | [] => [(k, v)]
  | (l, w) :: rest => if l = k then (k, v) :: rest else (l, w) :: replace k v rest

def put (m : Ordered α β) (k : α) (v : β) : Ordered α β := ⟨replace k v m.entries⟩

def putAll (m : Ordered α β) (entries : List (α × β)) : Ordered α β :=
  entries.foldl (fun m (k, v) => m.put k v) m

def lastOf? (k : α) (entries : List (α × β)) : Option β :=
  (entries.filter (·.1 = k)).getLast?.map (·.2)

def ensure (m : Ordered α β) (k : α) (v : β) : Ordered α β :=
  if (m.get? k).isSome then m else m.put k v

theorem get?_empty (k : α) : (∅ : Ordered α β).get? k = none := rfl

theorem get?_put (m : Ordered α β) (k l : α) (v : β) :
    (m.put k v).get? l = if l = k then some v else m.get? l := by
  obtain ⟨entries⟩ := m
  simp only [put, get?]
  induction entries with
  | nil => simp [replace, find?, eq_comm]
  | cons entry rest ih =>
    obtain ⟨x, w⟩ := entry
    by_cases same : x = k
    · subst same
      by_cases h : x = l
      · simp [replace, find?, h]
      · simp [replace, find?, h, Ne.symm h]
    · by_cases h : x = l
      · subst h
        simp [replace, find?, same]
      · simp [replace, find?, same, h, ih]

theorem keys_put (m : Ordered α β) (k : α) (v : β) :
    (m.put k v).keys = if k ∈ m.keys then m.keys else m.keys ++ [k] := by
  obtain ⟨entries⟩ := m
  simp only [put, keys]
  induction entries with
  | nil => simp [replace]
  | cons entry rest ih =>
    obtain ⟨x, w⟩ := entry
    by_cases same : x = k
    · simp [replace, same]
    · by_cases there : k ∈ rest.map (·.1) <;> simp [replace, same, Ne.symm same, ih, there]

end Ordered
end CommandTree
