import CommandTree.Permission

namespace CommandTree.PermissionSet

/-- The ancestors of a path are the rows of its parts, all but the whole, joined again by dots. -/
theorem ancestors_eq_joined (before cs : List Char) :
    ancestors before cs = (List.range ((cs.splitOn '.').length - 1)).map fun i =>
      before ++ ['.'].intercalate ((cs.splitOn '.').take (i + 1)) := by
  induction cs generalizing before with
  | nil => rfl
  | cons c rest ih =>
    rw [ancestors, List.splitOn_cons_eq_if_modifyHead, ih]
    obtain ⟨part, parts, split⟩ := List.exists_cons_of_ne_nil (List.splitOn_ne_nil '.' rest)
    rw [split]
    by_cases dot : c = '.'
    · subst dot
      simp [List.range_succ_eq_map]
    · have joined : ∀ i, ['.'].intercalate ((c :: part) :: parts.take i) =
          c :: ['.'].intercalate (part :: parts.take i) := by
        intro i
        cases parts.take i <;> simp [List.intercalate_cons_cons]
      simp [dot, joined]

theorem mem_ancestors_iff {before cs path : List Char} :
    path ∈ ancestors before cs ↔ ∃ part rest, cs = part ++ '.' :: rest ∧ path = before ++ part := by
  induction cs generalizing before with
  | nil => simp [ancestors]
  | cons c rest ih =>
    have front : (∃ part tail, c :: rest = part ++ '.' :: tail ∧ path = before ++ part) ↔
        c = '.' ∧ path = before ∨ path ∈ ancestors (before ++ [c]) rest := by
      rw [ih]
      constructor
      · rintro ⟨part, tail, same, rfl⟩
        cases part with
        | nil =>
          obtain ⟨rfl, -⟩ := List.cons.inj same
          exact .inl ⟨rfl, List.append_nil _⟩
        | cons d part =>
          obtain ⟨rfl, below⟩ := List.cons.inj same
          exact .inr ⟨part, tail, below, by simp⟩
      · rintro (⟨rfl, rfl⟩ | ⟨part, tail, rfl, rfl⟩)
        · exact ⟨[], rest, rfl, (List.append_nil _).symm⟩
        · exact ⟨c :: part, tail, rfl, by simp⟩
    rw [front, ancestors]
    by_cases dot : c = '.' <;> simp [dot]

theorem mem_ancestors_toList {permission : String} {path : List Char} :
    path ∈ ancestors [] permission.toList ↔ path ++ ['.'] <+: permission.toList := by
  rw [mem_ancestors_iff]
  constructor
  · rintro ⟨part, rest, same, rfl⟩
    exact ⟨rest, by simp [same]⟩
  · rintro ⟨rest, same⟩
    exact ⟨path, rest, by simp [← same], rfl⟩

theorem everythingUnder_toList (path : String) : everythingUnder path.toList = path ++ ".*" := by
  apply String.toList_inj.mp
  simp [everythingUnder]

theorem any_ancestors_iff (held : PermissionSet) (permission : String) :
    ((ancestors [] permission.toList).any fun path => held.nodes.contains (everythingUnder path)) =
        true ↔
      ∃ path : String, path ++ ".*" ∈ held.nodes ∧ (path ++ ".").toList <+: permission.toList := by
  simp only [List.any_eq_true, List.contains_iff_mem, mem_ancestors_toList]
  constructor
  · rintro ⟨path, above, member⟩
    refine ⟨String.ofList path, ?_, by simpa using above⟩
    rwa [← everythingUnder_toList, String.toList_ofList]
  · rintro ⟨path, member, above⟩
    refine ⟨path.toList, by simpa using above, ?_⟩
    rwa [everythingUnder_toList]

theorem star_ne (path : String) : "*" ≠ path ++ ".*" := by
  intro same
  have letters := congrArg String.toList same
  rw [String.toList_append] at letters
  have sizes := congrArg List.length letters
  simp at sizes

/-- A permission is granted if it is held, if everything is, or if it starts with the path of a held
`.*` node and a dot. One such node alone grants exactly what starts so. -/
theorem grants_iff (held : PermissionSet) (permission : String) :
    (held.grants permission = true ↔
      permission ∈ held.nodes ∨ "*" ∈ held.nodes ∨
        ∃ path : String, path ++ ".*" ∈ held.nodes ∧
          (path ++ ".").toList <+: permission.toList) ∧
    ∀ path : String, (⟨[path ++ ".*"]⟩ : PermissionSet).grants permission = true ↔
      (path ++ ".").toList <+: permission.toList := by
  have granted : ∀ held : PermissionSet, held.grants permission = true ↔
      permission ∈ held.nodes ∨ "*" ∈ held.nodes ∨
        ∃ path : String, path ++ ".*" ∈ held.nodes ∧
          (path ++ ".").toList <+: permission.toList := by
    intro held
    rw [grants, Bool.or_eq_true, Bool.or_eq_true, any_ancestors_iff, List.contains_iff_mem,
      List.contains_iff_mem, or_assoc]
  refine ⟨granted held, fun path => ?_⟩
  rw [granted]
  simp only [List.mem_singleton, star_ne, false_or]
  constructor
  · rintro (rfl | ⟨other, same, above⟩)
    · -- The node itself starts with its path and a dot.
      exact ⟨['*'], by simp⟩
    · obtain rfl := (String.append_left_inj _).mp same
      exact above
  · exact fun above => .inr ⟨path, rfl, above⟩

end CommandTree.PermissionSet
