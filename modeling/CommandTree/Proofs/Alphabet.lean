import CommandTree.Declaration

namespace CommandTree.FlagAlphabet

/-- Letters, each with a colon or without. -/
inductive IsRow : List Char → Prop
  | nil : IsRow []
  | switch {c : Char} {rest : List Char} (letter : isFlagLetter c = true) (more : IsRow rest) :
      IsRow (c :: rest)
  | valued {c : Char} {rest : List Char} (letter : isFlagLetter c = true) (more : IsRow rest) :
      IsRow (c :: ':' :: rest)

variable {c : Char} {cs rest : List Char} {known alphabet : FlagAlphabet} {letter? : Option Char}

theorem IsRow.letter (row : IsRow (c :: rest)) : isFlagLetter c = true := by
  cases row with
  | switch letter => exact letter
  | valued letter => exact letter

theorem not_isRow_colon : ¬IsRow (':' :: rest) :=
  fun row => absurd row.letter (by decide)

theorem isRow_cons_iff (letter : isFlagLetter c = true) :
    IsRow (c :: rest) ↔ IsRow rest ∨ ∃ tail, rest = ':' :: tail ∧ IsRow tail := by
  constructor
  · intro row
    cases row with
    | switch _ more => exact .inl more
    | valued _ more => exact .inr ⟨_, rfl, more⟩
  · rintro (more | ⟨tail, rfl, more⟩)
    · exact .switch letter more
    · exact .valued letter more

theorem parseFrom_ok_iff :
    (∃ alphabet, parseFrom known letter? cs = .ok alphabet) ↔
      IsRow cs ∨ letter? ≠ none ∧ ∃ rest, cs = ':' :: rest ∧ IsRow rest := by
  induction cs generalizing known letter? with
  | nil => exact ⟨fun _ => .inl .nil, fun _ => ⟨known, rfl⟩⟩
  | cons c rest ih =>
    by_cases colon : c = ':'
    · subst colon
      cases letter? with
      | none => simp [parseFrom, not_isRow_colon]
      | some letter => simp [parseFrom, ih, not_isRow_colon]
    · by_cases letter : isFlagLetter c = true
      · simp [parseFrom, colon, letter, ih, isRow_cons_iff letter]
      · have broken : ¬IsRow (c :: rest) := fun row => letter row.letter
        simp [parseFrom, colon, letter, broken]

theorem parse_ok_iff {flags : String} :
    (∃ alphabet, parse flags = .ok alphabet) ↔ IsRow flags.toList := by
  rw [parse, parseFrom_ok_iff]
  simp

/-! ### What is read -/

theorem parseFrom_cons_ok (done : parseFrom known letter? (c :: rest) = .ok alphabet) :
    (c = ':' ∧ ∃ letter, letter? = some letter ∧
      parseFrom { known with valued := addNew known.valued letter } none rest = .ok alphabet) ∨
    isFlagLetter c = true ∧
      parseFrom { known with letters := addNew known.letters c } (some c) rest = .ok alphabet := by
  unfold parseFrom at done
  split at done <;> rename_i colon
  · cases letter? with
    | none => exact nomatch done
    | some letter => exact .inl ⟨colon, letter, rfl, done⟩
  · split at done <;> rename_i letter
    · exact .inr ⟨letter, done⟩
    · exact nomatch done

theorem letters_of_parseFrom (done : parseFrom known letter? cs = .ok alphabet) :
    alphabet.letters = (cs.filter isFlagLetter).foldl addNew known.letters := by
  induction cs generalizing known letter? with
  | nil =>
    obtain rfl := Except.ok.inj done
    rfl
  | cons c rest ih =>
    rcases parseFrom_cons_ok done with ⟨rfl, letter, -, done⟩ | ⟨letter, done⟩
    · rw [ih done, List.filter_cons_of_neg (by decide)]
    · rw [ih done, List.filter_cons_of_pos letter, List.foldl_cons]

theorem mem_valued_of_parseFrom (done : parseFrom known letter? cs = .ok alphabet) :
    c ∈ alphabet.valued ↔
      c ∈ known.valued ∨ (letter? = some c ∧ [':'] <+: cs) ∨ [c, ':'] <:+: cs := by
  induction cs generalizing known letter? with
  | nil =>
    obtain rfl := Except.ok.inj done
    simp
  | cons d rest ih =>
    rw [List.infix_cons_iff]
    rcases parseFrom_cons_ok done with ⟨rfl, letter, rfl, done⟩ | ⟨letter, done⟩
    · -- No second colon follows, so the one that was read is behind its letter only.
      have alone : ¬ [c, ':'] <+: ':' :: rest := by
        rintro ⟨tail, shape⟩
        obtain ⟨-, shape⟩ := List.cons.inj shape
        rw [← shape] at done
        exact nomatch done
      simp [ih done, mem_addNew, alone, or_assoc, eq_comm]
    · have different : ':' ≠ d := by
        rintro rfl
        exact nomatch letter
      simp [ih done, different, eq_comm]

/-- What a row says: its letters in the order in which they first come, and which of them a colon
follows somewhere. -/
structure IsReadOf (alphabet : FlagAlphabet) (row : List Char) : Prop where
  letters : alphabet.letters = (row.filter isFlagLetter).eraseDups
  once : alphabet.letters.Nodup
  valued : ∀ c, c ∈ alphabet.valued ↔ [c, ':'] <:+: row
  known : ∀ c ∈ alphabet.valued, c ∈ alphabet.letters

theorem IsRow.not_colon_front (row : IsRow cs) : ¬ [':'] <+: cs := by
  rintro ⟨rest, rfl⟩
  exact not_isRow_colon row

theorem IsRow.letter_of_colon (row : IsRow cs) (colon : [c, ':'] <:+: cs) :
    isFlagLetter c = true := by
  induction row with
  | nil => simp at colon
  | switch letter more ih =>
    rcases List.infix_cons_iff.mp colon with here | later
    · obtain ⟨rfl, -⟩ := List.cons_prefix_cons.mp here
      exact letter
    · exact ih later
  | valued letter more ih =>
    rcases List.infix_cons_iff.mp colon with here | later
    · obtain ⟨rfl, -⟩ := List.cons_prefix_cons.mp here
      exact letter
    · rcases List.infix_cons_iff.mp later with doubled | later
      · exact absurd (List.cons_prefix_cons.mp doubled).2 more.not_colon_front
      · exact ih later

theorem isReadOf_parse {flags : String} (done : parse flags = .ok alphabet) :
    alphabet.IsReadOf flags.toList := by
  have letters : alphabet.letters = distinct (flags.toList.filter isFlagLetter) :=
    letters_of_parseFrom done
  have valued : ∀ c, c ∈ alphabet.valued ↔ [c, ':'] <:+: flags.toList := by
    intro c
    rw [mem_valued_of_parseFrom done]
    simp
  refine ⟨letters.trans (distinct_eq_eraseDups _), letters ▸ nodup_distinct _, valued, ?_⟩
  intro c member
  have colon := (valued c).mp member
  have row := parse_ok_iff.mp ⟨alphabet, done⟩
  rw [letters, mem_distinct, List.mem_filter]
  exact ⟨colon.subset List.mem_cons_self, row.letter_of_colon colon⟩

/-! ### What is written -/

def mark (valued : List Char) (c : Char) : List Char := if c ∈ valued then [c, ':'] else [c]

variable {letters valued : List Char}

theorem toList_written (known : FlagAlphabet) :
    known.written.toList = known.letters.flatMap (mark known.valued) :=
  String.toList_ofList

section Written
variable (plain : ∀ c ∈ letters, isFlagLetter c = true)
include plain

theorem isRow_written : IsRow (letters.flatMap (mark valued)) := by
  induction letters with
  | nil => exact .nil
  | cons d rest ih =>
    obtain ⟨letter, plain⟩ := List.forall_mem_cons.mp plain
    rw [List.flatMap_cons, mark]
    split
    · exact .valued letter (ih plain)
    · exact .switch letter (ih plain)

theorem filter_written : (letters.flatMap (mark valued)).filter isFlagLetter = letters := by
  induction letters with
  | nil => rfl
  | cons d rest ih =>
    obtain ⟨letter, plain⟩ := List.forall_mem_cons.mp plain
    have colon : isFlagLetter ':' = false := by decide
    rw [List.flatMap_cons, List.filter_append, ih plain, mark]
    split <;> simp [letter, colon]

theorem colon_infix_written_iff :
    [c, ':'] <:+: letters.flatMap (mark valued) ↔ c ∈ letters ∧ c ∈ valued := by
  induction letters with
  | nil => simp
  | cons d rest ih =>
    obtain ⟨-, others⟩ := List.forall_mem_cons.mp plain
    have after : ¬ [':'] <+: rest.flatMap (mark valued) := (isRow_written others).not_colon_front
    specialize ih others
    rw [List.flatMap_cons, mark]
    by_cases same : c = d
    · subst same
      split <;> rename_i marked <;> simp [List.infix_cons_iff, ih, after, marked]
    · split <;> simp [List.infix_cons_iff, ih, after, same]

theorem parse_written (once : letters.Nodup) (known : valued ⊆ letters) :
    ∃ alphabet, parse (written { letters, valued }) = .ok alphabet ∧ alphabet.letters = letters ∧
      ∀ c, c ∈ alphabet.valued ↔ c ∈ valued := by
  have row : (written { letters, valued }).toList = letters.flatMap (mark valued) := toList_written _
  obtain ⟨alphabet, done⟩ := parse_ok_iff.mpr (row ▸ isRow_written plain)
  have read := isReadOf_parse done
  rw [row] at read
  refine ⟨alphabet, done, ?_, fun c => ?_⟩
  · rw [read.letters, filter_written plain, ← distinct_eq_eraseDups, distinct_of_nodup once]
  · rw [read.valued, colon_infix_written_iff plain, and_iff_right_of_imp (@known c)]

end Written

end CommandTree.FlagAlphabet

namespace CommandTree.Draft
open FlagAlphabet

theorem checkFlags_str_iff {flags : String} {alphabet : FlagAlphabet} :
    checkFlags (.str flags) = .ok alphabet ↔ parse flags = .ok alphabet := by
  unfold checkFlags
  dsimp only
  split <;> rename_i read
  · rw [read, Except.ok.injEq, Except.ok.injEq]
  · exact iff_of_false nofun (by rw [read]; nofun)
  · exact iff_of_false nofun (by rw [read]; nofun)

theorem checkFlags_str_cases (flags : String) :
    (∃ alphabet, checkFlags (.str flags) = .ok alphabet) ∨
      ∃ fault, checkFlags (.str flags) = .error (.registration fault) := by
  unfold checkFlags
  dsimp only
  split
  · exact .inl ⟨_, rfl⟩
  · exact .inr ⟨_, rfl⟩
  · exact .inr ⟨_, rfl⟩

/-- Flags in a text are taken exactly when they are a row, with the letters and values that it says,
and any other text is refused. Letters that are written with and without a colon are read back. -/
theorem checkFlags_str (flags : String) :
    ((∃ alphabet, checkFlags (.str flags) = .ok alphabet) ↔ IsRow flags.toList) ∧
    (¬ IsRow flags.toList → ∃ fault, checkFlags (.str flags) = .error (.registration fault)) ∧
    (∀ alphabet, checkFlags (.str flags) = .ok alphabet → alphabet.IsReadOf flags.toList) ∧
    ∀ letters valued : List Char, letters.Nodup → (∀ c ∈ letters, isFlagLetter c = true) →
      valued ⊆ letters → ∃ alphabet, checkFlags (.str (written { letters, valued })) = .ok alphabet ∧
        alphabet.letters = letters ∧ ∀ c, c ∈ alphabet.valued ↔ c ∈ valued := by
  have taken : (∃ alphabet, checkFlags (.str flags) = .ok alphabet) ↔ IsRow flags.toList := by
    simp only [checkFlags_str_iff, parse_ok_iff]
  refine ⟨taken, fun broken => ?_, fun alphabet done => ?_, ?_⟩
  · exact (checkFlags_str_cases flags).resolve_left fun read => broken (taken.mp read)
  · exact isReadOf_parse (checkFlags_str_iff.mp done)
  · intro letters valued once plain known
    simp only [checkFlags_str_iff]
    exact parse_written plain once known

theorem checkFlags_str_row :
    (∃ fault, checkFlags (.str "f::") = .error (.registration fault)) ∧
      (∃ alphabet, checkFlags (.str "dfd:") = .ok alphabet ∧ alphabet.IsReadOf "dfd:".toList) ∧
      ∃ alphabet, checkFlags (.str (written { letters := ['d', 'f'], valued := ['d'] })) =
        .ok alphabet ∧ alphabet.letters = ['d', 'f'] ∧ ∀ c, c ∈ alphabet.valued ↔ c ∈ ['d'] := by
  obtain ⟨-, refused, -⟩ := checkFlags_str "f::"
  obtain ⟨-, -, read, back⟩ := checkFlags_str "dfd:"
  have broken : ¬ IsRow "f::".toList := by
    rw [← parse_ok_iff]
    rintro ⟨alphabet, done⟩
    exact nomatch done
  have done : checkFlags (.str "dfd:") = .ok { letters := ['d', 'f'], valued := ['d'] } := by rfl
  have plain : ∀ c ∈ ['d', 'f'], isFlagLetter c = true :=
    List.forall_mem_cons.mpr ⟨by decide, List.forall_mem_singleton.mpr (by decide)⟩
  exact ⟨refused broken, ⟨_, done, read _ done⟩, back ['d', 'f'] ['d'] (by decide) plain (by decide)⟩

end CommandTree.Draft
