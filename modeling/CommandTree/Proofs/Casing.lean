import Mathlib.Data.List.Basic
import CommandTree.Proofs.Lines
import CommandTree.Text.Case

/-!
No character of a lower case form has another lower case form, and white space is never a lower case
form of anything else, so a text in lower case is a word exactly when the text is.
-/

namespace CommandTree.Text

/-- The runs of characters that are not their own lower case form. The first becomes two characters.
-/
def movedRuns : List CaseRun := ⟨0x130, 0x130, 1, 0⟩ :: lowerRuns

/-- A character that no lower case mapping moves. -/
def IsLowered (c : Char) : Prop := ∀ run ∈ movedRuns, ¬ run.covers c.toNat = true

namespace CaseRun
variable {run other : CaseRun} {n : Nat}

theorem covers_iff : run.covers n = true ↔
    run.first ≤ n ∧ n ≤ run.last ∧ (n - run.first) % run.step = 0 := by
  simp [covers, and_assoc]

def lowest (run : CaseRun) : Nat := (run.first + run.shift).toNat

def highest (run : CaseRun) : Nat := (run.last + run.shift).toNat

/-- Whether a run goes before or behind another, or in between every second character of it. -/
def avoids (run other : CaseRun) : Bool :=
  other.last.blt run.lowest || run.highest.blt other.first ||
    (run.step == 2 || run.lowest == run.highest) && other.step == 2 &&
      (run.lowest + other.first) % 2 == 1

/-- Whether a run goes to characters that are their own lower case form. -/
def settles (run : CaseRun) : Bool :=
  Nat.blt 0 run.lowest &&
    (run.highest.blt 0xD800 || Nat.blt 0xDFFF run.lowest && run.highest.blt 0x110000) &&
    movedRuns.all run.avoids

theorem not_covers_of_avoids (positive : 0 < run.lowest) (apart : run.avoids other = true)
    (covered : run.covers n = true) : ¬ other.covers (n + run.shift).toNat = true := by
  simp only [avoids, lowest, highest, Bool.or_eq_true, Bool.and_eq_true, beq_iff_eq,
    Nat.blt_eq] at apart positive
  rw [covers_iff] at covered ⊢
  obtain ⟨low, high, every⟩ := covered
  rintro ⟨low', high', every'⟩
  rcases apart with (before | behind) | ⟨⟨steps, two⟩, odd⟩
  · omega
  · omega
  · rw [two] at every'
    rcases steps with two | single
    · rw [two] at every
      omega
    · omega

end CaseRun

theorem settles_of_lowerRuns : lowerRuns.all CaseRun.settles = true := by decide +kernel

theorem toNat_ofNat {n : Nat} (valid : n.isValidChar) : (Char.ofNat n).toNat = n := by
  rw [Char.ofNat, dif_pos valid]
  rfl

theorem isValidChar_of_run {run : CaseRun} (listed : run ∈ lowerRuns) {n : Nat}
    (covered : run.covers n = true) : (n + run.shift).toNat.isValidChar := by
  have settled := List.all_eq_true.mp settles_of_lowerRuns run listed
  simp only [CaseRun.settles, Bool.and_eq_true, Bool.or_eq_true, Nat.blt_eq] at settled
  obtain ⟨⟨positive, places⟩, -⟩ := settled
  obtain ⟨low, high, -⟩ := CaseRun.covers_iff.mp covered
  simp only [CaseRun.lowest, CaseRun.highest] at positive places
  unfold Nat.isValidChar
  omega

theorem isLowered_of_run {run : CaseRun} (listed : run ∈ lowerRuns) {c : Char}
    (covered : run.covers c.toNat = true) : IsLowered (Char.ofNat (c.toNat + run.shift).toNat) := by
  have settled := List.all_eq_true.mp settles_of_lowerRuns run listed
  simp only [CaseRun.settles, Bool.and_eq_true, Nat.blt_eq] at settled
  obtain ⟨⟨positive, -⟩, apart⟩ := settled
  intro other moved
  rw [toNat_ofNat (isValidChar_of_run listed covered)]
  exact CaseRun.not_covers_of_avoids positive (List.all_eq_true.mp apart other moved) covered

/-! ### Characters -/

theorem isUpper_iff {c : Char} : c.isUpper = true ↔ 0x41 ≤ c.toNat ∧ c.toNat ≤ 0x5A := by
  have within : c.isUpper = decide (c.val ≥ 'A'.val ∧ c.val ≤ 'Z'.val) := rfl
  rw [within, decide_eq_true_iff]
  exact Iff.rfl

theorem toNat_toLower (c : Char) :
    c.toLower.toNat = if c.isUpper then c.toNat + 32 else c.toNat := by
  unfold Char.toLower
  split <;> rename_i letter
  · have upper : c.isUpper = true := isUpper_iff.mpr letter
    have high : c.val.toNat ≤ 0x5A := (isUpper_iff.mp upper).2
    have small : c.val.toNat + 32 < 2 ^ 32 := by omega
    rw [if_pos upper]
    exact Nat.mod_eq_of_lt small
  · have small : ¬ c.isUpper = true := fun upper => letter (isUpper_iff.mp upper)
    rw [if_neg small]

theorem not_isUpper_toLower (c : Char) : ¬ c.toLower.isUpper = true := by
  rw [isUpper_iff, toNat_toLower]
  split <;> rename_i upper
  · have low := (isUpper_iff.mp upper).1
    omega
  · exact fun both => upper (isUpper_iff.mpr both)

theorem capitals_of_movedRuns :
    ∀ run ∈ movedRuns, run.first < 0x80 → run.first = 0x41 ∧ run.last = 0x5A := by
  decide +kernel

theorem isLowered_of_ascii {c : Char} (ascii : c.toNat < 0x80) (small : ¬ c.isUpper = true) :
    IsLowered c := by
  intro run moved covered
  obtain ⟨low, high, -⟩ := CaseRun.covers_iff.mp covered
  obtain ⟨first, last⟩ := capitals_of_movedRuns run moved (by omega)
  rw [first] at low
  rw [last] at high
  exact small (isUpper_iff.mpr ⟨low, high⟩)

theorem IsLowered.not_isUpper {c : Char} (lowered : IsLowered c) : ¬ c.isUpper = true := by
  intro upper
  obtain ⟨low, high⟩ := isUpper_iff.mp upper
  have capitals : (⟨0x41, 0x5A, 1, 32⟩ : CaseRun) ∈ movedRuns :=
    List.mem_cons_of_mem _ List.mem_cons_self
  exact lowered _ capitals (CaseRun.covers_iff.mpr ⟨low, high, Nat.mod_one _⟩)

theorem toLower_ascii {c : Char} (ascii : c.toNat < 0x80) : c.toLower.toNat < 0x80 := by
  rw [toNat_toLower]
  split <;> rename_i upper
  · have high := (isUpper_iff.mp upper).2
    omega
  · exact ascii

theorem isLowered_shiftCase {c : Char} (single : c.toNat ≠ 0x130) :
    IsLowered (shiftCase lowerRuns c) := by
  unfold shiftCase
  split <;> rename_i found
  · have covered := List.find?_some found
    exact isLowered_of_run (List.mem_of_find?_eq_some found) covered
  · refine List.forall_mem_cons.mpr ⟨fun covered => single ?_, List.find?_eq_none.mp found⟩
    obtain ⟨low, high, -⟩ := CaseRun.covers_iff.mp covered
    exact Nat.le_antisymm high low

theorem isLowered_lowerChar (c : Char) : ∀ x ∈ lowerChar c, IsLowered x := by
  unfold lowerChar
  split <;> rename_i ascii
  · exact List.forall_mem_singleton.mpr
      (isLowered_of_ascii (toLower_ascii ascii) (not_isUpper_toLower c))
  · split <;> rename_i dotted
    · have first : IsLowered 'i' := isLowered_of_ascii (by decide) (by decide)
      have second : IsLowered (Char.ofNat 0x307) := by
        unfold IsLowered
        decide +kernel
      exact List.forall_mem_cons.mpr ⟨first, List.forall_mem_singleton.mpr second⟩
    · exact List.forall_mem_singleton.mpr (isLowered_shiftCase dotted)

theorem lowerChar_of_isLowered {c : Char} (lowered : IsLowered c) : lowerChar c = [c] := by
  obtain ⟨single, still⟩ := List.forall_mem_cons.mp lowered
  unfold lowerChar
  split
  · have same : c.toLower = c := by
      rw [← Char.toNat_inj, toNat_toLower, if_neg lowered.not_isUpper]
    rw [same]
  · split <;> rename_i dotted
    · have low := Nat.le_of_eq dotted.symm
      have high := Nat.le_of_eq dotted
      exact absurd (CaseRun.covers_iff.mpr ⟨low, high, Nat.mod_one _⟩) single
    · rw [shiftCase, List.find?_eq_none.mpr still]

/-- A capital sigma moves, so it is in no text in lower case. -/
theorem IsLowered.ne_sigma {c : Char} (lowered : IsLowered c) : c.toNat ≠ 0x3A3 := by
  intro sigma
  have moves : ∃ run ∈ movedRuns, run.covers 0x3A3 = true := by decide +kernel
  obtain ⟨run, moved, covered⟩ := moves
  rw [← sigma] at covered
  exact lowered run moved covered

/-! ### Texts -/

theorem isLowered_lowerAfter (before cs : List Char) : ∀ x ∈ lowerAfter before cs, IsLowered x := by
  induction cs generalizing before with
  | nil => exact fun _ member => nomatch member
  | cons c rest ih =>
    unfold lowerAfter
    refine List.forall_mem_append.mpr ⟨?_, ih _⟩
    have sigmas : IsLowered (Char.ofNat 0x3C2) ∧ IsLowered (Char.ofNat 0x3C3) := by
      unfold IsLowered
      decide +kernel
    split
    · refine List.forall_mem_singleton.mpr ?_
      split
      · exact sigmas.1
      · exact sigmas.2
    · exact isLowered_lowerChar c

theorem lowerAfter_of_isLowered {cs : List Char} (lowered : ∀ c ∈ cs, IsLowered c)
    (before : List Char) : lowerAfter before cs = cs := by
  induction cs generalizing before with
  | nil => rfl
  | cons c rest ih =>
    obtain ⟨first, others⟩ := List.forall_mem_cons.mp lowered
    rw [lowerAfter, if_neg first.ne_sigma, lowerChar_of_isLowered first, ih others]
    rfl

theorem lower_lower (s : String) : lower (lower s) = lower s := by
  have lowered : ∀ c ∈ (lower s).toList, IsLowered c := by
    rw [lower, String.toList_ofList]
    exact isLowered_lowerAfter [] s.toList
  rw [lower, lowerAfter_of_isLowered lowered, String.ofList_toList]

/-! ### White space -/

def blankRanges : List (Nat × Nat) :=
  [(0x9, 0xD), (0x1C, 0x20), (0x85, 0x85), (0xA0, 0xA0), (0x1680, 0x1680), (0x2000, 0x200A),
    (0x2028, 0x2029), (0x202F, 0x202F), (0x205F, 0x205F), (0x3000, 0x3000)]

theorem isBlank_iff {c : Char} : isBlank c = true ↔
    ∃ range ∈ blankRanges, range.1 ≤ c.toNat ∧ c.toNat ≤ range.2 := by
  simp only [isBlank, blankRanges, List.exists_mem_cons_iff, Bool.or_eq_true, Bool.and_eq_true,
    decide_eq_true_eq, beq_iff_eq]
  simp
  omega

def CaseRun.isSolid (run : CaseRun) : Bool :=
  blankRanges.all fun range =>
    (run.last.blt range.1 || range.2.blt run.first) &&
      (run.highest.blt range.1 || range.2.blt run.lowest)

theorem isSolid_of_lowerRuns : lowerRuns.all CaseRun.isSolid = true := by decide +kernel

theorem isBlank_of_run {run : CaseRun} (listed : run ∈ lowerRuns) {c : Char}
    (covered : run.covers c.toNat = true) :
    isBlank c = false ∧ isBlank (Char.ofNat (c.toNat + run.shift).toNat) = false := by
  have solid := List.all_eq_true.mp isSolid_of_lowerRuns run listed
  have valid := isValidChar_of_run listed covered
  obtain ⟨low, high, -⟩ := CaseRun.covers_iff.mp covered
  simp only [CaseRun.isSolid, List.all_eq_true, Bool.and_eq_true, Bool.or_eq_true, Nat.blt_eq,
    CaseRun.lowest, CaseRun.highest] at solid
  simp only [← Bool.not_eq_true, isBlank_iff, toNat_ofNat valid]
  constructor
  · rintro ⟨range, member, above, below⟩
    have apart := solid range member
    omega
  · rintro ⟨range, member, above, below⟩
    have apart := solid range member
    omega

theorem isBlank_shiftCase (c : Char) : isBlank (shiftCase lowerRuns c) = isBlank c := by
  unfold shiftCase
  split <;> rename_i found
  · have covered := List.find?_some found
    obtain ⟨here, there⟩ := isBlank_of_run (List.mem_of_find?_eq_some found) covered
    rw [here, there]
  · rfl

theorem isBlank_lowerChar {c x : Char} (member : x ∈ lowerChar c) : isBlank x = isBlank c := by
  unfold lowerChar at member
  split at member <;> rename_i ascii
  · obtain rfl := List.mem_singleton.mp member
    rw [Bool.eq_iff_iff, isBlank_iff, isBlank_iff, toNat_toLower]
    split <;> rename_i upper
    · obtain ⟨low, high⟩ := isUpper_iff.mp upper
      simp [blankRanges]
      omega
    · exact Iff.rfl
  · split at member <;> rename_i dotted
    · have solid : isBlank c = false := by
        rw [← Bool.not_eq_true, isBlank_iff, dotted]
        decide
      have first : isBlank 'i' = false := by decide
      have second : isBlank (Char.ofNat 0x307) = false := by decide +kernel
      rw [solid]
      rcases List.mem_pair.mp member with rfl | rfl
      · exact first
      · exact second
    · obtain rfl := List.mem_singleton.mp member
      exact isBlank_shiftCase c

theorem lowerChar_ne_nil (c : Char) : lowerChar c ≠ [] := by
  unfold lowerChar
  split
  · exact List.cons_ne_nil _ _
  · split <;> exact List.cons_ne_nil _ _

theorem lowerAfter_eq_nil_iff {before cs : List Char} : lowerAfter before cs = [] ↔ cs = [] := by
  cases cs with
  | nil => exact iff_of_true rfl rfl
  | cons c rest =>
    refine iff_of_false ?_ (List.cons_ne_nil _ _)
    rw [lowerAfter, List.append_eq_nil_iff]
    rintro ⟨first, -⟩
    split at first
    · exact nomatch first
    · exact lowerChar_ne_nil c first

theorem unbroken_lowerAfter_iff {before cs : List Char} :
    (∀ x ∈ lowerAfter before cs, isBlank x = false) ↔ ∀ c ∈ cs, isBlank c = false := by
  induction cs generalizing before with
  | nil => exact iff_of_true nofun nofun
  | cons c rest ih =>
    rw [lowerAfter, List.forall_mem_append, List.forall_mem_cons, ih]
    refine and_congr_left fun _ => ?_
    split <;> rename_i sigma
    · have solid : isBlank c = false := by
        rw [← Bool.not_eq_true, isBlank_iff, sigma]
        decide
      have small : isBlank (Char.ofNat 0x3C2) = false ∧ isBlank (Char.ofNat 0x3C3) = false := by
        decide +kernel
      refine iff_of_true (List.forall_mem_singleton.mpr ?_) solid
      split
      · exact small.1
      · exact small.2
    · obtain ⟨x, rest, shape⟩ := List.exists_cons_of_ne_nil (lowerChar_ne_nil c)
      constructor
      · intro unbroken
        have first : x ∈ lowerChar c := by simp [shape]
        rw [← isBlank_lowerChar first, unbroken x first]
      · intro solid x member
        rw [isBlank_lowerChar member, solid]

theorem isWord_lower_iff {s : String} : IsWord (lower s).toList ↔ IsWord s.toList := by
  rw [lower, String.toList_ofList]
  constructor
  · rintro ⟨given, unbroken⟩
    exact ⟨fun empty => given (lowerAfter_eq_nil_iff.mpr empty), unbroken_lowerAfter_iff.mp unbroken⟩
  · rintro ⟨given, unbroken⟩
    exact ⟨fun empty => given (lowerAfter_eq_nil_iff.mp empty), unbroken_lowerAfter_iff.mpr unbroken⟩

end CommandTree.Text
