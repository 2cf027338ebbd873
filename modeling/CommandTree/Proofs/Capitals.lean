import CommandTree.Proofs.Casing

/-!
A text in capitals goes back to the lower case form of the text unless one of its characters has
capitals that go elsewhere, or a small sigma does not stand where the lower case form of a capital
puts it. Which small sigma that is hangs on the characters around it, and for this capitals are as
good as the characters that they stand for.
-/

namespace CommandTree.Text

def Returns (c : Char) : Prop := (upperChar c).flatMap lowerChar = lowerChar c

instance (c : Char) : Decidable (Returns c) := inferInstanceAs (Decidable (_ = _))

def isSmallSigma (c : Char) : Bool := c.toNat == 0x3C2 || c.toNat == 0x3C3

/-- Whether a sigma ends a word, with what is before it backwards. -/
def endsWord (before rest : List Char) : Bool := meetsCased before && !meetsCased rest

/-- Whether all characters return, but for the small sigmas, and these are final exactly where a
word ends. -/
def returns (before : List Char) : List Char → Bool
  | [] => true
  | c :: rest =>
    (if isSmallSigma c then (c.toNat == 0x3C2) == endsWord before rest else decide (Returns c)) &&
      returns (c :: before) rest

/-! ### Capitals in number -/

theorem eq_ofNat {c : Char} {n : Nat} (same : c.toNat = n) : c = Char.ofNat n := by
  rw [← same, Char.ofNat_toNat]

theorem length_lowerChar {c : Char} (single : c.toNat ≠ 0x130) : (lowerChar c).length = 1 := by
  unfold lowerChar
  split
  · rfl
  · rfl

theorem length_le_lowered (cs : List Char) : cs.length ≤ (cs.flatMap lowerChar).length := by
  induction cs with
  | nil => exact Nat.le_refl _
  | cons c cs ih =>
    rw [List.flatMap_cons, List.length_append, List.length_cons]
    have given := List.length_pos_of_ne_nil (lowerChar_ne_nil c)
    omega

theorem upperChar_dotted : upperChar (Char.ofNat 0x130) = [Char.ofNat 0x130] := by decide +kernel

theorem two_le_of_lookup {n : Nat} {expansion : List Nat}
    (found : upperExpansions.lookup n = some expansion) : 2 ≤ expansion.length := by
  have several : ∀ entry ∈ upperExpansions, 2 ≤ entry.2.length := by decide +kernel
  obtain ⟨before, after, split, -⟩ := List.lookup_eq_some_iff.mp found
  exact several (n, expansion) (split ▸ by simp)

theorem upperChar_ne_nil (c : Char) : upperChar c ≠ [] := by
  unfold upperChar
  split
  · exact List.cons_ne_nil _ _
  · split <;> rename_i found
    · have several := two_le_of_lookup found
      exact List.ne_nil_of_length_pos (by rw [List.length_map]; omega)
    · exact List.cons_ne_nil _ _

theorem length_lowerChar_le (c : Char) :
    (lowerChar c).length ≤ ((upperChar c).flatMap lowerChar).length := by
  by_cases dotted : c.toNat = 0x130
  · have same : (lowerChar c).length = ((upperChar c).flatMap lowerChar).length := by
      rw [eq_ofNat dotted, upperChar_dotted, List.flatMap_singleton]
    exact Nat.le_of_eq same
  · rw [length_lowerChar dotted]
    exact Nat.le_trans (List.length_pos_of_ne_nil (upperChar_ne_nil c)) (length_le_lowered _)

def capital (c : Char) : Char := (upperChar c).headD c

theorem upperChar_eq_singleton {c : Char}
    (same : (lowerChar c).length = ((upperChar c).flatMap lowerChar).length) :
    upperChar c = [capital c] := by
  unfold capital
  by_cases dotted : c.toNat = 0x130
  · rw [eq_ofNat dotted, upperChar_dotted]
    rfl
  · rw [length_lowerChar dotted] at same
    have few := length_le_lowered (upperChar c)
    rw [← same] at few
    cases shape : upperChar c with
    | nil => exact absurd shape (upperChar_ne_nil c)
    | cons d others =>
      rw [shape, List.length_cons] at few
      rw [List.eq_nil_of_length_eq_zero (Nat.le_zero.mp (Nat.le_of_succ_le_succ few))]
      rfl

/-! ### Capitals in the table -/

namespace CaseRun
variable {run : CaseRun} {n : Nat}

def lands (run : CaseRun) : Bool :=
  Nat.blt 0 run.lowest &&
    (run.highest.blt 0xD800 || Nat.blt 0xDFFF run.lowest && run.highest.blt 0x110000)

theorem isValidChar_of_lands (lands : run.lands = true) (covered : run.covers n = true) :
    (n + run.shift).toNat.isValidChar := by
  simp only [CaseRun.lands, Bool.and_eq_true, Bool.or_eq_true, Nat.blt_eq, lowest, highest] at lands
  obtain ⟨low, high, -⟩ := covers_iff.mp covered
  unfold Nat.isValidChar
  omega

def targets (run : CaseRun) : List Nat :=
  (List.range ((run.last - run.first) / run.step + 1)).map fun i : Nat =>
    ((run.first + run.step * i : Nat) + run.shift).toNat

theorem mem_targets (covered : run.covers n = true) : (n + run.shift).toNat ∈ run.targets := by
  obtain ⟨low, high, every⟩ := covers_iff.mp covered
  have place := Nat.mul_div_cancel' (Nat.dvd_of_mod_eq_zero every)
  refine List.mem_map.mpr ⟨(n - run.first) / run.step, ?_, ?_⟩
  · have below : (n - run.first) / run.step ≤ (run.last - run.first) / run.step :=
      Nat.div_le_div_right (Nat.sub_le_sub_right high _)
    exact List.mem_range.mpr (Nat.lt_succ_of_le below)
  · rw [place, Nat.add_sub_cancel' low]

/-- Whether some range of cased characters has all from one to another. -/
def areCased (low high : Nat) : Bool :=
  casedRanges.any fun range => range.1.ble low && high.ble range.2

def isCased (run : CaseRun) : Bool :=
  areCased run.first run.last &&
    (areCased run.lowest run.highest || run.targets.all fun n => areCased n n)

theorem areCased_of_mem {low high : Nat} (cased : areCased low high = true) (above : low ≤ n)
    (below : n ≤ high) : areCased n n = true := by
  simp only [areCased, List.any_eq_true, Bool.and_eq_true, Nat.ble_eq] at cased ⊢
  obtain ⟨range, listed, lower, upper⟩ := cased
  exact ⟨range, listed, by omega, by omega⟩

theorem areCased_of_isCased (cased : run.isCased = true) (covered : run.covers n = true) :
    areCased n n = true ∧ areCased (n + run.shift).toNat (n + run.shift).toNat = true := by
  obtain ⟨low, high, -⟩ := covers_iff.mp covered
  simp only [isCased, Bool.and_eq_true, Bool.or_eq_true, List.all_eq_true] at cased
  obtain ⟨here, there⟩ := cased
  refine ⟨areCased_of_mem here low high, ?_⟩
  rcases there with between | each
  · exact areCased_of_mem between (by simp only [lowest]; omega) (by simp only [highest]; omega)
  · exact each _ (mem_targets covered)

end CaseRun

theorem lands_of_upperRuns : upperRuns.all CaseRun.lands = true := by decide +kernel

/-- All characters with a capital are cased but for the iota that stands below a letter. -/
theorem isCased_of_upperRuns : upperRuns.all (fun run =>
    run.first == 0x345 && run.last == 0x345 || run.isCased) = true := by decide +kernel

theorem casedRanges_apart : casedRanges.all (fun cased => caseIgnorableRanges.all fun range =>
    cased.2.blt range.1 || range.2.blt cased.1) = true := by decide +kernel

theorem sigma_of_upperRuns : ∀ run ∈ upperRuns, run.covers (0x3A3 - run.shift).toNat = true →
    (0x3A3 - run.shift).toNat = 0x3C2 ∨ (0x3A3 - run.shift).toNat = 0x3C3 := by decide +kernel

theorem isLower_iff {c : Char} : c.isLower = true ↔ 0x61 ≤ c.toNat ∧ c.toNat ≤ 0x7A := by
  have within : c.isLower = (decide (c.val ≥ 'a'.val) && decide (c.val ≤ 'z'.val)) := rfl
  rw [within, Bool.and_eq_true, decide_eq_true_iff, decide_eq_true_iff]
  exact Iff.rfl

theorem toNat_toUpper (c : Char) :
    c.toUpper.toNat = if c.isLower then c.toNat - 32 else c.toNat := by
  unfold Char.toUpper
  split <;> rename_i letter
  · have lower : c.isLower = true := isLower_iff.mpr letter
    have range : 0x61 ≤ c.val.toNat ∧ c.val.toNat ≤ 0x7A := isLower_iff.mp lower
    have shift : ('A'.val - 'a'.val).toNat = 2 ^ 32 - 32 := by decide
    have sum : (c.val + ('A'.val - 'a'.val)).toNat = c.val.toNat - 32 := by
      rw [UInt32.toNat_add, shift]
      omega
    rw [if_pos lower]
    exact sum
  · have large : ¬ c.isLower = true := fun lower => letter (isLower_iff.mp lower)
    rw [if_neg large]

theorem capital_cases {c : Char} (single : upperChar c = [capital c]) :
    capital c = c ∨ ∃ run ∈ upperRuns, run.covers c.toNat = true ∧
      (capital c).toNat = (c.toNat + run.shift).toNat := by
  have shifted : ∀ run ∈ upperRuns, run.covers c.toNat = true →
      (Char.ofNat (c.toNat + run.shift).toNat).toNat = (c.toNat + run.shift).toNat := by
    intro run listed covered
    have lands := List.all_eq_true.mp lands_of_upperRuns run listed
    exact toNat_ofNat (CaseRun.isValidChar_of_lands lands covered)
  unfold upperChar at single
  split at single
  · have same : c.toUpper = capital c := List.singleton_inj.mp single
    by_cases lower : c.isLower = true
    · have letters : (⟨0x61, 0x7A, 1, -32⟩ : CaseRun) ∈ upperRuns := List.mem_cons_self
      obtain ⟨low, high⟩ := isLower_iff.mp lower
      have covered : (⟨0x61, 0x7A, 1, -32⟩ : CaseRun).covers c.toNat = true :=
        CaseRun.covers_iff.mpr ⟨low, high, Nat.mod_one _⟩
      refine .inr ⟨_, letters, covered, ?_⟩
      rw [← same, toNat_toUpper, if_pos lower]
      exact (Int.toNat_sub c.toNat 32).symm
    · refine .inl (Char.toNat_inj.mp ?_)
      rw [← same, toNat_toUpper, if_neg lower]
  · split at single <;> rename_i found
    · have several := two_le_of_lookup found
      have one := congrArg List.length single
      rw [List.length_map, List.length_singleton] at one
      omega
    · rw [← List.singleton_inj.mp single]
      unfold shiftCase
      split <;> rename_i found
      · have listed := List.mem_of_find?_eq_some found
        have covered := List.find?_some found
        exact .inr ⟨_, listed, covered, shifted _ listed covered⟩
      · exact .inl rfl

/-- Two characters that mean the same to the sigmas around them. -/
structure Alike (c d : Char) : Prop where
  ignorable : inRanges caseIgnorableRanges d = inRanges caseIgnorableRanges c
  cased : inRanges casedRanges d = inRanges casedRanges c

theorem inRanges_of_areCased {c : Char} (cased : CaseRun.areCased c.toNat c.toNat = true) :
    inRanges caseIgnorableRanges c = false ∧ inRanges casedRanges c = true := by
  simp only [CaseRun.areCased, List.any_eq_true, Bool.and_eq_true, Nat.ble_eq] at cased
  obtain ⟨range, listed, low, high⟩ := cased
  constructor
  · refine List.any_eq_false.mpr fun other ignorable => ?_
    have apart := List.all_eq_true.mp (List.all_eq_true.mp casedRanges_apart range listed) other
      ignorable
    simp only [Bool.or_eq_true, Nat.blt_eq] at apart
    simp only [Bool.and_eq_true, decide_eq_true_eq]
    omega
  · exact List.any_eq_true.mpr ⟨range, listed, by simp [low, high]⟩

theorem alike_capital {c : Char} (single : upperChar c = [capital c]) (letter : c.toNat ≠ 0x345) :
    Alike c (capital c) := by
  rcases capital_cases single with same | ⟨run, listed, covered, goes⟩
  · rw [same]
    exact ⟨rfl, rfl⟩
  · have listed := List.all_eq_true.mp isCased_of_upperRuns run listed
    simp only [Bool.or_eq_true, Bool.and_eq_true, beq_iff_eq] at listed
    have cased : run.isCased = true := by
      refine listed.resolve_left fun iota => letter ?_
      obtain ⟨low, high, -⟩ := CaseRun.covers_iff.mp covered
      omega
    obtain ⟨here, there⟩ := CaseRun.areCased_of_isCased cased covered
    rw [← goes] at there
    obtain ⟨ignorable, cased⟩ := inRanges_of_areCased here
    obtain ⟨ignorable', cased'⟩ := inRanges_of_areCased there
    exact ⟨ignorable'.trans ignorable.symm, cased'.trans cased.symm⟩

/-! ### Sigmas -/

theorem isSmallSigma_iff {c : Char} :
    isSmallSigma c = true ↔ c.toNat = 0x3C2 ∨ c.toNat = 0x3C3 := by
  simp [isSmallSigma]

theorem upperChar_smallSigma {c : Char} (small : isSmallSigma c = true) :
    upperChar c = [Char.ofNat 0x3A3] ∧ lowerChar c = [c] := by
  have final : upperChar (Char.ofNat 0x3C2) = [Char.ofNat 0x3A3] ∧
      lowerChar (Char.ofNat 0x3C2) = [Char.ofNat 0x3C2] := by decide +kernel
  have inner : upperChar (Char.ofNat 0x3C3) = [Char.ofNat 0x3A3] ∧
      lowerChar (Char.ofNat 0x3C3) = [Char.ofNat 0x3C3] := by decide +kernel
  rcases isSmallSigma_iff.mp small with same | same
  · rw [eq_ofNat same]
    exact final
  · rw [eq_ofNat same]
    exact inner

theorem upperChar_sigma : upperChar (Char.ofNat 0x3A3) = [Char.ofNat 0x3A3] := by decide +kernel

theorem capital_eq_sigma_iff {c : Char} (single : upperChar c = [capital c]) :
    (capital c).toNat = 0x3A3 ↔ c.toNat = 0x3A3 ∨ isSmallSigma c = true := by
  constructor
  · intro sigma
    rcases capital_cases single with same | ⟨run, listed, covered, goes⟩
    · exact .inl (same ▸ sigma)
    · have source : (0x3A3 - run.shift).toNat = c.toNat := by omega
      rw [← source] at covered
      have small := sigma_of_upperRuns run listed covered
      rw [source] at small
      exact .inr (isSmallSigma_iff.mpr small)
  · rintro (sigma | small)
    · rw [eq_ofNat sigma, capital, upperChar_sigma]
      rfl
    · rw [capital, (upperChar_smallSigma small).1]
      rfl

theorem isSmallSigma_ne {c : Char} (small : isSmallSigma c = true) : c.toNat ≠ 0x3A3 := by
  rw [isSmallSigma_iff] at small
  omega

theorem returns_sigma : Returns (Char.ofNat 0x3A3) := by decide +kernel

theorem not_returns_iota : ¬ Returns (Char.ofNat 0x345) := by decide +kernel

/-- A character with one capital, which takes the same place in a text. -/
structure Keeps (c : Char) : Prop where
  single : upperChar c = [capital c]
  even : (lowerChar (capital c)).length = (lowerChar c).length
  alike : Alike c (capital c)

theorem Returns.keeps {c : Char} (back : Returns c) : Keeps c := by
  have single := upperChar_eq_singleton (congrArg List.length back.symm)
  refine ⟨single, ?_, alike_capital single fun iota => not_returns_iota (eq_ofNat iota ▸ back)⟩
  rw [← back, single, List.flatMap_singleton]

theorem keeps_of_smallSigma {c : Char} (small : isSmallSigma c = true) : Keeps c := by
  obtain ⟨upper, lower⟩ := upperChar_smallSigma small
  have sigma : capital c = Char.ofNat 0x3A3 := by
    rw [capital, upper]
    rfl
  have single : upperChar c = [capital c] := by rw [sigma, upper]
  refine ⟨single, ?_, alike_capital single fun iota => ?_⟩
  · rw [sigma, lower]
    exact length_lowerChar (by decide)
  · rw [isSmallSigma_iff] at small
    omega

theorem meetsCased_capitals {cs : List Char} (keep : ∀ c ∈ cs, Keeps c) :
    meetsCased (cs.map capital) = meetsCased cs := by
  induction cs with
  | nil => rfl
  | cons c cs ih =>
    obtain ⟨first, others⟩ := List.forall_mem_cons.mp keep
    have step := ih others
    unfold meetsCased at step ⊢
    rw [List.map_cons, List.dropWhile_cons, List.dropWhile_cons, first.alike.ignorable]
    split
    · exact step
    · simp [first.alike.cased]

/-! ### Texts -/

/-- What the lower case form has in the place of one character. -/
def lowerAt (before : List Char) (c : Char) (rest : List Char) : List Char :=
  if c.toNat = 0x3A3 then [Char.ofNat (if endsWord before rest then 0x3C2 else 0x3C3)]
  else lowerChar c

theorem lowerAfter_cons (before : List Char) (c : Char) (rest : List Char) :
    lowerAfter before (c :: rest) = lowerAt before c rest ++ lowerAfter (c :: before) rest := rfl

theorem length_lowerAt (before : List Char) (c : Char) (rest : List Char) :
    (lowerAt before c rest).length = (lowerChar c).length := by
  unfold lowerAt
  split <;> rename_i sigma
  · exact (length_lowerChar (by omega)).symm
  · rfl

theorem length_lowerAfter (before cs : List Char) :
    (lowerAfter before cs).length = (cs.flatMap lowerChar).length := by
  induction cs generalizing before with
  | nil => rfl
  | cons c cs ih =>
    rw [lowerAfter_cons, List.flatMap_cons, List.length_append, List.length_append, length_lowerAt,
      ih]

theorem length_eq_of_flatMap {α β : Type} {f g : α → List β} {xs : List α}
    (shorter : ∀ x, (f x).length ≤ (g x).length)
    (whole : (xs.flatMap f).length = (xs.flatMap g).length) :
    ∀ x ∈ xs, (f x).length = (g x).length := by
  have total : ∀ ys : List α, (ys.flatMap f).length ≤ (ys.flatMap g).length := by
    intro ys
    induction ys with
    | nil => exact Nat.le_refl _
    | cons y ys ih =>
      rw [List.flatMap_cons, List.flatMap_cons, List.length_append, List.length_append]
      exact Nat.add_le_add (shorter y) ih
  induction xs with
  | nil => exact nofun
  | cons x xs ih =>
    rw [List.flatMap_cons, List.flatMap_cons, List.length_append, List.length_append] at whole
    have first := shorter x
    have others := total xs
    exact List.forall_mem_cons.mpr ⟨by omega, ih (by omega)⟩

theorem flatMap_upperChar {cs : List Char} (single : ∀ c ∈ cs, upperChar c = [capital c]) :
    cs.flatMap upperChar = cs.map capital := by
  rw [List.flatMap_congr single, ← List.map_eq_flatMap]

/-- Where two characters have lower case forms of one length, texts that start with them have the
same lower case form place by place. -/
theorem lowerAfter_cons_inj {before before' rest rest' : List Char} {c d : Char}
    (same : (lowerChar d).length = (lowerChar c).length) :
    lowerAfter before' (d :: rest') = lowerAfter before (c :: rest) ↔
      lowerAt before' d rest' = lowerAt before c rest ∧
        lowerAfter (d :: before') rest' = lowerAfter (c :: before) rest := by
  rw [lowerAfter_cons, lowerAfter_cons]
  exact ⟨fun equal => List.append_inj equal (by rw [length_lowerAt, length_lowerAt, same]),
    fun ⟨first, others⟩ => by rw [first, others]⟩

theorem returns_of_lowerAt {before before' rest rest' : List Char} {c : Char}
    (single : upperChar c = [capital c])
    (same : lowerAt before' (capital c) rest' = lowerAt before c rest) :
    isSmallSigma c = true ∨ Returns c := by
  by_cases sigma : (capital c).toNat = 0x3A3
  · rcases (capital_eq_sigma_iff single).mp sigma with capital | small
    · exact .inr (eq_ofNat capital ▸ returns_sigma)
    · exact .inl small
  · have plain : c.toNat ≠ 0x3A3 := fun same =>
      sigma ((capital_eq_sigma_iff single).mpr (.inl same))
    rw [lowerAt, if_neg sigma, lowerAt, if_neg plain] at same
    rw [Returns, single, List.flatMap_singleton]
    exact .inr same

/-- Among characters that keep their places, a capital has the lower case form of its character
exactly as `returns` tells. -/
theorem lowerAt_capital_iff {before rest : List Char} {c : Char} (keeps : Keeps c)
    (keepBefore : ∀ x ∈ before, Keeps x) (keepRest : ∀ x ∈ rest, Keeps x) :
    lowerAt (before.map capital) (capital c) (rest.map capital) = lowerAt before c rest ↔
      (if isSmallSigma c then (c.toNat == 0x3C2) == endsWord before rest
        else decide (Returns c)) = true := by
  have same : endsWord (before.map capital) (rest.map capital) = endsWord before rest := by
    rw [endsWord, endsWord, meetsCased_capitals keepBefore, meetsCased_capitals keepRest]
  by_cases small : isSmallSigma c = true
  · have sigma := (capital_eq_sigma_iff keeps.single).mpr (.inr small)
    rw [lowerAt, if_pos sigma, lowerAt, if_neg (isSmallSigma_ne small),
      (upperChar_smallSigma small).2, if_pos small, same]
    rcases isSmallSigma_iff.mp small with final | inner
    · rw [eq_ofNat final]
      cases endsWord before rest <;> decide
    · rw [eq_ofNat inner]
      cases endsWord before rest <;> decide
  · rw [if_neg small]
    by_cases capital : c.toNat = 0x3A3
    · have sigma := (capital_eq_sigma_iff keeps.single).mpr (.inl capital)
      rw [lowerAt, if_pos sigma, lowerAt, if_pos capital, same]
      exact iff_of_true rfl (decide_eq_true (eq_ofNat capital ▸ returns_sigma))
    · have plain := fun same => (((capital_eq_sigma_iff keeps.single).mp same).elim capital small)
      rw [lowerAt, if_neg plain, lowerAt, if_neg capital, decide_eq_true_iff, Returns, keeps.single,
        List.flatMap_singleton]

theorem keeps_of_returns {before cs : List Char} (back : returns before cs = true) :
    ∀ c ∈ cs, Keeps c := by
  induction cs generalizing before with
  | nil => exact nofun
  | cons c cs ih =>
    rw [returns, Bool.and_eq_true] at back
    obtain ⟨first, others⟩ := back
    refine List.forall_mem_cons.mpr ⟨?_, ih others⟩
    by_cases small : isSmallSigma c = true
    · exact keeps_of_smallSigma small
    · rw [if_neg small, decide_eq_true_iff] at first
      exact first.keeps

/-- What stands before the texts may differ here. It only decides between the small sigmas, and both
keep their places. -/
theorem keeps_of_lowerAfter {before before' cs : List Char}
    (even : ∀ c ∈ cs, (lowerChar c).length = ((upperChar c).flatMap lowerChar).length)
    (same : lowerAfter before' (cs.map capital) = lowerAfter before cs) : ∀ c ∈ cs, Keeps c := by
  induction cs generalizing before before' with
  | nil => exact nofun
  | cons c cs ih =>
    obtain ⟨first, others⟩ := List.forall_mem_cons.mp even
    have single := upperChar_eq_singleton first
    rw [single, List.flatMap_singleton] at first
    obtain ⟨here, later⟩ := (lowerAfter_cons_inj first.symm).mp same
    refine List.forall_mem_cons.mpr ⟨?_, ih others later⟩
    exact (returns_of_lowerAt single here).elim keeps_of_smallSigma Returns.keeps

theorem lowerAfter_capitals_iff {before cs : List Char} (keepBefore : ∀ c ∈ before, Keeps c)
    (keep : ∀ c ∈ cs, Keeps c) :
    lowerAfter (before.map capital) (cs.map capital) = lowerAfter before cs ↔
      returns before cs = true := by
  induction cs generalizing before with
  | nil => exact iff_of_true rfl rfl
  | cons c cs ih =>
    obtain ⟨first, others⟩ := List.forall_mem_cons.mp keep
    rw [List.map_cons, lowerAfter_cons_inj first.even, lowerAt_capital_iff first keepBefore others,
      ← List.map_cons, ih (List.forall_mem_cons.mpr ⟨first, keepBefore⟩) others, returns,
      Bool.and_eq_true]

theorem lower_upper_iff (s : String) : lower (upper s) = lower s ↔ returns [] s.toList = true := by
  rw [lower, lower, upper, String.toList_ofList, String.ofList_inj]
  constructor
  · intro same
    -- No capitals have a shorter lower case form than their character, so here none have a longer.
    have whole := congrArg List.length same
    rw [length_lowerAfter, length_lowerAfter, List.flatMap_assoc] at whole
    have even := length_eq_of_flatMap length_lowerChar_le whole.symm
    rw [flatMap_upperChar fun c member => upperChar_eq_singleton (even c member)] at same
    exact (lowerAfter_capitals_iff (List.forall_mem_nil _) (keeps_of_lowerAfter even same)).mp same
  · intro back
    have keep := keeps_of_returns back
    rw [flatMap_upperChar fun c member => (keep c member).single]
    exact (lowerAfter_capitals_iff (List.forall_mem_nil _) keep).mpr back

theorem returns_of_ascii {cs : List Char} (ascii : ∀ c ∈ cs, c.toNat < 0x80) (before : List Char) :
    returns before cs = true := by
  have all : ∀ n < 0x80, Returns (Char.ofNat n) := by decide +kernel
  induction cs generalizing before with
  | nil => rfl
  | cons c cs ih =>
    obtain ⟨first, others⟩ := List.forall_mem_cons.mp ascii
    have plain : isSmallSigma c = false := by
      rw [← Bool.not_eq_true, isSmallSigma_iff]
      omega
    have back : Returns c := Char.ofNat_toNat c ▸ all c.toNat first
    rw [returns, plain, ih others, if_neg Bool.false_ne_true, decide_eq_true back, Bool.and_self]

example : returns [] "ὀδυσσεύς".toList = true ∧ returns [] "straße".toList = false := by
  decide +kernel

end CommandTree.Text
