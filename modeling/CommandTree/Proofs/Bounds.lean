import CommandTree.Bounds

/-!
Between whole numbers the comparisons of quantities are those of integers, so bounds that were
declared as integers admit what the integers say.
-/

namespace CommandTree

namespace Numeral.Quantity

theorem le_ofInt (m n : Int) : (ofInt m).le (ofInt n) = decide (m ≤ n) := by
  change decide (m * 1 ≤ n * 1) = decide (m ≤ n)
  rw [Int.mul_one, Int.mul_one]

theorem lt_ofInt (m n : Int) : (ofInt m).lt (ofInt n) = decide (m < n) := by
  rw [lt, le_ofInt, le_ofInt, Bool.eq_iff_iff]
  simp only [Bool.and_eq_true, Bool.not_eq_true', decide_eq_true_eq, decide_eq_false_iff_not]
  omega

theorem same_ofInt (m n : Int) : (ofInt m).same (ofInt n) = decide (m = n) := by
  rw [same, le_ofInt, le_ofInt, Bool.eq_iff_iff]
  simp only [Bool.and_eq_true, decide_eq_true_eq]
  omega

theorem floor?_ofInt (n : Int) : (ofInt n).floor? = some n := by
  change some (n * 1) = some n
  rw [Int.mul_one]

theorem ceil?_ofInt (n : Int) : (ofInt n).ceil? = some n := by
  change ((ofInt (-n)).floor?).map (- ·) = some n
  rw [floor?_ofInt, Option.map_some, Int.neg_neg]

end Numeral.Quantity

namespace Bounds
open Numeral

theorem leastOf_ofInt (n : Int) : leastOf (.ofInt n) = .finite n.toNat := by
  change Bound.finite (((Quantity.ofInt n).ceil?.getD 0).toNat) = _
  rw [Quantity.ceil?_ofInt, Option.getD_some]

theorem mostOf_ofInt (n : Int) :
    mostOf (.ofInt n) = if n = -1 then .infinite else .finite n.toNat := by
  simp only [mostOf, Quantity.same_ofInt, Quantity.floor?_ofInt, decide_eq_true_eq]

theorem isReached_leastOf_ofInt (minimum : Int) (n : Nat) :
    (leastOf (.ofInt minimum)).isReached n = true ↔ minimum ≤ n := by
  rw [leastOf_ofInt]
  simp only [Bound.isReached, decide_eq_true_eq]
  omega

theorem isKept_mostOf_ofInt {maximum : Int} (valid : -1 ≤ maximum) (n : Nat) :
    (mostOf (.ofInt maximum)).isKept n = true ↔ maximum = -1 ∨ n ≤ maximum := by
  rw [mostOf_ofInt]
  split <;> rename_i endless
  · exact ⟨fun _ => .inl endless, fun _ => rfl⟩
  · simp only [Bound.isKept, decide_eq_true_eq, endless, false_or]
    omega

theorem objectionTo_ofInt_iff {minimum maximum : Int} :
    objectionTo (.ofInt minimum) (.ofInt maximum) = none ↔
      0 ≤ minimum ∧ -1 ≤ maximum ∧ (maximum = -1 ∨ minimum ≤ maximum) := by
  simp only [objectionTo, Quantity.lt_ofInt, Quantity.same_ofInt, decide_eq_true_eq,
    Bool.and_eq_true, Bool.not_eq_true', decide_eq_false_iff_not]
  split
  · exact iff_of_false nofun (by omega)
  · split
    · exact iff_of_false nofun (by omega)
    · split
      · exact iff_of_false nofun (by omega)
      · exact iff_of_true rfl (by omega)

theorem objectionTo_negative {minimum : Int} (negative : minimum < 0) (maximum : Quantity) :
    objectionTo (.ofInt minimum) maximum = some .negativeMinimum := by
  simp [objectionTo, Quantity.lt_ofInt, negative]

theorem objectionTo_bad {minimum maximum : Int} (least : 0 ≤ minimum) (bad : maximum < -1) :
    objectionTo (.ofInt minimum) (.ofInt maximum) = some .badMaximum := by
  simp only [objectionTo, Quantity.lt_ofInt, decide_eq_true_eq]
  rw [if_neg (by omega), if_pos bad]

theorem objectionTo_crossed {minimum maximum : Int} (bounded : 0 ≤ maximum)
    (crossed : maximum < minimum) :
    objectionTo (.ofInt minimum) (.ofInt maximum) = some .crossed := by
  simp only [objectionTo, Quantity.lt_ofInt, Quantity.same_ofInt,
    decide_eq_true_eq, Bool.and_eq_true, Bool.not_eq_true', decide_eq_false_iff_not]
  rw [if_neg (by omega), if_neg (by omega), if_pos ⟨by omega, crossed⟩]

end Bounds
end CommandTree
