import CommandTree.Numeral.Binary

/-! Integers and doubles are compared by size, without rounding. -/

namespace CommandTree.Numeral

/-- The number `mantissa · 2 ^ exponent`, an end of the line, or no number. -/
inductive Quantity where
  | finite (mantissa exponent : Int)
  | endless (negative : Bool)
  | undefined
  deriving DecidableEq, Repr

namespace Quantity

def ofInt (n : Int) : Quantity := finite n 0

def ofFloat (x : Float) : Quantity :=
  if x.isNaN then undefined
  else if x.isInf then endless (isNegative x)
  else
    let b := Binary.ofBits x.toBits
    finite (if isNegative x then -b.mantissa else b.mantissa) b.exponent

/-- Two numbers in units of the smaller of their powers of two. -/
def aligned (m e n f : Int) : Int × Int :=
  let least := min e f
  (m * Int.pow 2 (e - least).toNat, n * Int.pow 2 (f - least).toNat)

def le : Quantity → Quantity → Bool
  | undefined, _ | _, undefined => false
  | endless negative, endless other => negative || !other
  | endless negative, finite _ _ => negative
  | finite _ _, endless negative => !negative
  | finite m e, finite n f =>
    let (a, b) := aligned m e n f
    a ≤ b

def lt (a b : Quantity) : Bool := a.le b && !b.le a

def same (a b : Quantity) : Bool := a.le b && b.le a

def floor? : Quantity → Option Int
  | finite m e => some (if 0 ≤ e then m * Int.pow 2 e.toNat else Int.fdiv m (Int.pow 2 e.natAbs))
  | _ => none

def ceil? : Quantity → Option Int
  | finite m e => (floor? (finite (-m) e)).map (- ·)
  | _ => none

example : (floor? (finite 5 (-1)), ceil? (finite 5 (-1))) = (some 2, some 3) := by decide

example : (floor? (finite (-5) (-1)), ceil? (finite (-5) (-1))) = (some (-3), some (-2)) := by
  decide

end Quantity
end CommandTree.Numeral
