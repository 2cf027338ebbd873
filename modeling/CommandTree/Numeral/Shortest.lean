import CommandTree.Numeral.Binary

/-!
The fewest digits that read back as the same double, and of those the nearest to it. Numbers from
`10 ^ -4` to below `10 ^ 16` are written in positional notation.
-/

namespace CommandTree.Numeral

structure Ratio where
  num : Nat
  den : Nat

def Ratio.scaled (n : Nat) (e : Int) : Ratio :=
  if e < 0 then ⟨n, Nat.pow 2 e.natAbs⟩ else ⟨n * Nat.pow 2 e.natAbs, 1⟩

def Ratio.le (a b : Ratio) : Bool := a.num * b.den ≤ b.num * a.den

def Ratio.decimal (n : Nat) (e : Int) : Ratio :=
  if e < 0 then ⟨n, Nat.pow 10 e.natAbs⟩ else ⟨n * Nat.pow 10 e.natAbs, 1⟩

/-- The number in quarters of its last place: the double, and the two ends of the interval of the
numbers that round to it. Below a power of two the gap is half as wide. -/
def Binary.ends (b : Binary) : Ratio × Ratio :=
  let below := if b.mantissa = hiddenBit ∧ -1074 < b.exponent then 1 else 2
  (.scaled (4 * b.mantissa - below) (b.exponent - 2), .scaled (4 * b.mantissa + 2) (b.exponent - 2))

/-- Whether `n · 10 ^ e` rounds to the double; the ends belong to an even mantissa. -/
def Binary.hits (b : Binary) (n : Nat) (e : Int) : Bool :=
  let (low, high) := b.ends
  let x := Ratio.decimal n e
  if b.mantissa % 2 = 0 then low.le x && x.le high else !x.le low && !high.le x

def Binary.leadingPower (b : Binary) : Int :=
  let v := Ratio.scaled b.mantissa b.exponent
  Int.ofNat (Nat.toDigits 10 (v.num * Nat.pow 10 330 / v.den)).length - 331

/-- The point of the grid of step `10 ^ e` that reads back as the double, the nearer of two. -/
def Binary.onGrid? (b : Binary) (e : Int) : Option Nat :=
  let v := Ratio.scaled b.mantissa b.exponent
  let step := Ratio.decimal 1 e
  let quotient := v.num * step.den
  let divisor := v.den * step.num
  let floor := quotient / divisor
  let twiceRest := 2 * (quotient % divisor)
  match b.hits floor e, b.hits (floor + 1) e with
  | true, true =>
    some (if twiceRest < divisor || (twiceRest == divisor && floor % 2 == 0) then floor
      else floor + 1)
  | true, false => some floor
  | false, true => some (floor + 1)
  | false, false => none

/-- The digits of the shortest decimal and the power of ten of the last one. -/
def Binary.shortest (b : Binary) : Nat × Int :=
  let lead := b.leadingPower
  let found := (List.range 17).findSome? fun more =>
    let e := lead - Int.ofNat more
    (b.onGrid? e).map fun n => (n, e)
  found.getD (b.mantissa, b.exponent)

def stripZeros (digits : List Char) : List Char :=
  (digits.reverse.dropWhile (· == '0')).reverse

/-- The layout of a decimal with first digit at `10 ^ lead`. -/
def layout (digits : List Char) (lead : Int) : List Char :=
  if lead < -4 ∨ 16 ≤ lead then
    let power := Nat.toDigits 10 lead.natAbs
    digits.take 1 ++ (if digits.length ≤ 1 then [] else '.' :: digits.drop 1) ++
      'e' :: (if lead < 0 then '-' else '+') :: (List.replicate (2 - power.length) '0' ++ power)
  else if lead < 0 then
    '0' :: '.' :: (List.replicate (lead.natAbs - 1) '0' ++ digits)
  else
    let whole := lead.natAbs + 1
    let fraction := digits.drop whole
    digits.take whole ++ List.replicate (whole - digits.length) '0' ++
      '.' :: (if fraction.isEmpty then ['0'] else fraction)

def Binary.text (b : Binary) : List Char :=
  let (n, e) := b.shortest
  let digits := Nat.toDigits 10 n
  layout (stripZeros digits) (e + digits.length - 1)

def floatText (x : Float) : String :=
  if x.isNaN then "nan"
  else
    let sign := if isNegative x then "-" else ""
    let magnitude :=
      if x.isInf then "inf"
      else if x == 0 then "0.0"
      else String.ofList (Binary.ofBits x.toBits).text
    sign ++ magnitude

end CommandTree.Numeral
