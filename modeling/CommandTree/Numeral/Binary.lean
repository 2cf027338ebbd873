namespace CommandTree.Numeral

/-- The size `mantissa · 2 ^ exponent` of a finite double. -/
structure Binary where
  mantissa : Nat
  exponent : Int
  deriving DecidableEq, Repr

def hiddenBit : Nat := 0x10000000000000

def Binary.ofBits (bits : UInt64) : Binary :=
  let fraction := bits.toNat % hiddenBit
  let scale : Nat := bits.toNat / hiddenBit % 0x800
  if scale = 0 then ⟨fraction, -1074⟩ else ⟨hiddenBit + fraction, scale - 1075⟩

def Binary.whole? (b : Binary) : Option Nat :=
  let unit := Nat.pow 2 b.exponent.natAbs
  if 0 ≤ b.exponent then some (b.mantissa * unit)
  else if b.mantissa % unit = 0 then some (b.mantissa / unit)
  else none

def isNegative (x : Float) : Bool := x.toBits.toNat / 0x8000000000000000 == 1

def whole? (x : Float) : Option Int :=
  if x.isNaN || x.isInf then none
  else (Binary.ofBits x.toBits).whole?.map fun n => if isNegative x then -n else n

end CommandTree.Numeral
