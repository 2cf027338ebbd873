import CommandTree.Numeral.Integer

namespace CommandTree.Numeral
open Text

/-- A character with every decimal digit in its plain form. -/
def plainDigit (c : Char) : Char :=
  match digitValue? c with
  | some d => Char.ofNat (0x30 + d)
  | none => c

/-- Deletes the underscores between digits; there is no answer when one stands elsewhere. -/
def joinGroups? (afterDigit : Bool) : List Char → Option (List Char)
  | [] => some []
  | '_' :: d :: rest =>
    if afterDigit && d.isDigit then (joinGroups? true rest).map (d :: ·) else none
  | c :: rest => if c = '_' then none else (joinGroups? c.isDigit rest).map (c :: ·)

/-- A decimal `digits · 10 ^ exponent`. -/
structure Decimal where
  digits : List Nat
  exponent : Int
  deriving DecidableEq, Repr

/-- A power of ten after the letter `e`, or none at the end of the text. -/
def readExponent? : List Char → Option Int
  | [] => some 0
  | c :: rest =>
    let (negative, digits) := splitSign rest
    if (c = 'e' || c = 'E') && !digits.isEmpty && digits.all Char.isDigit then
      let n := ofDigits 10 (digits.filterMap digitValue?)
      some (if negative then -n else n)
    else none

def readDecimal? (cs : List Char) : Option Decimal :=
  let whole := cs.takeWhile Char.isDigit
  let afterWhole := cs.dropWhile Char.isDigit
  let (fraction, rest) :=
    match afterWhole with
    | '.' :: more => (more.takeWhile Char.isDigit, more.dropWhile Char.isDigit)
    | more => ([], more)
  if whole.isEmpty && fraction.isEmpty then none
  else (readExponent? rest).map fun power =>
    ⟨(whole ++ fraction).filterMap digitValue?, power - fraction.length⟩

/-- The double nearest to a decimal. Beyond the ends of the range the power is not computed. -/
def Decimal.toFloat (d : Decimal) : Float :=
  let significant := d.digits.dropWhile (· == 0)
  let magnitude : Int := significant.length + d.exponent
  if significant.isEmpty || magnitude < -330 then 0
  else if 310 < magnitude then 1 / 0
  else
    let n := ofDigits 10 significant
    if d.exponent < 0 then Float.ofScientific n true d.exponent.natAbs
    else Float.ofScientific n false d.exponent.natAbs

def readUnsignedFloat? (cs : List Char) : Option Float :=
  match String.ofList (cs.map Char.toLower) with
  | "inf" | "infinity" => some (1 / 0)
  | "nan" => some (0 / 0)
  | _ => (readDecimal? cs).map Decimal.toFloat

def readFloat? (s : String) : Option Float := do
  let cs ← joinGroups? false ((trimBy isNumberBlank s.toList).map plainDigit)
  let (negative, body) := splitSign cs
  let x ← readUnsignedFloat? body
  return if negative then -x else x

end CommandTree.Numeral
