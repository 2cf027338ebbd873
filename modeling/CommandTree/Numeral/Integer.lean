import CommandTree.Text.Blank
import CommandTree.Text.Digit
import CommandTree.Text.Quoted

/-!
Integers in texts: white space around, a sign, digits of any script, and single underscores between
digits. The number of decimal digits is limited.
-/

namespace CommandTree.Numeral
open Text

inductive Fault where
  | malformed
  | tooLong (digits : Nat)
  deriving DecidableEq, Repr

/-- The largest number of decimal digits, leading zeros included, that is read or written. -/
def digitLimit : Nat := 4300

/-- What is said about a number that is too long to be written. -/
def tooLongToWrite : String :=
  s!"Exceeds the limit ({digitLimit} digits) for integer string conversion; " ++
    "use sys.set_int_max_str_digits() to increase the limit"

/-- Whether an integer has few enough digits to be written. A minus is no digit. -/
def isWritable (n : Int) : Bool := n.natAbs < Nat.pow 10 digitLimit

/-- The longest part of a quoted text that a message about an integer shows. -/
def shownLength : Nat := 200

def Fault.message (base : Nat) (text : String) : Fault → String
  | malformed =>
    s!"invalid literal for int() with base {base}: " ++
      String.ofList ((quoted text).toList.take shownLength)
  | tooLong digits =>
    s!"Exceeds the limit ({digitLimit} digits) for integer string conversion: " ++
      s!"value has {digits} digits; use sys.set_int_max_str_digits() to increase the limit"

def splitSign : List Char → Bool × List Char
  | '-' :: rest => (true, rest)
  | '+' :: rest => (false, rest)
  | rest => (false, rest)

/-- Each underscore has a digit on both sides, and there is a digit. -/
def wellSpaced (afterDigit : Bool) : List Char → Bool
  | [] => afterDigit
  | c :: rest => if c = '_' then afterDigit && wellSpaced false rest else wellSpaced true rest

/-- The value of a digit in a base: a decimal digit of any script, or a letter from ten on. -/
def digitIn? (base : Nat) (c : Char) : Option Nat :=
  let value? :=
    if 'a' ≤ c ∧ c ≤ 'z' then some (c.toNat - 0x57)
    else if 'A' ≤ c ∧ c ≤ 'Z' then some (c.toNat - 0x37)
    else digitValue? c
  value?.filter (· < base)

def isDigitOrGap (base : Nat) (c : Char) : Bool := c = '_' || (digitIn? base c).isSome

def ofDigits (base : Nat) (digits : List Nat) : Nat := digits.foldl (base * · + ·) 0

/-- The letter that may stand between a zero and the digits of a base. -/
def baseMark? : Nat → Option Char
  | 2 => some 'b'
  | 8 => some 'o'
  | 16 => some 'x'
  | _ => none

def dropBaseMark (base : Nat) : List Char → List Char
  | zero :: mark :: rest =>
    if digitValue? zero = some 0 ∧ baseMark? base = some mark.toLower then rest
    else zero :: mark :: rest
  | cs => cs

def readNatural (base : Nat) (cs : List Char) : Except Fault Nat :=
  let run := cs.takeWhile (isDigitOrGap base)
  let digits := run.filterMap (digitIn? base)
  if !wellSpaced false run then .error .malformed
  else if base = 10 ∧ digitLimit < digits.length then .error (.tooLong digits.length)
  else if cs.dropWhile (isDigitOrGap base) != [] then .error .malformed
  else .ok (ofDigits base digits)

def readIntegerIn (base : Nat) (s : String) : Except Fault Int := do
  let (negative, body) := splitSign (trimBy isNumberBlank s.toList)
  let n ← readNatural base (dropBaseMark base body)
  return if negative then -n else n

def readInteger (s : String) : Except Fault Int := readIntegerIn 10 s

end CommandTree.Numeral
