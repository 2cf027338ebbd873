import CommandTree.Numeral.Decimal
import CommandTree.Numeral.Integer
import CommandTree.Text.Base64
import CommandTree.Yaml.Tag
import CommandTree.Yaml.Token

/-!
A scalar with the tag of a number, a truth value, a date or bytes need not have been recognised by
its text, so each reading says what is wrong with a text that does not fit.
-/

namespace CommandTree.Yaml.Scalar

/-- A number less its gaps and its sign; the flag says whether that was a minus. -/
def unsign (cs : List Char) : Except Fault (Bool × List Char) :=
  match cs.filter (· != '_') with
  | [] => .error .emptyNumber
  | body => .ok (Numeral.splitSign body)

def integerIn (base : Nat) (cs : List Char) : Except Fault Int :=
  let text := String.ofList cs
  (Numeral.readIntegerIn base text).mapError fun fault => .badValue (fault.message base text)

/-- The size of an integer: binary, hexadecimal, octal after a zero, sixtieths, or decimal. -/
def wholeSize (cs : List Char) : Except Fault Int :=
  match cs with
  | [] => .error .emptyNumber
  | ['0'] => .ok 0
  | '0' :: 'b' :: digits => integerIn 2 digits
  | '0' :: 'x' :: digits => integerIn 16 digits
  | '0' :: _ => integerIn 8 cs
  | _ =>
    if cs.contains ':' then do
      let parts ← (Tag.sexagesimalParts cs).mapM (integerIn 10)
      return parts.foldl (60 * · + ·) 0
    else integerIn 10 cs

def whole (text : String) : Except Fault Value := do
  let (negative, body) ← unsign text.toList
  let n ← wholeSize body
  return .int (if negative then -n else n)

def doubleOf (cs : List Char) : Except Fault Float :=
  let text := String.ofList cs
  match Numeral.readFloat? text with
  | some x => .ok x
  | none => .error (.badValue ("could not convert string to float: " ++ Text.quoted text))

/-- The largest power of sixty that is a double has this exponent. -/
def largestUnit : Nat := 173

/-- The sum of parts and their units, the last part first. -/
def sumSixtieths (sum : Float) (place : Nat) : List Float → Except Fault Float
  | [] => .ok sum
  | part :: rest =>
    if largestUnit < place then .error .beyondRange
    else sumSixtieths (sum + part * Float.ofScientific (Nat.pow 60 place) false 0) (place + 1) rest

def fractionSize (cs : List Char) : Except Fault Float :=
  if cs = ".inf".toList then .ok (1 / 0)
  else if cs = ".nan".toList then .ok (0 / 0)
  else if cs.contains ':' then do
    let parts ← (Tag.sexagesimalParts cs).mapM doubleOf
    sumSixtieths 0 0 parts.reverse
  else doubleOf cs

def fractionBody (text : String) : Except Fault (Bool × List Char) :=
  unsign (Text.lower text).toList

def isNoNumber (text : String) : Bool :=
  match fractionBody text with
  | .ok (_, body) => body = ".nan".toList
  | .error _ => false

def fraction (text : String) : Except Fault Value := do
  let (negative, body) ← fractionBody text
  let x ← fractionSize body
  return .float (if negative then -x else x)

def truth (text : String) : Except Fault Value :=
  match Tag.truthWords.lookup (Text.lower text) with
  | some b => .ok (.bool b)
  | none => .error .unknownTruth

def binary (text : String) : Except Fault Value :=
  if text.toList.any (0x80 ≤ ·.toNat) then .error .malformed
  else
    match Text.decodeBase64 text.toList with
    | some bytes => .ok (.bytes bytes)
    | none => .error .malformed

def stamp (text : String) : Except Fault Value :=
  match Stamp.ofChars? (Tag.dropLastBreak text.toList) with
  | none => .error .noStamp
  | some stamp =>
    match stamp.objection? with
    | some reason => .error (.badValue reason)
    | none => .ok stamp.value

end CommandTree.Yaml.Scalar
