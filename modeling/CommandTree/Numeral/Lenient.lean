import CommandTree.Numeral.Integer

/-!
The integers of configuration files: plain digits with an optional minus, and the looser forms with
a plus, leading zeros, grouped digits or a fraction of nothing but zeros.
-/

namespace CommandTree.Numeral
open Text

/-- Digits of the plain kind without a needless zero in front. What follows the digits is looked at
only if they are not too many. -/
def plainNatural (cs : List Char) : Except Fault Nat :=
  let run := cs.takeWhile Char.isDigit
  if run.isEmpty || (run.head? == some '0' && cs != ['0']) then .error .malformed
  else if digitLimit < run.length then .error (.tooLong run.length)
  else if run.length < cs.length then .error .malformed
  else .ok (ofDigits 10 (cs.map fun c => c.toNat - 0x30))

def plainInteger : List Char → Except Fault Int
  | '-' :: cs => (plainNatural cs).map fun n => -(n : Int)
  | cs => (plainNatural cs).map Int.ofNat

/-- Drops zeros and gaps up to the first other digit or minus, up to the last zero in front of a
point, or up to the last character. -/
def skipZeros (last : Char) : List Char → Option (List Char)
  | [] => some [last]
  | '.' :: rest => some (last :: '.' :: rest)
  | c :: rest =>
    if c = '0' || c = '_' then skipZeros c rest
    else if c.isDigit || c = '-' then some (c :: rest)
    else none

def dropLeadingZeros : List Char → Option (List Char)
  | [] => none
  | c :: rest =>
    if c = '0' then skipZeros c rest
    else if c.isDigit || c = '-' then some (c :: rest)
    else none

def dropSignedZeros : List Char → Option (List Char)
  | '-' :: rest => (dropLeadingZeros rest).map ('-' :: ·)
  | cs => dropLeadingZeros cs

/-- Drops a fraction that is all zeros. A point alone is no fraction. -/
def dropZeroFraction (cs : List Char) : List Char :=
  match cs.dropWhile (· != '.') with
  | '.' :: fraction =>
    if !fraction.isEmpty && fraction.all (· == '0') then cs.takeWhile (· != '.') else cs
  | _ => cs

def hasDoubleGap : List Char → Bool
  | '_' :: '_' :: _ => true
  | _ :: rest => hasDoubleGap rest
  | [] => false

/-- Deletes single underscores that are not at an end. -/
def joinDigits (cs : List Char) : List Char :=
  if cs.head? = some '_' || cs.getLast? = some '_' || hasDoubleGap cs then cs
  else cs.filter (· != '_')

/-- Takes a plus off the front unless a minus follows. -/
def dropPlus : List Char → Option (List Char)
  | '+' :: '-' :: _ => none
  | '+' :: rest => some rest
  | cs => some cs

def tightened? (cs : List Char) : Option (List Char) :=
  (dropPlus cs).bind fun unsigned => (dropSignedZeros unsigned).map fun digits =>
    joinDigits (dropZeroFraction digits)

/-- Reads the plain form, or else one of the looser forms. Only the plain form can be too long; a
looser form with too many digits is none. -/
def readLenient (s : String) : Except Fault Int :=
  let cs := trimBy isNumberBlank s.toList
  match plainInteger cs with
  | .error .malformed =>
    match (tightened? cs).map plainInteger with
    | some (.ok n) => .ok n
    | _ => .error .malformed
  | answer => answer

end CommandTree.Numeral
