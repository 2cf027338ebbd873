/-!
Signs outside the alphabet do not count, and padding that completes a group of four ends the text.
-/

namespace CommandTree.Text

def base64Value? (c : Char) : Option Nat :=
  if c.isUpper then some (c.toNat - 0x41)
  else if c.isLower then some (c.toNat - 0x61 + 26)
  else if c.isDigit then some (c.toNat - 0x30 + 52)
  else if c = '+' then some 62
  else if c = '/' then some 63
  else none

/-- Reads on at a place in a group of four, where `left` holds the bits that are not in a byte yet
and `pads` counts the padding since the last sign. -/
def decodeBase64From (place left pads : Nat) : List Char → Option (List UInt8)
  | [] => if place = 0 then some [] else none
  | c :: rest =>
    if c = '=' then
      if place < 2 then decodeBase64From place left pads rest
      else if 4 ≤ place + pads + 1 then some []
      else decodeBase64From place left (pads + 1) rest
    else
      match base64Value? c, place with
      | none, _ => decodeBase64From place left pads rest
      | some v, 0 => decodeBase64From 1 v 0 rest
      | some v, 1 => (decodeBase64From 2 (v % 16) 0 rest).map ((4 * left + v / 16).toUInt8 :: ·)
      | some v, 2 => (decodeBase64From 3 (v % 4) 0 rest).map ((16 * left + v / 4).toUInt8 :: ·)
      | some v, _ => (decodeBase64From 0 0 0 rest).map ((64 * left + v).toUInt8 :: ·)

/-- The bytes that a text stands for, unless it ends inside a group. -/
def decodeBase64 (cs : List Char) : Option (List UInt8) := decodeBase64From 0 0 0 cs

example : decodeBase64 "aGk=".toList = some [0x68, 0x69] := by decide +kernel

end CommandTree.Text
