/-!
An escape may name one half of a pair of code units without the other. A half is no character;
inside a text a character of a private range that is kept for halves stands for it.
-/

namespace CommandTree.Text

/-- The codes of halves: those that come first in a pair, and then those that come second. -/
def isHalfCode (n : Nat) : Bool := 0xD800 ≤ n && n < 0xE000

/-- What lies between the code of a half and the character that stands for it. -/
def halfShift : Nat := 0xF8000

def ofCode (n : Nat) : Char := Char.ofNat (if isHalfCode n then n + halfShift else n)

def half? (c : Char) : Option Nat :=
  if isHalfCode (c.toNat - halfShift) then some (c.toNat - halfShift) else none

theorem half?_ofCode {n : Nat} (h : isHalfCode n = true) : half? (ofCode n) = some n := by
  have bounds : 0xD800 ≤ n ∧ n < 0xE000 := by simpa [isHalfCode] using h
  have valid : Nat.isValidChar (n + halfShift) := by
    unfold Nat.isValidChar halfShift
    omega
  have code : (Char.ofNat (n + halfShift)).toNat = n + halfShift := by
    rw [Char.ofNat, dif_pos valid]
    rfl
  simp [half?, ofCode, h, code]

def hasHalf (s : String) : Bool := s.toList.any fun c => (half? c).isSome

/-- The mark in place of a byte that cannot be read. -/
def unreadable : Char := Char.ofNat 0xFFFD

/-- A text in which each half is blotted out, as three bytes that cannot be read. -/
def blotHalves (s : String) : String :=
  String.ofList (s.toList.flatMap fun c =>
    if (half? c).isSome then [unreadable, unreadable, unreadable] else [c])

end CommandTree.Text
