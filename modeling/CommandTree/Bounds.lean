import CommandTree.Value

/-!
Hosts declare bounds as numbers of any sort; what counts is which numbers of arguments they admit.
-/

namespace CommandTree

/-- A number, or beyond all numbers. -/
inductive Bound where
  | finite (n : Nat)
  | infinite
  deriving DecidableEq, Repr, Inhabited

namespace Bound

def isReached (n : Nat) : Bound → Bool
  | finite least => least ≤ n
  | infinite => false

def isKept (n : Nat) : Bound → Bool
  | finite most => n ≤ most
  | infinite => true

end Bound

structure Bounds where
  least : Bound := .finite 0
  most : Bound := .infinite
  deriving DecidableEq, Repr, Inhabited

namespace Bounds
open Numeral

def admits (bounds : Bounds) (n : Nat) : Bool :=
  bounds.least.isReached n && bounds.most.isKept n

/-- The numbers that are not below a quantity; what is no number bounds nothing. -/
def leastOf : Quantity → Bound
  | .endless false => .infinite
  | place => .finite (place.ceil?.getD 0).toNat

/-- The numbers that are not above a quantity; minus one stands for no bound. -/
def mostOf (place : Quantity) : Bound :=
  if place.same (.ofInt (-1)) then .infinite
  else
    match place.floor? with
    | some n => .finite n.toNat
    | none => .infinite

inductive Objection where
  | negativeMinimum
  | badMaximum
  | crossed
  deriving DecidableEq, Repr

def objectionTo (minimum maximum : Quantity) : Option Objection :=
  if minimum.lt (.ofInt 0) then some .negativeMinimum
  else if maximum.lt (.ofInt (-1)) then some .badMaximum
  else if !maximum.same (.ofInt (-1)) && maximum.lt minimum then some .crossed
  else none

end Bounds
end CommandTree
