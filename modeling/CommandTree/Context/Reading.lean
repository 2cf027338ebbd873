import CommandTree.Context
import CommandTree.Numeral.Decimal

namespace CommandTree.Context

/-- Why an argument or a flag value cannot be read. A position is in its written form. -/
inductive Fault where
  | noArgument (position : String)
  | longPosition
  | notInteger (text : String) (fault : Numeral.Fault)
  | notDecimal (text : String)
  deriving DecidableEq, Repr

def Fault.message : Fault → String
  | noArgument position => "No argument at position " ++ position
  | longPosition => Numeral.tooLongToWrite
  | notInteger text fault => fault.message 10 text
  | notDecimal text => "could not convert string to float: " ++ Text.quoted text

inductive Answer (α δ : Type) where
  | read (value : α)
  | fallback (given : δ)
  deriving DecidableEq, Repr

def integerOf (text : String) : Except Fault Int :=
  (Numeral.readInteger text).mapError (.notInteger text)

def decimalOf (text : String) : Except Fault Float :=
  match Numeral.readFloat? text with
  | some x => .ok x
  | none => .error (.notDecimal text)

section Positional
variable {δ : Type} (c : Context)

def Fault.absent (index : Int) : Fault :=
  if Numeral.isWritable index then .noArgument (toString index) else .longPosition

/-- The argument at a position, counted from zero. -/
def argument? (index : Int) : Option String :=
  if 0 ≤ index then c.args[index.toNat]? else none

def string (index : Int) : Except Fault String :=
  match c.argument? index with
  | some text => .ok text
  | none => .error (.absent index)

def stringOr (index : Int) (given : δ) : Answer String δ :=
  match c.argument? index with
  | some text => .read text
  | none => .fallback given

def integer (index : Int) : Except Fault Int := do integerOf (← c.string index)

/-- The default stands in for a position after the last argument, not for one before the first. -/
def integerOr (index : Int) (given : δ) : Except Fault (Answer Int δ) :=
  if c.args.length ≤ index then .ok (.fallback given)
  else (c.integer index).map .read

def double (index : Int) : Except Fault Float := do decimalOf (← c.string index)

def doubleOr (index : Int) (given : δ) : Except Fault (Answer Float δ) :=
  if c.args.length ≤ index then .ok (.fallback given)
  else (c.double index).map .read

/-- The arguments from a position on; a negative position counts from the end. -/
def slice (start : Int) : List String :=
  c.args.drop (if start < 0 then c.args.length + start else start).toNat

end Positional

section Flags
variable (c : Context)

def letter? (flag : String) : Option Char :=
  match flag.toList with
  | [c] => some c
  | _ => none

def hasFlag (flag : String) : Bool :=
  match letter? flag with
  | some letter => letter ∈ c.flags
  | none => false

def flag? (flag : String) : Option String := do c.values.get? (← letter? flag)

end Flags

end CommandTree.Context
