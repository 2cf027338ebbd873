import CommandTree.Failure

/-!
The accessors of a context, called by their names with plain values. A position may be a truth value
or an integer; other values are refused in words that depend on what is done with them first.
-/

namespace CommandTree

def Value.integer? : Value → Option Int
  | .bool b => some b.toInt
  | .int n => some n
  | _ => none

namespace Context

inductive Accessor where
  | string
  | integer
  | double
  | joined
  | slice
  | hasFlag
  | flag
  | flagInteger
  | flagDouble
  deriving DecidableEq, Repr

namespace Accessor

def word : Accessor → String
  | string => "get_string"
  | integer => "get_integer"
  | double => "get_double"
  | joined => "get_joined_strings"
  | slice => "get_slice"
  | hasFlag => "has_flag"
  | flag => "get_flag"
  | flagInteger => "get_flag_integer"
  | flagDouble => "get_flag_double"

def all : List Accessor :=
  [string, integer, double, joined, slice, hasFlag, flag, flagInteger, flagDouble]

def ofWord? (word : String) : Option Accessor := all.find? (·.word == word)

theorem ofWord?_word (accessor : Accessor) : ofWord? accessor.word = some accessor := by
  cases accessor <;> decide

def parameter : Accessor → String
  | string | integer | double => "index"
  | joined | slice => "start"
  | hasFlag | flag | flagInteger | flagDouble => "flag"

def takesDefault : Accessor → Bool
  | joined | slice | hasFlag => false
  | _ => true

/-- The fault of a call with too few or too many arguments; the context itself counts as one. -/
def miscounted (accessor : Accessor) (count : Nat) : CommandTree.Fault :=
  let title := "CommandContext." ++ accessor.word ++ "()"
  .wrongSort <|
    if count = 0 then
      title ++ " missing 1 required positional argument: '" ++ accessor.parameter ++ "'"
    else
      title ++ " takes " ++ (if accessor.takesDefault then "from 2 to 3" else "2") ++
        s!" positional arguments but {count + 1} were given"

end Accessor

variable (c : Context)

def argsValue : Value := .list (c.args.map .str)

def flagsValue : Value := .list (c.sortedFlags.map fun flag => .str flag.toString)

def valuesValue : Value :=
  .map (c.values.entries.map fun (flag, text) => (.str flag.toString, .str text))

def property? : String → Option (Value × String)
  | "args" => some (c.argsValue, "tuple")
  | "flags" => some (c.flagsValue, "frozenset")
  | "value_flags" => some (c.valuesValue, "dict")
  | "command" => some (.str c.command, "str")
  | "args_length" => some (.int c.args.length, "int")
  | _ => none

/-! ## Positions -/

def argumentAt (v : Value) : Except CommandTree.Fault (Option String) :=
  match v.quantity? with
  | none => .error (.wrongSort
      ("'<=' not supported between instances of 'int' and '" ++ v.kindName ++ "'"))
  | some place =>
    if !(Numeral.Quantity.ofInt 0).le place ||
        !place.lt (.ofInt c.args.length) then .ok none
    else
      match v.integer? with
      | some index => .ok (c.argument? index)
      | none => .error (.wrongSort "tuple indices must be integers or slices, not float")

def isBeyond (v : Value) : Except CommandTree.Fault Bool :=
  match v.quantity? with
  | none => .error (.wrongSort
      ("'>=' not supported between instances of '" ++ v.kindName ++ "' and 'int'"))
  | some place => .ok ((Numeral.Quantity.ofInt c.args.length).le place)

def noArgumentAt (v : Value) : CommandTree.Fault :=
  .reading (if v.isWritable then .noArgument v.text else .longPosition)

def stringAt (v : Value) (given? : Option Value) : Except CommandTree.Fault Value := do
  match ← c.argumentAt v, given? with
  | some text, _ => return .str text
  | none, some given => return given
  | none, none => throw (noArgumentAt v)

/-- Reads the argument at a position. The default stands in for a position after the last one. -/
def numberAt (read : String → Except Fault Value) (v : Value) (given? : Option Value) :
    Except CommandTree.Fault Value := do
  if let some given := given? then
    if ← c.isBeyond v then return given
  match ← c.argumentAt v with
  | some text => (read text).mapError .reading
  | none => throw (noArgumentAt v)

/-- The arguments from a position on; null is the first position. -/
def sliceAt (v : Value) : Except CommandTree.Fault (List String) :=
  match v, v.integer? with
  | .null, _ => .ok c.args
  | _, some start => .ok (c.slice start)
  | _, none => .error (.wrongSort
      "slice indices must be integers or None or have an __index__ method")

def joinedAt (v : Value) : Except CommandTree.Fault Value := do
  if ← c.isBeyond v then throw (noArgumentAt v)
  return .str (" ".intercalate (← c.sliceAt v))

/-! ## Flags -/

def flagTextAt (v : Value) : Except CommandTree.Fault (Option String) :=
  match v with
  | .str flag => .ok (c.flag? flag)
  | _ => if v.isFixed then .ok none else .error (.notFixed v)

def hasFlagAt (v : Value) : Except CommandTree.Fault Value :=
  match v with
  | .str flag => .ok (.bool (c.hasFlag flag))
  | _ => if v.isFixed then .ok (.bool false) else .error (.notFixed v)

/-- Reads the value of a flag; a flag without one has the default, which is null if not given. -/
def flagAt (read : String → Except Fault Value) (v : Value) (given? : Option Value) :
    Except CommandTree.Fault Value := do
  match ← c.flagTextAt v with
  | some text => (read text).mapError .reading
  | none => return given?.getD .null

/-! ## Calls -/

def integerValue (text : String) : Except Fault Value := (integerOf text).map .int

def doubleValue (text : String) : Except Fault Value := (decimalOf text).map .float

def callWith (v : Value) (given? : Option Value) : Accessor → Except CommandTree.Fault Value
  | .string => c.stringAt v given?
  | .integer => c.numberAt integerValue v given?
  | .double => c.numberAt doubleValue v given?
  | .joined => c.joinedAt v
  | .slice => (c.sliceAt v).map fun texts => .list (texts.map .str)
  | .hasFlag => c.hasFlagAt v
  | .flag => c.flagAt (.ok ∘ .str) v given?
  | .flagInteger => c.flagAt integerValue v given?
  | .flagDouble => c.flagAt doubleValue v given?

def callAccessor (accessor : Accessor) : List Value → Except CommandTree.Fault Value
  | [v] => c.callWith v none accessor
  | [v, given] =>
    if accessor.takesDefault then c.callWith v (some given) accessor
    else .error (accessor.miscounted 2)
  | args => .error (accessor.miscounted args.length)

def call (name : Value) (args : List Value) : Except CommandTree.Fault Value :=
  match name with
  | .str word =>
    match Accessor.ofWord? word, c.property? word with
    | some accessor, _ => c.callAccessor accessor args
    | none, some (_, kind) => .error (.wrongSort ("'" ++ kind ++ "' object is not callable"))
    | none, none => .error (.lacks "CommandContext" word)
  | _ => .error (.wrongSort
      ("attribute name must be string, not '" ++ name.kindName ++ "'"))

end Context
end CommandTree
