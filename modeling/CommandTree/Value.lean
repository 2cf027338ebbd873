import CommandTree.Numeral.Integer
import CommandTree.Numeral.Quantity
import CommandTree.Numeral.Shortest
import CommandTree.Text.Quoted

namespace CommandTree

/-- A plain value. A map keeps the order in which its keys came; a foreign value is known only by
its kind, its written form, and what makes it the same as others of its kind. -/
inductive Value where
  | null
  | bool (b : Bool)
  | int (n : Int)
  | float (x : Float)
  | str (s : String)
  | bytes (data : List UInt8)
  | list (items : List Value)
  | map (entries : List (Value × Value))
  | foreign (kind written essence : String)

namespace Value

instance : Inhabited Value := ⟨.null⟩

mutual

def written : Value → String
  | null => "None"
  | bool true => "True"
  | bool false => "False"
  | int n => toString n
  | float x => Numeral.floatText x
  | str s => Text.quoted s
  | bytes data => Text.quotedBytes data
  | list items => "[" ++ ", ".intercalate (writtenItems items) ++ "]"
  | map entries => "\x7b" ++ ", ".intercalate (writtenEntries entries) ++ "\x7d"
  | foreign _ text _ => text

def writtenItems : List Value → List String
  | [] => []
  | item :: rest => written item :: writtenItems rest

def writtenEntries : List (Value × Value) → List String
  | [] => []
  | (key, value) :: rest => (written key ++ ": " ++ written value) :: writtenEntries rest

end

/-- The text of a value that is a message by itself: a text stands for itself. -/
def text : Value → String
  | str s => s
  | v => v.written

mutual

def isWritable : Value → Bool
  | int n => Numeral.isWritable n
  | list items => isWritableItems items
  | map entries => isWritableEntries entries
  | _ => true

def isWritableItems : List Value → Bool
  | [] => true
  | item :: rest => isWritable item && isWritableItems rest

def isWritableEntries : List (Value × Value) → Bool
  | [] => true
  | (key, value) :: rest => isWritable key && isWritable value && isWritableEntries rest

end

def writtenRow (items : List Value) : String :=
  "(" ++ ", ".intercalate (writtenItems items) ++ ")"

/-- Null, false, zero and what is empty do not hold. -/
def holds : Value → Bool
  | null => false
  | bool b => b
  | int n => n != 0
  | float x => !(x == 0)
  | str s => s != ""
  | bytes data => !data.isEmpty
  | list items => !items.isEmpty
  | map entries => !entries.isEmpty
  | foreign _ _ _ => true

def kindName : Value → String
  | null => "NoneType"
  | bool _ => "bool"
  | int _ => "int"
  | float _ => "float"
  | str _ => "str"
  | bytes _ => "bytes"
  | list _ => "list"
  | map _ => "dict"
  | foreign kind _ _ => kind

/-- The integer that a truth value, an integer or a whole double stands for. -/
def whole? : Value → Option Int
  | bool b => some b.toInt
  | int n => some n
  | float x => Numeral.whole? x
  | _ => none

def quantity? : Value → Option Numeral.Quantity
  | bool b => some (.ofInt b.toInt)
  | int n => some (.ofInt n)
  | float x => some (.ofFloat x)
  | _ => none

/-- Lists and maps may change, so nothing can be filed under them. -/
def isFixed : Value → Bool
  | list _ | map _ => false
  | _ => true

mutual

/-- Equality of values. Numbers compare by size whatever their sort, and true and false are one and
zero; the order of a map's keys does not count. -/
def agrees : Value → Value → Bool
  | null, null => true
  | str s, str t => s == t
  | bytes xs, bytes ys => xs == ys
  | list xs, list ys => agreesItems xs ys
  | map xs, map ys => xs.length == ys.length && agreesEntries xs ys
  | foreign k _ s, foreign l _ t => k == l && s == t
  | float x, float y => x == y
  | v, w =>
    match v.whole?, w.whole? with
    | some m, some n => m == n
    | _, _ => false

def agreesItems : List Value → List Value → Bool
  | [], [] => true
  | x :: xs, y :: ys => agrees x y && agreesItems xs ys
  | _, _ => false

def agreesEntries : List (Value × Value) → List (Value × Value) → Bool
  | [], _ => true
  | (key, value) :: rest, others =>
    others.any (fun other => agrees key other.1 && agrees value other.2) &&
      agreesEntries rest others

end

/-- Sets the value of a key; a key that is there keeps its place. -/
def put (entries : List (Value × Value)) (key value : Value) : List (Value × Value) :=
  if entries.any (·.1.agrees key) then
    entries.map fun entry => if entry.1.agrees key then (entry.1, value) else entry
  else entries ++ [(key, value)]

end Value
end CommandTree
