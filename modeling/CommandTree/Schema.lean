import CommandTree.Numeral.Lenient
import CommandTree.Text.Half
import CommandTree.Value

/-!
Every fault is reported with the path to its place; the faults of several fields are collected.
-/

namespace CommandTree.Schema

inductive Step where
  | key (name : String)
  | index (n : Int)
  deriving DecidableEq, Repr

inductive Issue where
  | missing
  | notModel
  | notMap
  | notList
  | notText
  | badEncoding
  | notTruth
  | notWhole
  | badTruth
  | badWhole
  | hugeWhole
  | fractional
  | notFinite
  | textTooLong
  | listTooShort
  | tooSmall
  | badKey
  | unknownKey
  | refused (reason : String)
  deriving DecidableEq, Repr

def Issue.word : Issue → String
  | missing => "missing"
  | notModel => "model_type"
  | notMap => "dict_type"
  | notList => "list_type"
  | notText => "string_type"
  | badEncoding => "string_unicode"
  | notTruth => "bool_type"
  | notWhole => "int_type"
  | badTruth => "bool_parsing"
  | badWhole => "int_parsing"
  | hugeWhole => "int_parsing_size"
  | fractional => "int_from_float"
  | notFinite => "finite_number"
  | textTooLong => "string_too_long"
  | listTooShort => "too_short"
  | tooSmall => "greater_than_equal"
  | badKey => "invalid_key"
  | unknownKey => "extra_forbidden"
  | refused _ => "value_error"

structure Located where
  path : List Step
  issue : Issue
  deriving DecidableEq, Repr

/-- A value that met its schema, or everything that is wrong with it. -/
inductive Checked (α : Type) where
  | valid (value : α)
  | faulty (faults : List Located)
  deriving Repr

namespace Checked
variable {α β : Type}

def fault (issue : Issue) : Checked α := .faulty [⟨[], issue⟩]

def map (f : α → β) : Checked α → Checked β
  | valid a => valid (f a)
  | faulty faults => faulty faults

/-- Goes on only with a valid value. -/
def bind : Checked α → (α → Checked β) → Checked β
  | valid a, f => f a
  | faulty faults, _ => faulty faults

/-- Applies a function to its argument; faults of both are kept, in order. -/
def apply : Checked (α → β) → Checked α → Checked β
  | valid f, valid a => valid (f a)
  | valid _, faulty faults => faulty faults
  | faulty faults, valid _ => faulty faults
  | faulty faults, faulty more => faulty (faults ++ more)

def under (step : Step) : Checked α → Checked α
  | valid a => valid a
  | faulty faults =>
    faulty (faults.map fun located => { located with path := step :: located.path })

def all (check : Nat → α → Checked β) : Nat → List α → Checked (List β)
  | _, [] => valid []
  | n, item :: rest => ((check n item).map List.cons).apply (all check (n + 1) rest)

def demand (checked : Checked α) (ok : α → Bool) (issue : Issue) : Checked α :=
  checked.bind fun a => if ok a then valid a else fault issue

end Checked

def wordLimit : Int := 0x8000000000000000

def fitsWord (n : Int) : Bool := -wordLimit ≤ n && n < wordLimit

def keyStep (key : Value) : Step :=
  match key with
  | .str s => .key (Text.blotHalves s)
  | .bool b => .index b.toInt
  | .int n =>
    if fitsWord n then .index n
    else .key (if key.isWritable then key.written else "<unprintable int object>")
  | _ => .key key.written

def decode? (data : List UInt8) : Option String := String.fromUTF8? ⟨data.toArray⟩

def readText : Value → Checked String
  | .str s => .valid s
  | .bytes data =>
    match decode? data with
    | some s => .valid s
    | none => .fault .badEncoding
  | _ => .fault .notText

def truthWords : List (String × Bool) :=
  [("0", false), ("off", false), ("f", false), ("false", false), ("n", false), ("no", false),
    ("1", true), ("on", true), ("t", true), ("true", true), ("y", true), ("yes", true)]

def truthOfWhole (n : Int) : Checked Bool :=
  if n = 0 then .valid false else if n = 1 then .valid true else .fault .badTruth

/-- The integer that a double is, if it lies strictly between the ends of a word of 64 bits. -/
def wordOf (x : Float) : Checked Int :=
  if x.isNaN || x.isInf then .fault .notFinite
  else
    match Numeral.whole? x with
    | none => .fault .fractional
    | some n => if -wordLimit < n && n < wordLimit then .valid n else .fault .hugeWhole

/-- A truth value, zero, one, or one of twelve words in any letter case. -/
def readTruth : Value → Checked Bool
  | .bool b => .valid b
  | .str s =>
    match truthWords.lookup (String.ofList (s.toList.map Char.toLower)) with
    | some b => .valid b
    | none => .fault .badTruth
  | .int n => if fitsWord n then truthOfWhole n else .fault .notTruth
  | .float x =>
    match wordOf x with
    | .valid n => truthOfWhole n
    | .faulty _ => .fault .notTruth
  | _ => .fault .notTruth

def readWrittenWhole (s : String) : Checked Int :=
  if Text.hasHalf s then .fault .badEncoding
  else
    match Numeral.readLenient s with
    | .ok n => .valid n
    | .error .malformed => .fault .badWhole
    | .error (.tooLong _) => .fault .hugeWhole

/-- An integer, a truth value as one or zero, a whole double, or a written integer. -/
def readWhole : Value → Checked Int
  | .bool b => .valid b.toInt
  | .int n => .valid n
  | .float x => wordOf x
  | .str s => readWrittenWhole s
  | .bytes data =>
    match decode? data with
    | some s => readWrittenWhole s
    | none => .fault .badWhole
  | _ => .fault .notWhole

def readList {α : Type} (read : Value → Checked α) : Value → Checked (List α)
  | .list items => Checked.all (fun n item => (read item).under (.index n)) 0 items
  | _ => .fault .notList

/-- A list of texts; one text alone counts as a list of it. -/
def readTexts : Value → Checked (List String)
  | .str s => .valid [s]
  | v => readList readText v

/-- A key with half of a pair in it, which cannot be held against the names of fields. -/
def isBroken : Value → Bool
  | .str s => Text.hasHalf s
  | _ => false

/-- A map that is read as a record. A broken key is the only fault that is reported of it. -/
def readRecord {α : Type} (read : List (Value × Value) → Checked α) : Value → Checked α
  | .map fields =>
    if fields.any fun field => isBroken field.1 then .fault .badEncoding else read fields
  | _ => .fault .notModel

def field? (fields : List (Value × Value)) (name : String) : Option Value :=
  (fields.find? fun field => field.1.agrees (.str name)).map (·.2)

def readField {α : Type} (fields : List (Value × Value)) (name : String) (absent : Checked α)
    (read : Value → Checked α) : Checked α :=
  match field? fields name with
  | some v => (read v).under (.key name)
  | none => absent

def needField {α : Type} (fields : List (Value × Value)) (name : String)
    (read : Value → Checked α) : Checked α :=
  readField fields name (Checked.under (.key name) (.fault .missing)) read

/-- Faults for the keys outside a list of names, in the order of the keys. -/
def onlyNames (fields : List (Value × Value)) (names : List String) : Checked Unit :=
  match fields.filterMap (fun field =>
    match field.1 with
    | .str s => if names.contains s then none else some ⟨[.key s], .unknownKey⟩
    | key => some ⟨[keyStep key], .badKey⟩) with
  | [] => .valid ()
  | faults => .faulty faults

end CommandTree.Schema
