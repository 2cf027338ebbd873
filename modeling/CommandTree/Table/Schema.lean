import CommandTree.Ordered
import CommandTree.Schema

namespace CommandTree.Table
open Schema

structure Entry where
  name : String
  synonyms : List String
  desc : String
  usage : String
  flags : String
  minArgs : Int
  maxArgs : Int
  permissions : List String
  handler : Option String
  nested : List String
  deriving DecidableEq, Repr

def Entry.aliases (e : Entry) : List String := e.name :: e.synonyms

def Entry.reference? (e : Entry) : Option String := e.handler.filter (· ≠ "")

namespace Entry

def readAliases (v : Value) : Checked (String × List String) :=
  (readTexts v).bind fun names =>
    match names with
    | [] => .fault .listTooShort
    | name :: synonyms => .valid (name, synonyms)

def readBound (least : Int) (v : Value) : Checked Int :=
  (readWhole v).demand (least ≤ ·) .tooSmall

def readHandler : Value → Checked (Option String)
  | .null => .valid none
  | v => (readText v).map some

/-- The spelling of a bound: the short one, or else the long one. -/
def boundName (fields : List (Value × Value)) (short long : String) : String :=
  if (field? fields short).isSome then short else long

def ofParts (aliases : String × List String) (desc usage flags : String) (minArgs maxArgs : Int)
    (permissions : List String) (handler : Option String) (nested : List String) (_ : Unit) :
    Entry :=
  { name := aliases.1, synonyms := aliases.2, desc, usage, flags, minArgs, maxArgs, permissions,
    handler, nested }

/-- Reads the fields of an entry in the order of its declaration, then the unknown ones. -/
def readFields (fields : List (Value × Value)) : Checked Entry :=
  let least := boundName fields "min" "min_args"
  let most := boundName fields "max" "max_args"
  let names := ["aliases", "desc", "usage", "flags", least, most, "permissions", "handler",
    "nested"]
  let text := fun name => readField fields name (.valid "") readText
  let texts := fun name => readField fields name (.valid []) readTexts
  (needField fields "aliases" readAliases).map ofParts
    |>.apply (text "desc")
    |>.apply (text "usage")
    |>.apply (text "flags")
    |>.apply (readField fields least (.valid 0) (readBound 0))
    |>.apply (readField fields most (.valid (-1)) (readBound (-1)))
    |>.apply (texts "permissions")
    |>.apply (readField fields "handler" (.valid none) readHandler)
    |>.apply (texts "nested")
    |>.apply (onlyNames fields names)

def hasOneBody (e : Entry) : Bool := e.reference?.isSome != !e.nested.isEmpty

def read : Value → Checked Entry :=
  readRecord fun fields =>
    (readFields fields).bind fun e =>
      if e.hasOneBody then .valid e
      else .fault (.refused ("Command " ++ Text.quoted e.name ++
        " needs exactly one of 'handler' or 'nested'"))

end Entry
end Table

/-- Groups of commands by name, and the name of the group to start from. -/
structure Table where
  root : String
  groups : List (String × List Table.Entry)
  deriving DecidableEq, Repr

namespace Table
open Schema

def readName (key : Value) : Checked String := (readText key).under (.key "[key]")

/-- Sets the entries of a group; a name that is there keeps its place. -/
def putGroup (groups : Ordered String (List Entry)) (group : String × List Entry) :
    Ordered String (List Entry) :=
  groups.put group.1 group.2

/-- Reads each group with its name; a name that is no text does not spare the group. Of two groups
with one name the later one counts. -/
def readGroups : Value → Checked (List (String × List Entry))
  | .map groups =>
    (Checked.all (fun _ (group : Value × Value) =>
      ((readName group.1).map Prod.mk |>.apply (readList Entry.read group.2)).under
        (keyStep group.1)) 0 groups).map fun read => (read.foldl putGroup ∅).entries
  | _ => .fault .notMap

def readFields (fields : List (Value × Value)) : Checked Table :=
  (readField fields "root" (.valid "root") readText).map (fun root groups (_ : Unit) =>
      Table.mk root groups)
    |>.apply (needField fields "groups" readGroups)
    |>.apply (onlyNames fields ["root", "groups"])

variable (table : Table)

def names : List String := table.groups.map (·.1)

/-- The first entry, with its group, that nests a group which does not exist. -/
def dangling? : Option (String × Entry × String) :=
  table.groups.findSome? fun (group, entries) =>
    entries.findSome? fun e =>
      (e.nested.find? (!table.names.contains ·)).map fun nested => (group, e, nested)

def rootMissing : Issue :=
  .refused ("Root group " ++ Text.quoted table.root ++ " is not defined")

def close : Checked Table :=
  if !table.names.contains table.root then .fault table.rootMissing
  else
    match table.dangling? with
    | none => .valid table
    | some (group, e, nested) => .fault (.refused ("Command " ++ Text.quoted e.name ++
        " in group " ++ Text.quoted group ++ " nests unknown group " ++ Text.quoted nested))

def read : Value → Checked Table :=
  readRecord fun fields => (readFields fields).bind close

end Table
end CommandTree
