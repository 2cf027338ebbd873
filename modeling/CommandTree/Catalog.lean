import CommandTree.Definition

/-! A group may be nested under several commands, its own included. Definitions do not change. -/

namespace CommandTree

/-- A group is shown by its name, which may be any value. -/
structure Group where
  name : Value := .str ""
  members : List DefId := []
  deriving Inhabited

structure Catalog where
  groups : Array Group := #[]
  definitions : Array Definition := #[]

namespace Catalog
variable (catalog : Catalog)

def group (id : GroupId) : Group := catalog.groups[id.index]?.getD {}

def definition (id : DefId) : Definition := catalog.definitions[id.index]?.getD default

def members (id : GroupId) : List DefId := (catalog.group id).members

def name (id : DefId) : String := (catalog.definition id).name

/-- The definitions that are declared under a command, provider by provider. -/
def declaredUnder (id : DefId) : List DefId :=
  (catalog.definition id).nested.flatMap catalog.members

def newGroup (name : Value) : GroupId × Catalog :=
  (⟨catalog.groups.size⟩, { catalog with groups := catalog.groups.push { name } })

def define (d : Definition) : DefId × Catalog :=
  (⟨catalog.definitions.size⟩, { catalog with definitions := catalog.definitions.push d })

def add (id : GroupId) (d : DefId) : Catalog :=
  { catalog with
    groups := catalog.groups.modify id.index fun g => { g with members := g.members ++ [d] } }

def declare (id : GroupId) (d : Definition) : DefId × Catalog :=
  let (new, grown) := catalog.define d
  (new, grown.add id new)

def writtenGroup (id : GroupId) : String :=
  "CommandGroup(" ++ (catalog.group id).name.written ++
    s!", {(catalog.members id).length} commands)"

end Catalog
end CommandTree
