import CommandTree.Declaration
import CommandTree.Reference
import CommandTree.Table.Schema

/-!
A table becomes a graph of groups: one group for each name, so that names used twice share a group
and a name may lead back to itself.
-/

namespace CommandTree

inductive LoadFault where
  | registration (fault : RegistrationFault)
  | schema (faults : List Schema.Located)
  | reference (fault : Reference.Fault)
  | declaration (fault : DeclarationFault)

namespace Table

structure Building where
  catalog : Catalog
  resolver : Resolver
  records : List LogRecord := []

def emptyGroups (catalog : Catalog) : List String → List (String × GroupId) × Catalog
  | [] => ([], catalog)
  | name :: rest =>
    let (id, grown) := catalog.newGroup (.str name)
    let (ids, final) := emptyGroups grown rest
    ((name, id) :: ids, final)

namespace Entry

def draft (groups : List (String × GroupId)) (e : Entry) (handler : Option Handler) : Draft where
  aliases := .list (e.aliases.map .str)
  handler := handler
  desc := .str e.desc
  usage := .str e.usage
  flags := .str e.flags
  minArgs := .int e.minArgs
  maxArgs := .int e.maxArgs
  permissions := .list (e.permissions.map .str)
  nested := e.nested.filterMap fun name => (groups.lookup name).map .group

def declare (groups : List (String × GroupId)) (id : GroupId) (e : Entry)
    (handler : Option Handler) (building : Building) : Building × Option LoadFault :=
  match (e.draft groups handler).check building.catalog with
  | .error fault => (building, some (.declaration fault))
  | .ok d => ({ building with catalog := (building.catalog.declare id d).2 }, none)

def build (groups : List (String × GroupId)) (id : GroupId) (e : Entry) (building : Building) :
    Building × Option LoadFault :=
  match e.reference? with
  | none => e.declare groups id none building
  | some reference =>
    let resolution := building.resolver.resolve reference
    let resolved := { building with
      resolver := resolution.resolver
      records := building.records ++ resolution.records }
    match resolution.outcome with
    | .error fault => (resolved, some (.reference fault))
    | .ok (_, handler) => e.declare groups id (some handler) resolved

end Entry

def buildAll (groups : List (String × GroupId)) (building : Building) :
    List (GroupId × Entry) → Building × Option LoadFault
  | [] => (building, none)
  | (id, e) :: rest =>
    match e.build groups id building with
    | (built, none) => buildAll groups built rest
    | (built, some fault) => (built, some fault)

def placed (table : Table) (groups : List (String × GroupId)) : List (GroupId × Entry) :=
  table.groups.flatMap fun (name, entries) =>
    match groups.lookup name with
    | some id => entries.map fun e => (id, e)
    | none => []

end Table

/-- The groups of a table by name, and the root among them. -/
structure Loaded where
  catalog : Catalog
  groups : List (String × GroupId)
  root : GroupId

/-- How loading ended; the log; and the resolver afterwards. -/
structure Loading where
  outcome : Except LoadFault Loaded
  records : List LogRecord := []
  resolver : Resolver

namespace Table

def loadedRecord (table : Table) (origin : String) : LogRecord where
  severity := .info
  text := s!"Loaded {(table.groups.flatMap (·.2)).length} commands in " ++
    s!"{table.groups.length} groups from " ++ origin

def build (table : Table) (origin : String) (catalog : Catalog) (resolver : Resolver) : Loading :=
  let (groups, grown) := emptyGroups catalog table.names
  let (building, fault?) := buildAll groups { catalog := grown, resolver } (table.placed groups)
  match fault?, groups.lookup table.root with
  | some fault, _ =>
    { outcome := .error fault, records := building.records, resolver := building.resolver }
  | none, none =>
    { outcome := .error (.schema [⟨[], table.rootMissing⟩]), records := building.records,
      resolver := building.resolver }
  | none, some root => {
      outcome := .ok { catalog := building.catalog, groups, root }
      records := building.records ++ [table.loadedRecord origin]
      resolver := building.resolver }

def load (data : Value) (origin : String) (catalog : Catalog) (resolver : Resolver) : Loading :=
  match data with
  | .map _ =>
    match read data with
    | .valid table => table.build origin catalog resolver
    | .faulty faults => { outcome := .error (.schema faults), resolver }
  | _ => { outcome := .error (.registration (.notMapping origin)), resolver }

end Table
end CommandTree
