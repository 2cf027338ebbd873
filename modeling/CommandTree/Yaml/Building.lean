import CommandTree.Yaml.Node
import CommandTree.Yaml.Scalar

/-!
A node is built once, however often it is met. A scalar is built on the spot; a collection is put on
an agenda and filled when the collections before it are. So graphs with cycles have values too, and
faults are found level by level.
-/

namespace CommandTree.Yaml

/-- What a node stands for. The parts of a collection are the objects of its nodes. -/
inductive Object where
  | plain (value : Value)
  /-- The one object of all words for no number. -/
  | noNumber
  | list (items : List NodeId)
  | map (entries : List (NodeId × NodeId))
  | pairs (entries : List (NodeId × NodeId))

structure Builder where
  graph : Graph
  objects : Array (Option Object)
  agenda : Array NodeId := #[]

abbrev Build := StateT Builder (Except Fault)

namespace Builder

def malformed {α : Type} : Build α := throw .malformed

def contentOf (id : NodeId) : Build Content := do return (← get).graph.content id

def tagOf (id : NodeId) : Build Tag := do return (← get).graph.tag id

def objectOf? (id : NodeId) : Build (Option Object) := do
  return ((← get).objects[id.index]?).join

def setObject (id : NodeId) (object : Object) : Build Unit :=
  modify fun builder => { builder with
    objects := builder.objects.setIfInBounds id.index (some object) }

def setContent (id : NodeId) (content : Content) : Build Unit :=
  modify fun builder => { builder with graph := builder.graph.setContent id content }

def setTag (id : NodeId) (tag : Tag) : Build Unit :=
  modify fun builder => { builder with graph := builder.graph.setTag id tag }

/-- How many steps a merge or a default may lead on. -/
def longestPath : Nat := 970

/-! ## Scalars -/

/-- The text of a scalar, or of the scalar that stands for a mapping. -/
def scalarText (graph : Graph) : Nat → NodeId → Except Fault String
  | 0, _ => .error .tooDeep
  | depth + 1, id =>
    match graph.content id with
    | .scalar text => .ok text
    | .sequence _ => .error .malformed
    | .mapping entries =>
      match entries.find? fun entry => graph.tag entry.1 = .default with
      | some (_, value) => scalarText graph depth value
      | none => .error .malformed

def scalarObject (graph : Graph) (id : NodeId) : Except Fault Object := do
  let text ← scalarText graph longestPath id
  match graph.tag id, graph.content id with
  | .null, _ => return .plain .null
  | .truth, _ => return .plain (← Scalar.truth text)
  | .whole, _ => return .plain (← Scalar.whole text)
  | .fraction, _ =>
    if Scalar.isNoNumber text then return .noNumber else return .plain (← Scalar.fraction text)
  | .binary, _ => return .plain (← Scalar.binary text)
  | .stamp, .mapping _ => throw .stampOfMapping
  | .stamp, _ => return .plain (← Scalar.stamp text)
  | _, _ => return .plain (.str text)

/-- Builds a node unless it is built; a collection is left empty for now. -/
def build (id : NodeId) : Build Unit := do
  if (← objectOf? id).isSome then return
  match ← tagOf id with
  | .sequence | .mapping | .set | .orderedMap | .pairs =>
    setObject id (.list [])
    modify fun builder => { builder with agenda := builder.agenda.push id }
  | .merge | .default | .other => malformed
  | _ => setObject id (← scalarObject (← get).graph id)

/-! ## Merges -/

def entriesOf (id : NodeId) : Build (List (NodeId × NodeId)) := do
  match ← contentOf id with
  | .mapping entries => return entries
  | _ => malformed

/-- The entries that a merge takes in: those of a mapping, or of a row of mappings, the last
first. Each is merged by `merge` before. -/
def mergedEntries (merge : NodeId → Build Unit) (id : NodeId) :
    Build (List (NodeId × NodeId)) := do
  match ← contentOf id with
  | .mapping _ =>
    merge id
    entriesOf id
  | .sequence items =>
    let parts ← items.mapM fun item => do
      let _ ← entriesOf item
      merge item
      entriesOf item
    return parts.reverse.flatten
  | .scalar _ => malformed

def finishMerge (id : NodeId) (taken : List (NodeId × NodeId)) : Build Unit := do
  if !taken.isEmpty then setContent id (.mapping (taken ++ (← entriesOf id)))

/-- Goes through the entries of a mapping of which `done` are left in. A mapping that comes across
itself has been gone through by then. -/
def mergeFrom (merge : NodeId → Build Unit) (id : NodeId) (done taken : List (NodeId × NodeId)) :
    List (NodeId × NodeId) → Build Unit
  | [] => finishMerge id taken
  | (key, value) :: rest => do
    match ← tagOf key with
    | .merge =>
      let left := done ++ rest
      setContent id (.mapping left)
      let more ← mergedEntries merge value
      if (← entriesOf id) = left then mergeFrom merge id done (taken ++ more) rest
      else finishMerge id (taken ++ more)
    | .default =>
      setTag key .text
      mergeFrom merge id (done ++ [(key, value)]) taken rest
    | _ => mergeFrom merge id (done ++ [(key, value)]) taken rest

/-- Takes in what the merges of a mapping lead to, over so many steps. -/
def merge : Nat → NodeId → Build Unit
  | 0, _ => throw .tooDeep
  | depth + 1, id => do mergeFrom (merge depth) id [] [] (← entriesOf id)

/-! ## Collections -/

def sameKey (k l : NodeId) : Build Bool := do
  if k = l then return true
  match ← objectOf? k, ← objectOf? l with
  | some .noNumber, some .noNumber => return true
  | some (.plain v), some (.plain w) => return v.agrees w
  | _, _ => return false

def putEntry (key value : NodeId) : List (NodeId × NodeId) → Build (List (NodeId × NodeId))
  | [] => return [(key, value)]
  | (other, old) :: rest => do
    if ← sameKey other key then return (other, value) :: rest
    return (other, old) :: (← putEntry key value rest)

/-- Only scalars can be keys. -/
def checkKey (id : NodeId) : Build Unit := do
  match ← objectOf? id with
  | some (.plain _) | some .noNumber => return
  | _ => malformed

def buildEntries (found : List (NodeId × NodeId)) :
    List (NodeId × NodeId) → Build (List (NodeId × NodeId))
  | [] => return found
  | (key, value) :: rest => do
    build key
    checkKey key
    build value
    buildEntries (← putEntry key value found) rest

def mappingEntries (id : NodeId) : Build (List (NodeId × NodeId)) := do
  let _ ← entriesOf id
  merge longestPath id
  buildEntries [] (← entriesOf id)

def itemsOf (id : NodeId) : Build (List NodeId) := do
  match ← contentOf id with
  | .sequence items => return items
  | _ => malformed

/-- Builds the mappings of one entry that a row consists of. -/
def buildPairs : List NodeId → Build (List (NodeId × NodeId))
  | [] => return []
  | id :: rest => do
    match ← contentOf id with
    | .mapping [(key, value)] =>
      build key
      build value
      return (key, value) :: (← buildPairs rest)
    | _ => malformed

def fill (id : NodeId) : Build Unit := do
  match ← tagOf id with
  | .sequence =>
    let items ← itemsOf id
    items.forM build
    setObject id (.list items)
  | .mapping => setObject id (.map (← mappingEntries id))
  | .set => setObject id (.list ((← mappingEntries id).map (·.1)))
  | _ => setObject id (.pairs (← buildPairs (← itemsOf id)))

/-- Fills the collections of the agenda from one on. Every node is on it once at most. -/
def fillFrom (place : Nat) : Nat → Build Unit
  | 0 => return
  | fuel + 1 => do
    match (← get).agenda[place]? with
    | none => return
    | some id =>
      fill id
      fillFrom (place + 1) fuel

/-! ## Values -/

def valueWith (known : NodeId → Value) : Object → Value
  | .plain value => value
  | .noNumber => .float (0 / 0)
  | .list items => .list (items.map known)
  | .map entries => .map (entries.map fun (key, value) => (known key, known value))
  | .pairs entries => .list (entries.map fun (key, value) => .list [known key, known value])

/-- The values of all objects down to a depth; beyond it collections are hollow. -/
def valuesTo (objects : Array (Option Object)) : Nat → Array Value
  | 0 => objects.map fun
    | some (.plain value) => value
    | some .noNumber => .float (0 / 0)
    | _ => .foreign "object" "..." ""
  | depth + 1 =>
    let below := valuesTo objects depth
    objects.map fun
      | some object => valueWith (fun id => below[id.index]?.getD .null) object
      | none => .null

/-- How deep readers look into a value. -/
def shownDepth : Nat := 8

def value (graph : Graph) (root : NodeId) : Except Fault Value := do
  let start : Builder := { graph, objects := Array.replicate graph.nodes.size none }
  let run : Build Unit := do
    build root
    fillFrom 0 (graph.nodes.size + 1)
  let (_, built) ← run.run start
  return (valuesTo built.objects shownDepth)[root.index]?.getD .null

end Builder
end CommandTree.Yaml
