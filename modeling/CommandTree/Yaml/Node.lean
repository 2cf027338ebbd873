import CommandTree.Yaml.Tag
import CommandTree.Yaml.Token.Lexer

/-!
A document is a graph of scalars, sequences and mappings: an alias stands for the very node with its
anchor, which may be a node around it. Nodes are read token by token, so that the first fault of a
text is the one that is reported.
-/

namespace CommandTree.Yaml

structure NodeId where
  index : Nat
  deriving DecidableEq, Repr

inductive Content where
  | scalar (text : String)
  | sequence (items : List NodeId)
  | mapping (entries : List (NodeId × NodeId))
  deriving DecidableEq, Repr

structure Node where
  tag : Tag
  content : Content
  deriving DecidableEq, Repr

structure Graph where
  nodes : Array Node := #[]

namespace Graph
variable (graph : Graph)

def absent : Node := ⟨.null, .scalar ""⟩

def node (id : NodeId) : Node := graph.nodes[id.index]?.getD absent

def tag (id : NodeId) : Tag := (graph.node id).tag

def content (id : NodeId) : Content := (graph.node id).content

def add (node : Node) : NodeId × Graph :=
  (⟨graph.nodes.size⟩, { graph with nodes := graph.nodes.push node })

def setTag (id : NodeId) (tag : Tag) : Graph :=
  { graph with nodes := graph.nodes.modify id.index fun node => { node with tag } }

def setContent (id : NodeId) (content : Content) : Graph :=
  { graph with nodes := graph.nodes.modify id.index fun node => { node with content } }

end Graph

namespace Graph

/-- The text to be read, the nodes and anchors met, and the tag handles of the document. -/
structure Reader where
  lexer : Lexer
  graph : Graph := {}
  anchors : List (String × NodeId) := []
  handles : List (String × String) := []

abbrev Read := StateT Reader (Except Fault)

namespace Reader

def malformed {α : Type} : Read α := throw .malformed

def peek : Read Token := do
  let reader ← get
  let (token, lexer) ← reader.lexer.peek
  set { reader with lexer }
  return token

def skip : Read Unit := modify fun reader => { reader with lexer := reader.lexer.take }

def expect (token : Token) : Read Unit := do
  if (← peek) == token then skip else malformed

def accept (token : Token) : Read Bool := do
  if (← peek) == token then
    skip
    return true
  return false

/-! ## Nodes -/

/-- Adds a node under its anchor, which has to be new. -/
def enter (anchor? : Option String) (node : Node) : Read NodeId := do
  let reader ← get
  let (id, graph) := reader.graph.add node
  match anchor? with
  | none =>
    set { reader with graph }
    return id
  | some anchor =>
    if (reader.anchors.lookup anchor).isSome then malformed
    set { reader with graph, anchors := (anchor, id) :: reader.anchors }
    return id

def enterAbsent : Read NodeId := enter none absent

def fill (id : NodeId) (content : Content) : Read Unit :=
  modify fun reader => { reader with graph := reader.graph.setContent id content }

/-! ## Anchors and tags -/

def anchor? : Read (Option String) := do
  match ← peek with
  | .anchor name =>
    skip
    return some name
  | _ => return none

def tag? : Read (Option (Option String × String)) := do
  match ← peek with
  | .tag handle suffix =>
    skip
    return some (handle, suffix)
  | _ => return none

/-- What a node says about itself before its content. -/
structure Properties where
  anchor : Option String
  tag : Option String

def tagName : Option String × String → Read String
  | (none, suffix) => return suffix
  | (some handle, suffix) => do
    match (← get).handles.lookup handle with
    | some lead => return lead ++ suffix
    | none => malformed

def properties : Read Properties := do
  match ← anchor? with
  | some anchor =>
    let tag ← tag?
    return ⟨some anchor, ← tag.mapM tagName⟩
  | none =>
    let tag ← tag?
    let anchor ← anchor?
    return ⟨anchor, ← tag.mapM tagName⟩

end Reader

namespace Reader.Properties
variable (properties : Reader.Properties)

/-- The mark alone leaves the tag open. -/
def isUntyped : Bool := properties.tag.isNone || properties.tag == some "!"

def areGiven : Bool := properties.anchor.isSome || properties.tag.isSome

def collectionTag (standard : Tag) : Tag :=
  if properties.isUntyped then standard else Tag.ofName (properties.tag.getD "")

/-- The tag of a scalar; its text shows the tag if it is plain, or if the mark alone is given. -/
def scalarTag (plain : Bool) (text : String) : Tag :=
  match properties.tag with
  | none => if plain then Tag.ofText text else .text
  | some "!" => Tag.ofText text
  | some name => Tag.ofName name

end Reader.Properties

open Reader

/-- Where a node stands: in block context collections may be indented, and after a key a sequence
may start without more indentation. -/
structure Place where
  inBlock : Bool
  afterKey : Bool := false

/-- How deep nodes may stand inside each other. -/
def deepest : Nat := 488

mutual

/-- Reads a node that may have `depth` nodes inside each other, itself included. -/
def read (place : Place) (depth : Nat) : Nat → Read NodeId
  | 0 => malformed
  | fuel + 1 => do
    if depth = 0 then throw .tooDeep
    match ← peek with
    | .alias name =>
      skip
      match (← get).anchors.lookup name with
      | some id => return id
      | none => malformed
    | _ => readContent place (depth - 1) (← properties) fuel
termination_by structural fuel => fuel

def readContent (place : Place) (depth : Nat) (properties : Properties) : Nat → Read NodeId
  | 0 => malformed
  | fuel + 1 => do
    let enterScalar (plain : Bool) (text : String) : Read NodeId :=
      enter properties.anchor ⟨properties.scalarTag plain text, .scalar text⟩
    let enterSequence : Read NodeId :=
      enter properties.anchor ⟨properties.collectionTag .sequence, .sequence []⟩
    let enterMapping : Read NodeId :=
      enter properties.anchor ⟨properties.collectionTag .mapping, .mapping []⟩
    let orAbsent : Read NodeId :=
      if properties.areGiven then enterScalar properties.isUntyped "" else malformed
    match ← peek, place.inBlock with
    | .blockEntry, _ =>
      if !place.afterKey then orAbsent
      else do
        let id ← enterSequence
        fill id (.sequence (← readEntries true depth fuel))
        return id
    | .scalar text plain, _ =>
      skip
      enterScalar plain text
    | .flowSequenceStart, _ =>
      let id ← enterSequence
      skip
      fill id (.sequence (← readFlowItems true depth fuel))
      return id
    | .flowMappingStart, _ =>
      let id ← enterMapping
      skip
      fill id (.mapping (← readFlowEntries true depth fuel))
      return id
    | .blockSequenceStart, true =>
      let id ← enterSequence
      skip
      fill id (.sequence (← readEntries false depth fuel))
      return id
    | .blockMappingStart, true =>
      let id ← enterMapping
      skip
      fill id (.mapping (← readPairs depth fuel))
      return id
    | _, _ => orAbsent
termination_by structural fuel => fuel

/-- Reads the entries of a block sequence. One without indentation has no end mark. -/
def readEntries (flush : Bool) (depth : Nat) : Nat → Read (List NodeId)
  | 0 => malformed
  | fuel + 1 => do
    if ← accept .blockEntry then
      let next ← peek
      let isAbsent := next == .blockEntry || next == .blockEnd ||
        (flush && (next == .key || next == .value))
      let item ← if isAbsent then enterAbsent else read ⟨true, false⟩ depth fuel
      return item :: (← readEntries flush depth fuel)
    else
      if !flush then expect .blockEnd
      return []
termination_by structural fuel => fuel

def readPairs (depth : Nat) : Nat → Read (List (NodeId × NodeId))
  | 0 => malformed
  | fuel + 1 => do
    if ← accept .key then
      let key ← readPart depth fuel
      let value ← if ← accept .value then readPart depth fuel else enterAbsent
      return (key, value) :: (← readPairs depth fuel)
    else
      expect .blockEnd
      return []
termination_by structural fuel => fuel

def readPart (depth : Nat) : Nat → Read NodeId
  | 0 => malformed
  | fuel + 1 => do
    let next ← peek
    if next == .key || next == .value || next == .blockEnd then enterAbsent
    else read ⟨true, true⟩ depth fuel
termination_by structural fuel => fuel

/-- Reads the items of a flow sequence; a pair among them is a mapping. -/
def readFlowItems (first : Bool) (depth : Nat) : Nat → Read (List NodeId)
  | 0 => malformed
  | fuel + 1 => do
    if ← accept .flowSequenceEnd then return []
    if !first then expect .flowEntry
    if (← peek) == .key then
      if depth = 0 then throw .tooDeep
      let id ← enter none ⟨.mapping, .mapping []⟩
      skip
      let key ← readFlowPart .flowSequenceEnd true (depth - 1) fuel
      let value ←
        if ← accept .value then readFlowPart .flowSequenceEnd false (depth - 1) fuel
        else enterAbsent
      fill id (.mapping [(key, value)])
      return id :: (← readFlowItems false depth fuel)
    if ← accept .flowSequenceEnd then return []
    let item ← read ⟨false, false⟩ depth fuel
    return item :: (← readFlowItems false depth fuel)
termination_by structural fuel => fuel

/-- Reads the pairs of a flow mapping; a key alone has an empty value. -/
def readFlowEntries (first : Bool) (depth : Nat) : Nat → Read (List (NodeId × NodeId))
  | 0 => malformed
  | fuel + 1 => do
    if ← accept .flowMappingEnd then return []
    if !first then expect .flowEntry
    if ← accept .key then
      let key ← readFlowPart .flowMappingEnd true depth fuel
      let value ←
        if ← accept .value then readFlowPart .flowMappingEnd false depth fuel else enterAbsent
      return (key, value) :: (← readFlowEntries false depth fuel)
    if ← accept .flowMappingEnd then return []
    let key ← read ⟨false, false⟩ depth fuel
    let value ← enterAbsent
    return (key, value) :: (← readFlowEntries false depth fuel)
termination_by structural fuel => fuel

def readFlowPart (close : Token) (isKey : Bool) (depth : Nat) : Nat → Read NodeId
  | 0 => malformed
  | fuel + 1 => do
    let next ← peek
    if next == .flowEntry || next == close || (isKey && next == .value) then enterAbsent
    else read ⟨false, false⟩ depth fuel
termination_by structural fuel => fuel

end

/-! ## Documents -/

def standardHandles : List (String × String) := [("!", "!"), ("!!", Tag.standardLead)]

def readDirectives (versioned : Bool) (handles : List (String × String)) : Nat → Read Unit
  | 0 => malformed
  | fuel + 1 => do
    match ← peek with
    | .directive directive =>
      skip
      match directive with
      | .version major =>
        if versioned || major != 1 then malformed else readDirectives true handles fuel
      | .tagHandle handle lead =>
        if (handles.lookup handle).isSome then malformed
        else readDirectives versioned ((handle, lead) :: handles) fuel
      | .reserved => readDirectives versioned handles fuel
    | _ => modify fun reader => { reader with handles := handles ++ standardHandles }

def skipDocumentEnds : Nat → Read Unit
  | 0 => malformed
  | fuel + 1 => do if ← accept .documentEnd then skipDocumentEnds fuel

/-- Nothing but ends of documents may follow the only document of a text. -/
def readEnd (fuel : Nat) : Read Unit := do
  skipDocumentEnds fuel
  if (← peek) != .streamEnd then
    readDirectives false [] fuel
    malformed

/-- Tokens that cannot start the content of a document after its mark. -/
def startsNoContent : Token → Bool
  | .directive _ | .documentStart | .documentEnd | .streamEnd => true
  | _ => false

def readMarked (fuel : Nat) : Read NodeId := do
  expect .documentStart
  if startsNoContent (← peek) then enterAbsent else read ⟨true, false⟩ deepest fuel

def readDocument (fuel : Nat) : Read (Option NodeId) := do
  match ← peek with
  | .streamEnd => return none
  | .directive _ | .documentStart =>
    readDirectives false [] fuel
    let root ← readMarked fuel
    readEnd fuel
    return some root
  | _ =>
    modify fun reader => { reader with handles := standardHandles }
    let root ← read ⟨true, false⟩ deepest fuel
    readEnd fuel
    return some root

def ofLexer (lexer : Lexer) : Except Fault (Option NodeId × Graph) := do
  let (root?, reader) ← (readDocument (64 * lexer.size + 1000)).run { lexer }
  return (root?, reader.graph)

end Graph
end CommandTree.Yaml
