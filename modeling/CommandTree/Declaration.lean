import CommandTree.Catalog
import CommandTree.Registration

/-! A draft is a declaration as a host writes it, before any check. -/

namespace CommandTree

inductive Provider where
  | group (id : GroupId)
  | other (value : Value)

def Provider.written (catalog : Catalog) : Provider → String
  | group id => catalog.writtenGroup id
  | other value => value.written

structure Draft where
  aliases : Value
  handler : Option Handler := none
  desc : Value := .str ""
  usage : Value := .str ""
  flags : Value := .str ""
  minArgs : Value := .int 0
  maxArgs : Value := .int (-1)
  permissions : Value := .null
  nested : List Provider := []

inductive DeclarationFault where
  | registration (fault : RegistrationFault)
  | wrongSort
  | notText
  /-- A colon among flags that have no order. -/
  | noOrder
  | blankDocumentation
  | longBound
  deriving DecidableEq, Repr

def DeclarationFault.message : DeclarationFault → String
  | registration fault => fault.message
  | wrongSort => "wrong sort of value"
  | notText => "not a text"
  | noOrder => "no order"
  | blankDocumentation => "list index out of range"
  | longBound => Numeral.tooLongToWrite

abbrev Declared := Except DeclarationFault

namespace Value

/-- The items of a value: none of null, one of a text, the keys of a map. -/
def items? : Value → Option (List Value)
  | null => some []
  | str s => some [.str s]
  | list items => some items
  | map entries => some (entries.map (·.1))
  | _ => none

/-- What a value offers as providers: nothing when it does not hold, the letters of a text. -/
def providers? (value : Value) : Option (List Provider) :=
  if !value.holds then some []
  else match value with
    | str s => some (s.toList.map fun c => .other (.str c.toString))
    | list items => some (items.map .other)
    | map entries => some (entries.map fun entry => .other entry.1)
    | _ => none

/-- The name that a value is, if it may name a command: a text, not empty and without blanks. -/
def name? : Value → Option String
  | str s => if s = "" ∨ s.toList.any Text.isBlank then none else some s
  | _ => none

end Value

namespace Draft

def sorted {α : Type} : Option α → Declared α
  | some a => .ok a
  | none => .error .wrongSort

def refuse {α : Type} (fault : RegistrationFault) : Declared α := .error (.registration fault)

def checkNames (first : Value) : List Value → Declared (List String)
  | [] => .ok []
  | v :: rest =>
    match v.name? with
    | some name => (checkNames first rest).map (name :: ·)
    | none => refuse (.badAlias v.written first.written)

def shownBound (bound : Value) : Declared String :=
  if bound.isWritable then .ok bound.text else .error .longBound

def checkBounds (name : String) (minimum maximum : Value) : Declared Bounds := do
  let least ← sorted minimum.quantity?
  if Bounds.objectionTo least (.ofInt (-1)) = some .negativeMinimum then
    refuse (.negativeMinimum name)
  let most ← sorted maximum.quantity?
  match Bounds.objectionTo least most with
  | some .negativeMinimum => refuse (.negativeMinimum name)
  | some .badMaximum => refuse (.badMaximum name)
  | some .crossed =>
    refuse (.crossedBounds name (← shownBound minimum) (← shownBound maximum))
  | none => return ⟨Bounds.leastOf least, Bounds.mostOf most⟩

def checkProviders (catalog : Catalog) (name : String) : List Provider → Declared (List GroupId)
  | [] => .ok []
  | .group id :: rest => (checkProviders catalog name rest).map (id :: ·)
  | .other value :: _ => refuse (.notProvider name value.written)

def checkBody (name : String) : Option Handler → List GroupId → Declared Body
  | none, [] => refuse (.noBody name)
  | some handler, [] => .ok (.leaf handler)
  | none, first :: others => .ok (.nested first others)
  | some _, _ :: _ => refuse (.twoBodies name)

/-- The names that come before the first item that is no text, and whether there is such an item. -/
def flagNames : List Value → List String × Bool
  | [] => ([], false)
  | .str name :: rest =>
    let (names, cut) := flagNames rest
    (name :: names, cut)
  | _ :: _ => ([], true)

/-- Reads the flags of a list. What is wrong with the names in front of an item that is no text
comes first. -/
def readFlagNames (flags : Value) (items : List Value) : Declared FlagAlphabet :=
  let (names, cut) := flagNames items
  match FlagAlphabet.parseNames names with
  | .error .misplacedMark => refuse (.misplacedMark flags.written)
  | .error (.notLetter name) => refuse (.badFlag name flags.written)
  | .ok alphabet => if cut then .error .notText else .ok alphabet

/-- Reads declared flags: a text of letters, a list of names, or the keys of a map, of which a colon
cannot follow any. -/
def checkFlags (flags : Value) : Declared FlagAlphabet :=
  match flags with
  | .str letters =>
    match FlagAlphabet.parse letters with
    | .ok alphabet => .ok alphabet
    | .error .misplacedMark => refuse (.misplacedMark flags.written)
    | .error (.notLetter name) => refuse (.badFlag name flags.written)
  | .list items => readFlagNames flags items
  | .map entries =>
    let keys := entries.map (·.1)
    let before := keys.takeWhile fun key => !key.agrees (.str ":")
    if before.isEmpty || before.length = keys.length then readFlagNames flags keys
    else do
      let _ ← readFlagNames flags before
      throw .noOrder
  | _ => .error .wrongSort

def check (catalog : Catalog) (draft : Draft) : Declared Definition := do
  let aliases ← sorted draft.aliases.items?
  let permissions ← sorted draft.permissions.items?
  match aliases with
  | [] => refuse .noAlias
  | first :: others =>
    match ← checkNames first (first :: others) with
    | [] => refuse .noAlias
    | name :: synonyms =>
      let { desc, usage, flags, minArgs, maxArgs, .. } := draft
      let bounds ← checkBounds name minArgs maxArgs
      let groups ← checkProviders catalog name draft.nested
      let body ← checkBody name draft.handler groups
      let alphabet ← checkFlags flags
      return { name, synonyms, desc, usage, flags, alphabet, minArgs, maxArgs, bounds,
               permissions, body }

/-- The description of a command: its own, or the first line of the handler's documentation. -/
def description (desc documentation : Value) : Declared Value :=
  if desc.holds || !documentation.holds then .ok desc
  else
    match documentation with
    | .str written =>
      match Text.trim written.toList with
      | [] => .error .blankDocumentation
      | text => .ok (.str (String.ofList (Text.firstLine text)))
    | _ => .error .notText

end Draft

namespace Catalog
variable (catalog : Catalog)

def command (id : GroupId) (draft : Draft) (documentation : Value) :
    Declared (DefId × Catalog) := do
  let desc ← Draft.description draft.desc documentation
  let d ← { draft with desc }.check catalog
  return catalog.declare id d

def nest (id : GroupId) (draft : Draft) : Declared (DefId × Catalog) := do
  if draft.nested.isEmpty then Draft.refuse (.noProvider draft.aliases.written)
  let d ← draft.check catalog
  return catalog.declare id d

def declareAlone (draft : Draft) : Declared (DefId × Catalog) := do
  let d ← draft.check catalog
  return catalog.define d

end Catalog
end CommandTree
