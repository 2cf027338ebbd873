import CommandTree.Declaration
import CommandTree.Registry.Walk
import CommandTree.Settings

/-!
A registry files definitions under their parents by their lower case names. It is filled while
commands are loaded and then frozen.
-/

namespace CommandTree

/-- The names under one parent, in the order in which they first came. -/
abbrev Node := Ordered String DefId

structure Registry where
  settings : Settings := {}
  nodes : Ordered Parent Node := ⟨[(none, ∅)]⟩
  /-- The help entries of the root commands by canonical name. -/
  synopses : Ordered String Value := ∅
  roots : List DefId := []
  definitions : List DefId := []
  frozen : Bool := false

structure Claim where
  parent : Parent
  key : String
  holder : DefId
  deriving DecidableEq, Repr

/-- What a root command shows to hosts that list commands themselves. -/
structure CommandInfo where
  aliases : List String
  usage : Value
  desc : Value
  permissions : List Value

namespace Catalog
variable (catalog : Catalog)

def claims (p : Placement) : List Claim :=
  (catalog.definition p.definition).aliases.map fun name =>
    ⟨p.parent, Text.lower name, p.definition⟩

def claimed (start : Visit) : List Claim := (catalog.placed start).flatMap catalog.claims

def placeName : Parent → String
  | none => "root"
  | some d => catalog.name d

def info (d : DefId) : CommandInfo :=
  let definition := catalog.definition d
  ⟨definition.aliases, definition.usage, definition.desc, definition.permissions⟩

end Catalog

/-- The names that a registration claims under each parent, the parents and the claims in the order
in which they came. Nothing of it is in the registry until all of it is. -/
abbrev Staging := Ordered Parent (List (String × DefId))

namespace Staging
variable (staging : Staging)

def claimsUnder (parent : Parent) : List (String × DefId) := (staging.get? parent).getD []

def holder? (parent : Parent) (key : String) : Option DefId :=
  Ordered.lastOf? key (staging.claimsUnder parent)

def claim (c : Claim) : Staging :=
  staging.put c.parent (staging.claimsUnder c.parent ++ [(c.key, c.holder)])

def records : List LogRecord :=
  staging.entries.flatMap fun (_, claims) =>
    claims.map fun (key, _) => ⟨.debug, "Registered command alias: " ++ key⟩

end Staging

namespace Registry
variable (registry : Registry)

/-! ## Queries -/

def node (parent : Parent) : Node := (registry.nodes.get? parent).getD ∅

/-- The command with a name, in any letter case, under a parent. -/
def lookup (name : String) (parent : Parent) : Option DefId :=
  (registry.node parent).get? (Text.lower name)

/-- The commands that still have a name under a parent, each once. -/
def children (parent : Parent) : List DefId := distinct (registry.node parent).values

def hasCommand (name : String) : Bool := (registry.lookup name none).isSome

def rootInfo (catalog : Catalog) : List CommandInfo := registry.roots.map catalog.info

/-! ## Committing -/

/-- Files definitions under the names they claim, whoever had the names before. -/
def fileUnder (registry : Registry) (parent : Parent) (claims : List (String × DefId)) : Registry :=
  { registry with
    nodes := registry.nodes.put parent ((registry.node parent).putAll claims) }

/-- Enters a definition; a nested one has a node even when its groups are empty. -/
def enter (catalog : Catalog) (registry : Registry) (p : Placement) : Registry :=
  let entered := { registry with definitions := addNew registry.definitions p.definition }
  let housed := if (catalog.definition p.definition).isNested then
      { entered with nodes := entered.nodes.ensure (some p.definition) ∅ }
    else entered
  match p.parent with
  | some _ => housed
  | none =>
    let definition := catalog.definition p.definition
    { housed with
      roots := addNew housed.roots p.definition
      synopses := housed.synopses.put (Text.lower definition.name) definition.synopsis }

def commit (catalog : Catalog) (placements : List Placement) (staging : Staging) : Registry :=
  placements.foldl (enter catalog)
    (staging.entries.foldl (fun r (parent, claims) => r.fileUnder parent claims) registry)

/-! ## Registration -/

structure Desk where
  registry : Registry
  records : List LogRecord := []

/-- A registration at work. What it has changed and logged stays so when it fails. -/
abbrev Registering := ExceptT RegistrationFault (StateM Desk)

def note (records : List LogRecord) : Registering Unit :=
  modify fun desk => { desk with records := desk.records ++ records }

def Registering.perform {α : Type} (registering : Registering α) (desk : Desk) :
    Except RegistrationFault α × Desk :=
  (registering.run.run desk).run

/-- The definition that has the claimed name already, in the staging or in the registry, unless it
is the claimant. -/
def rival? (staging : Staging) (c : Claim) : Option DefId :=
  ((staging.holder? c.parent c.key).or ((registry.node c.parent).get? c.key)).filter (· ≠ c.holder)

def collision (catalog : Catalog) (c : Claim) (rival : DefId) : RegistrationFault :=
  .aliasTaken c.key (catalog.placeName c.parent) (catalog.name rival)

def redefinition (catalog : Catalog) (c : Claim) (rival : DefId) : LogRecord where
  severity := .warning
  text := "Alias " ++ Text.quoted c.key ++ " under " ++ catalog.placeName c.parent ++
    " redefined: " ++ Text.quoted (catalog.name rival) ++ " replaced by " ++
    Text.quoted (catalog.name c.holder)

/-- Stages a claim. A name that has another holder is refused when names are strict, and otherwise
the new holder is noted. -/
def stageClaim (catalog : Catalog) (staging : Staging) (c : Claim) : Registering Staging := do
  let desk ← get
  match desk.registry.rival? staging c with
  | none => return staging.claim c
  | some rival =>
    if desk.registry.settings.strictAliases then throw (collision catalog c rival)
    else
      note [redefinition catalog c rival]
      return staging.claim c

def registeredRecord (catalog : Catalog) (group : GroupId) (parent : Parent) : LogRecord where
  severity := .info
  text :=
    let name := (catalog.group group).name
    s!"Registered {(catalog.members group).length} commands from " ++
      (if name.holds then name.text else "group") ++
      match parent with
      | none => ""
      | some d => " under " ++ catalog.name d

def isParent (catalog : Catalog) : Parent → Bool
  | none => true
  | some d => d ∈ registry.definitions && (catalog.definition d).isNested

/-- Stages all that a group and the groups below it declare, and then commits it. -/
def registerGroup (catalog : Catalog) (group : GroupId) (parent : Parent) :
    Registering (List DefId) := do
  let start : Visit := ⟨parent, group⟩
  let staging ← (catalog.claimed start).foldlM (stageClaim catalog) ∅
  modify fun desk =>
    { desk with registry := desk.registry.commit catalog (catalog.placed start) staging }
  note (staging.records ++ [registeredRecord catalog group parent])
  return catalog.members group

def registerProvider (catalog : Catalog) (provider : Provider) (parent : Parent) :
    Registering (List DefId) := do
  let desk ← get
  if desk.registry.frozen then throw .frozen
  else
    match provider with
    | .other value => throw (.notGroup value.written)
    | .group group =>
      if desk.registry.isParent catalog parent then registerGroup catalog group parent
      else throw (.badParent ((parent.map catalog.name).getD ""))

/-- How a registration ended, with the definitions of the group itself if it succeeded; the registry
that it left behind; and what it logged. -/
structure Attempt where
  outcome : Except RegistrationFault (List DefId)
  registry : Registry
  records : List LogRecord

def attempt (catalog : Catalog) (provider : Provider) (parent : Parent) : Attempt :=
  let (outcome, desk) := (registerProvider catalog provider parent).perform { registry }
  ⟨outcome, desk.registry, desk.records⟩

structure Registration where
  registry : Registry
  definitions : List DefId
  records : List LogRecord

def register (catalog : Catalog) (provider : Provider) (parent : Parent) :
    Except RegistrationFault Registration :=
  let { outcome, registry, records } := registry.attempt catalog provider parent
  outcome.map fun definitions => { registry, definitions, records }

def freeze : Registry × List LogRecord :=
  if registry.frozen then (registry, [])
  else ({ registry with frozen := true }, [⟨.info,
    s!"Command registry frozen: {registry.roots.length} root commands, " ++
      s!"{registry.definitions.length} total"⟩])

end Registry
end CommandTree
