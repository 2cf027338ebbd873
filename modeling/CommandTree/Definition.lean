import CommandTree.Bounds
import CommandTree.Handler

namespace CommandTree

structure DefId where
  index : Nat
  deriving DecidableEq, Repr, Hashable

structure GroupId where
  index : Nat
  deriving DecidableEq, Repr, Hashable

inductive Body where
  | leaf (handler : Handler)
  | nested (first : GroupId) (others : List GroupId)

/-- A command. Texts, flags and permissions are kept as the host declared them, whatever their sort;
`alphabet` and `bounds` are what the declared flags and numbers of arguments come to. -/
structure Definition where
  name : String
  synonyms : List String := []
  desc : Value := .str ""
  usage : Value := .str ""
  flags : Value := .str ""
  alphabet : FlagAlphabet := {}
  minArgs : Value := .int 0
  maxArgs : Value := .int (-1)
  bounds : Bounds := {}
  permissions : List Value := []
  body : Body

namespace Definition

instance : Inhabited Definition where
  default := { name := "", body := .leaf fun _ _ => .give .null }

def aliases (d : Definition) : List String := d.name :: d.synonyms

def nested (d : Definition) : List GroupId :=
  match d.body with
  | .leaf _ => []
  | .nested first others => first :: others

def isNested (d : Definition) : Bool := !d.nested.isEmpty

def isPublic (d : Definition) : Bool := d.permissions.isEmpty

def synopsis (d : Definition) : Value :=
  if d.usage.holds then .str (d.usage.text ++ " - " ++ d.desc.text) else d.desc

def admits (d : Definition) (args : Nat) : Bool := d.bounds.admits args

end Definition
end CommandTree
