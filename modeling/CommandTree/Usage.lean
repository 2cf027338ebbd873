import CommandTree.Catalog

namespace CommandTree.Usage

/-- The tokens down to a level; levels below zero count from the end. -/
def upTo (level : Int) (tokens : List String) : List String :=
  let count := level + 1
  tokens.take (if count < 0 then tokens.length + count else count).toNat

def path (lead : String) (tokens : List String) : String := lead ++ " ".intercalate tokens

/-- The usage of a command with a handler: its flags in brackets and its arguments. A declared usage
has to be a text unless it does not hold. -/
def leaf (lead : String) (tokens : List String) (d : Definition) : Except Fault String :=
  let flags := if d.alphabet.letters.isEmpty then []
    else ["[-" ++ String.ofList d.alphabet.letters ++ "]"]
  let parts := path lead tokens :: flags
  if !d.usage.holds then .ok (" ".intercalate parts)
  else
    match d.usage with
    | .str usage => .ok (" ".intercalate (parts ++ [usage]))
    | usage => .error (.wrongSort
        (s!"sequence item {parts.length}: expected str instance, " ++ usage.kindName ++ " found"))

/-- The choices under a nested command. A caller who may use none of them is denied. -/
def choices (catalog : Catalog) (children visible : List DefId) : Except Failure String :=
  if children.isEmpty then .ok "?"
  else if visible.isEmpty then .error .denied
  else .ok ("|".intercalate (visible.map catalog.name))

def nested (lead : String) (tokens : List String) (choices : String) : String :=
  path lead tokens ++ " <" ++ choices ++ ">"

end CommandTree.Usage
