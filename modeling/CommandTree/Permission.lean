/-!
A set of nodes grants the paths it holds and, for a node that ends in `.*`, every path beneath it;
the node `*` grants everything.
-/

namespace CommandTree

structure PermissionSet where
  nodes : List String
  deriving DecidableEq, Repr

namespace PermissionSet

/-- The parts of a path that end in front of a dot, the shortest first. -/
def ancestors (before : List Char) : List Char → List (List Char)
  | [] => []
  | c :: rest =>
    if c = '.' then before :: ancestors (before ++ [c]) rest else ancestors (before ++ [c]) rest

def everythingUnder (path : List Char) : String := String.ofList (path ++ ['.', '*'])

def grants (held : PermissionSet) (permission : String) : Bool :=
  held.nodes.contains permission || held.nodes.contains "*" ||
    (ancestors [] permission.toList).any fun path => held.nodes.contains (everythingUnder path)

end PermissionSet
end CommandTree
