import CommandTree.Handler
import CommandTree.Log
import CommandTree.Registration

/-!
A reference `module:path` names a handler: a module of the world, and attributes from there on.
Targets that were found are remembered.
-/

namespace CommandTree

/-- A thing that a reference can lead to: how messages call it, its qualified name, its attributes,
and what calling it does. -/
inductive Target where
  | mk (title qualifiedName : String) (attributes : List (String × Target))
    (handler : Option Handler)

namespace Target

def title : Target → String
  | mk title _ _ _ => title

def qualifiedName : Target → String
  | mk _ name _ _ => name

def attributes : Target → List (String × Target)
  | mk _ _ attributes _ => attributes

def handler : Target → Option Handler
  | mk _ _ _ handler => handler

end Target

abbrev World := List (String × Target)

namespace Reference

/-- The two parts of a reference around its first colon, neither of them empty. -/
def split? (reference : String) : Option (String × String) :=
  let cs := reference.toList
  let path := (cs.dropWhile (· != ':')).drop 1
  let module := cs.takeWhile (· != ':')
  if module.isEmpty || path.isEmpty then none
  else some (String.ofList module, String.ofList path)

/-- The parts of a path between its dots, empty parts included. -/
def parts (path : String) : List String :=
  path.toList.foldr (fun c parts =>
    match parts with
    | [] => []
    | part :: rest => if c = '.' then "" :: part :: rest else (c.toString ++ part) :: rest) [""]

inductive Miss where
  | noModule (name : String)
  | notPackage (name parent : String)
  | noAttribute (title name : String)
  deriving DecidableEq, Repr

def Miss.message : Miss → String
  | noModule name => "No module named " ++ Text.quoted name
  | notPackage name parent =>
    "No module named " ++ Text.quoted name ++ "; " ++ Text.quoted parent ++ " is not a package"
  | noAttribute title name => title ++ " has no attribute '" ++ name ++ "'"

/-- A module with other modules below it. -/
def isPackage (world : World) (name : String) : Bool :=
  world.any fun entry => (name ++ ".").toList.isPrefixOf entry.1.toList

def importBelow (world : World) (parent : String) (found : Target) :
    List String → Except Miss Target
  | [] => .ok found
  | part :: rest =>
    let name := parent ++ "." ++ part
    match world.lookup name with
    | some target => importBelow world name target rest
    | none => .error (if isPackage world parent then .noModule name else .notPackage name parent)

def importModule (world : World) (name : String) : Except Miss Target :=
  match parts name with
  | [] => .error (.noModule name)
  | first :: rest =>
    match world.lookup first with
    | some target => importBelow world first target rest
    | none => .error (.noModule first)

def follow (target : Target) : List String → Except Miss Target
  | [] => .ok target
  | name :: rest =>
    match target.attributes.lookup name with
    | some next => follow next rest
    | none => .error (.noAttribute target.title name)

def find (world : World) (module path : String) : Except Miss Target := do
  follow (← importModule world module) (parts path)

inductive Fault where
  | registration (fault : RegistrationFault)
  /-- The module is named relative to another one. -/
  | relativeModule
  deriving DecidableEq, Repr

end Reference

structure Resolver where
  world : World
  /-- Targets and their handlers by the references that found them. -/
  known : List (String × Target × Handler) := []

/-- A target with its handler, or what is wrong; the log; and the resolver afterwards. -/
structure Resolution where
  outcome : Except Reference.Fault (Target × Handler)
  records : List LogRecord := []
  resolver : Resolver

namespace Resolver
variable (resolver : Resolver)

def refuse (fault : RegistrationFault) (records : List LogRecord) : Resolution where
  outcome := .error (.registration fault)
  records := records
  resolver := resolver

def resolveAnew (reference : String) : Resolution :=
  match Reference.split? reference with
  | none => resolver.refuse (.badReference reference) []
  | some (module, path) =>
    if module.startsWith "." then { outcome := .error .relativeModule, resolver }
    else
      match Reference.find resolver.world module path with
      | .error miss => resolver.refuse (.unresolvedReference reference miss.message)
          [⟨.error, "Failed to resolve handler " ++ reference ++ ": " ++ miss.message⟩]
      | .ok target =>
        match target.handler with
        | none => resolver.refuse (.notCallable reference) []
        | some handler => {
            outcome := .ok (target, handler)
            resolver := { resolver with known := (reference, target, handler) :: resolver.known } }

def resolve (reference : String) : Resolution :=
  match resolver.known.lookup reference with
  | some found => { outcome := .ok found, resolver }
  | none => resolver.resolveAnew reference

end Resolver
end CommandTree
