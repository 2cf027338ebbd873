import CommandTree.Text.Quoted

/-! Mistakes in the declaration and the registration of commands. They never reach a caller. -/

namespace CommandTree

/-- What is wrong with a declaration or a registration. A `got`, like `flags` and the two bounds, is
in the written form of what was handed over. -/
inductive RegistrationFault where
  | noAlias
  | badAlias (got name : String)
  | negativeMinimum (name : String)
  | badMaximum (name : String)
  | crossedBounds (name minimum maximum : String)
  | notProvider (name got : String)
  | noBody (name : String)
  | twoBodies (name : String)
  | misplacedMark (flags : String)
  | badFlag (flag flags : String)
  | noProvider (got : String)
  | notDefinition (got : String)
  | frozen
  | notGroup (got : String)
  | badParent (name : String)
  | aliasTaken (key place holder : String)
  | badReference (reference : String)
  | unresolvedReference (reference reason : String)
  | notCallable (reference : String)
  | notMapping (origin : String)
  deriving DecidableEq, Repr

namespace RegistrationFault
open Text

def message : RegistrationFault → String
  | noAlias => "A command needs at least one alias"
  | badAlias got name => "Invalid alias " ++ got ++ " for command " ++ name
  | negativeMinimum name => "Command " ++ quoted name ++ ": min_args must not be negative"
  | badMaximum name => "Command " ++ quoted name ++ ": max_args must be -1 or more"
  | crossedBounds name minimum maximum =>
    "Command " ++ quoted name ++ s!": min_args ({minimum}) exceeds max_args ({maximum})"
  | notProvider name got =>
    "Command " ++ quoted name ++ ": nested providers must be CommandGroups, got " ++ got
  | noBody name => "Command " ++ quoted name ++ " has neither a handler nor nested commands"
  | twoBodies name => "Nested command " ++ quoted name ++ " cannot also have a handler"
  | misplacedMark flags => "Misplaced ':' in flags " ++ flags
  | badFlag flag flags => "Invalid flag " ++ quoted flag ++ " in flags " ++ flags
  | noProvider got => "Nested command " ++ got ++ " needs at least one provider"
  | notDefinition got => "Expected a CommandDefinition, got " ++ got
  | frozen => "Command registry is frozen; register commands during load"
  | notGroup got => "Expected a CommandGroup, got " ++ got
  | badParent name => "Parent " ++ quoted name ++ " is not a registered nested command"
  | aliasTaken key place holder =>
    "Alias " ++ quoted key ++ " under " ++ place ++ " is already used by " ++ quoted holder
  | badReference reference =>
    "Handler reference must look like 'module:function', got " ++ quoted reference
  | unresolvedReference reference reason =>
    "Cannot resolve handler " ++ quoted reference ++ ": " ++ reason
  | notCallable reference => "Handler " ++ quoted reference ++ " is not callable"
  | notMapping origin => "Command table " ++ origin ++ " must be a mapping"

end RegistrationFault
end CommandTree
