import CommandTree.Failure
import CommandTree.Permission

/-!
A dispatcher knows nothing about a caller except the answers to its questions about permissions.
-/

namespace CommandTree

inductive Caller where
  | holding (held : PermissionSet)
  | answering (answers : List (String × Value))
  | mute (value : Value)

/-- Whether a set grants a permission. Only texts can be taken apart, but whoever holds everything
holds whatever can be looked up. -/
def PermissionSet.answerTo (held : PermissionSet) (permission : Value) : Except Fault Bool :=
  match permission with
  | .str path => .ok (held.grants path)
  | _ =>
    if !permission.isFixed then .error (.notFixed permission)
    else if held.nodes.contains "*" then .ok true
    else .error (.lacks permission.kindName "split")

namespace Caller

def answer (answers : List (String × Value)) (permission : Value) : Except Fault Value :=
  match permission with
  | .str path => .ok ((answers.lookup path).getD .null)
  | _ => if permission.isFixed then .ok .null else .error (.notFixed permission)

def isAskable : Caller → Bool
  | mute _ => false
  | _ => true

def hasPermission (caller : Caller) (permission : Value) : Except Fault Bool :=
  match caller with
  | holding held => held.answerTo permission
  | answering answers => (answer answers permission).map Value.holds
  | mute value => .error (.lacks value.kindName "has_permission")

def isValue (caller : Caller) (other : Value) : Bool :=
  match caller with
  | mute value => value.agrees other
  | _ => false

end Caller
end CommandTree
