import CommandTree.Failure

/-!
A handler finishes at once, or it has another command executed, for the caller it serves or for
somebody else, and goes on with the outcome.
-/

namespace CommandTree

/-- A caller as a dispatcher knows one: what is answered about each permission. -/
abbrev Standing := Value → Except Fault Bool

inductive Act where
  | finish (outcome : Outcome)
  /-- Without a standing the command is executed for the caller whom the handler serves. -/
  | execute (standing? : Option Standing) (tokens : List String) (extras : List Value)
      (next : Outcome → Act)

namespace Act

def give (value : Value) : Act := .finish (.ok value)

def fail (failure : Failure) : Act := .finish (.error (.failure failure))

def raise (fault : Fault) : Act := .finish (.error (.fault fault))

def forward (tokens : List String) (extras : List Value) (standing? : Option Standing := none) :
    Act :=
  .execute standing? tokens extras .finish

end Act

abbrev Handler := Context → List Value → Act

end CommandTree
