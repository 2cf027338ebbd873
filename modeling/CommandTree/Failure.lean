import CommandTree.Context.Reading
import CommandTree.Value

/-!
A dispatch that does not complete ends in a failure of one of seven kinds. Anything else that stops
it is a fault; a dispatcher wraps the ordinary faults of handlers into failures.
-/

namespace CommandTree

inductive FailureKind where
  | unresolvedCommand
  | missingSubCommand
  | permissionDenied
  | tooFewArguments
  | tooManyArguments
  | unknownFlag
  | handlerFailed
  deriving DecidableEq, Repr

namespace FailureKind

def word : FailureKind → String
  | unresolvedCommand => "unresolved_command"
  | missingSubCommand => "missing_sub_command"
  | permissionDenied => "permission_denied"
  | tooFewArguments => "too_few_arguments"
  | tooManyArguments => "too_many_arguments"
  | unknownFlag => "unknown_flag"
  | handlerFailed => "handler_failed"

def all : List FailureKind :=
  [unresolvedCommand, missingSubCommand, permissionDenied, tooFewArguments, tooManyArguments,
    unknownFlag, handlerFailed]

def ofWord? (word : String) : Option FailureKind := all.find? (·.word == word)

theorem ofWord?_word (kind : FailureKind) : ofWord? kind.word = some kind := by
  cases kind <;> decide

end FailureKind

inductive Raised.Sort where
  /-- Its text is its argument. -/
  | plain
  /-- It names a missing key, and its text is the written key. -/
  | missingKey
  /-- It stops the program; dispatchers let it through. -/
  | interrupt
  deriving DecidableEq, Repr

structure Raised where
  label : String
  args : List Value
  sort : Raised.Sort := .plain

/-- An error with a number too long to be written has no text. -/
def Raised.text? (raised : Raised) : Option String :=
  if raised.args.all Value.isWritable then
    some <| match raised.args with
      | [] => ""
      | [arg] => if raised.sort = .missingKey then arg.written else arg.text
      | args => Value.writtenRow args
  else none

/-- What stops a computation without being a failure. -/
inductive Fault where
  | reading (fault : Context.Fault)
  | emptyCommand
  | notFrozen
  | lacks (kind name : String)
  | wrongSort (reason : String)
  /-- A value, in its written form, that names no kind of failure. -/
  | unknownKind (got : String)
  | tooDeep
  | raised (raised : Raised)

namespace Fault

def text? : Fault → Option String
  | reading fault => some fault.message
  | emptyCommand => some "Cannot execute an empty command"
  | notFrozen => some "Command registry must be frozen before dispatching"
  | lacks kind name => some ("'" ++ kind ++ "' object has no attribute '" ++ name ++ "'")
  | wrongSort reason => some reason
  | unknownKind got => some (got ++ " is not a valid FailureKind")
  | tooDeep => some "maximum recursion depth exceeded"
  | raised r => r.text?

def message? : Fault → Option String
  | raised r => r.text?.map fun text => if text = "" then r.label else text
  | fault => fault.text?

/-- What comes of writing a number that is too long. -/
def unwritable : Fault := raised { label := "ValueError", args := [.str Numeral.tooLongToWrite] }

def isOrdinary : Fault → Bool
  | raised r => r.sort != .interrupt
  | _ => true

def notFixed (v : Value) : Fault := wrongSort ("unhashable type: '" ++ v.kindName ++ "'")

end Fault

/-- A typed failure of a dispatch. Handlers may put any value in place of the texts; without a usage
it is null. `chained` says that a dispatcher wrapped the cause. -/
structure Failure where
  kind : FailureKind
  message : Value
  usage : Value := .null
  cause : Option Fault := none
  chained : Bool := false

namespace Failure

/-- A failure whose message does not hold has the word of its kind for one. -/
def ofMessage (kind : FailureKind) (message usage : Value) (cause : Option Fault) : Failure where
  kind := kind
  message := if message.holds then message else .str kind.word
  usage := usage
  cause := cause

def ofWord (kind message usage : Value) (cause : Option Fault) : Except Fault Failure :=
  match kind with
  | .str word =>
    match FailureKind.ofWord? word with
    | some kind => .ok (ofMessage kind message usage cause)
    | none => .error (.unknownKind kind.written)
  | _ => .error (.unknownKind kind.written)

def unresolved (name : String) : Failure where
  kind := .unresolvedCommand
  message := .str ("Unknown command: " ++ name)

def denied : Failure where
  kind := .permissionDenied
  message := .str "You are not permitted to do that."

def ofFault (fault : Fault) : Except Fault Failure :=
  match fault.message? with
  | some message => .ok { kind := .handlerFailed, message := .str message, cause := some fault }
  | none => .error .unwritable

def written (f : Failure) : String :=
  "CommandFailure(" ++ Text.quoted f.kind.word ++ ", " ++ f.message.written ++ ", usage=" ++
    f.usage.written ++ ")"

end Failure

inductive Interrupt where
  | failure (failure : Failure)
  | fault (fault : Fault)

abbrev Outcome := Except Interrupt Value

end CommandTree
