import CommandTree.Caller
import CommandTree.Registry
import CommandTree.Line
import CommandTree.Usage

/-!
A row of tokens is resolved one level at a time: each token is looked up under the command before
it, and the caller needs a permission for each command on the way.
-/

namespace CommandTree

structure Call where
  definition : DefId
  context : Context
  extras : List Value

inductive Event where
  | asked (permission : Value)
  | logged (record : LogRecord)
  | called (call : Call)

namespace Event

def permission? : Event → Option Value
  | asked permission => some permission
  | _ => none

def record? : Event → Option LogRecord
  | logged record => some record
  | _ => none

def call? : Event → Option Call
  | called call => some call
  | _ => none

end Event

abbrev Trace := List Event

namespace Trace
variable (trace : Trace)

def queries : List Value := trace.filterMap Event.permission?

def records : List LogRecord := trace.filterMap Event.record?

def calls : List Call := trace.filterMap Event.call?

end Trace

structure Run (α : Type) where
  outcome : Except Interrupt α
  trace : Trace := []

namespace Run
variable {α β : Type}

def fail (failure : Failure) : Run α := { outcome := .error (.failure failure) }

def stop (fault : Fault) : Run α := { outcome := .error (.fault fault) }

def log (record : LogRecord) : Run Unit := { outcome := .ok (), trace := [.logged record] }

protected def bind (run : Run α) (next : α → Run β) : Run β :=
  match run.outcome with
  | .error interrupt => { outcome := .error interrupt, trace := run.trace }
  | .ok a =>
    let rest := next a
    { outcome := rest.outcome, trace := run.trace ++ rest.trace }

instance : Monad Run where
  pure a := { outcome := .ok a }
  bind := Run.bind

end Run

structure Dispatcher (C : Type) where
  catalog : Catalog
  registry : Registry
  check : C → Value → Except Fault Bool
  settings : Settings
  /-- How deep the handlers of a command may execute other commands. -/
  depth : Nat := 299

/-- A leaf that was reached: the tokens that led to it, and what its handler is given. -/
structure Invocation where
  path : List String
  definition : DefId
  handler : Handler
  context : Context

def Invocation.call (invocation : Invocation) (extras : List Value) : Run Act where
  outcome := .ok (invocation.handler invocation.context extras)
  trace := [.called ⟨invocation.definition, invocation.context, extras⟩]

namespace Dispatcher
variable {C : Type} (dispatcher : Dispatcher C)

def query (caller : C) (permission : Value) : Run Bool where
  outcome := (dispatcher.check caller permission).mapError .fault
  trace := [.asked permission]

def holdsAny (caller : C) : List Value → Run Bool
  | [] => pure false
  | permission :: rest => do
    if ← dispatcher.query caller permission then return true
    holdsAny caller rest

/-- Whether a caller may use a command: a command without permissions is open to all. -/
def hasPermission (d : DefId) (caller : C) : Run Bool :=
  match (dispatcher.catalog.definition d).permissions with
  | [] => pure true
  | permissions => dispatcher.holdsAny caller permissions

def visible (caller : C) : List DefId → Run (List DefId)
  | [] => pure []
  | d :: rest => do
    let permitted ← dispatcher.hasPermission d caller
    let others ← visible caller rest
    return if permitted then d :: others else others

/-- Fails for want of a sub-command under a nested command that was reached by `path`. -/
def failBelow {α : Type} (message : String) (path : List String) (d : DefId) (caller : C) :
    Run α := do
  let children := dispatcher.registry.children (some d)
  let visible ← dispatcher.visible caller children
  match Usage.choices dispatcher.catalog children visible with
  | .error failure => .fail failure
  | .ok choices => .fail {
      kind := .missingSubCommand
      message := .str message
      usage := .str (Usage.nested dispatcher.settings.lead path choices) }

def objection? (d : Definition) (context : Context) : Option (FailureKind × String) :=
  if !d.bounds.least.isReached context.args.length then
    some (.tooFewArguments, "Too few arguments.")
  else if !d.bounds.most.isKept context.args.length then
    some (.tooManyArguments, "Too many arguments.")
  else (context.sortedFlags.find? (· ∉ d.alphabet.letters)).map fun flag =>
    (.unknownFlag, "Unknown flag: " ++ flag.toString)

/-- Looks tokens up from a parent on; `before` are the tokens that led to it. -/
def resolveFrom (caller : C) (parent : Parent) (before : List String) :
    List String → Run Invocation
  | [] => .stop .emptyCommand
  | name :: rest =>
    match dispatcher.registry.lookup name parent with
    | none =>
      match parent with
      | none => .fail (.unresolved name)
      | some p => dispatcher.failBelow ("Unknown command: " ++ name) before p caller
    | some d => do
      if ← dispatcher.hasPermission d caller then
        let path := before ++ [name]
        let definition := dispatcher.catalog.definition d
        match definition.body with
        | .nested _ _ =>
          if rest.isEmpty then dispatcher.failBelow "Sub-command required." path d caller
          else resolveFrom caller (some d) path rest
        | .leaf handler =>
          let context := Context.read definition.alphabet.valued name rest
          match Usage.leaf dispatcher.settings.lead path definition with
          | .error fault => .stop fault
          | .ok usage =>
            match objection? definition context with
            | some (kind, message) => .fail { kind, message := .str message, usage := .str usage }
            | none => return { path, definition := d, handler, context }
      else .fail .denied

def resolve (tokens : List String) (caller : C) : Run Invocation :=
  if tokens.isEmpty then .stop .emptyCommand
  else if dispatcher.settings.requireFrozen && !dispatcher.registry.frozen then .stop .notFrozen
  else dispatcher.resolveFrom caller none [] tokens

/-- Carries out what a handler wants done for a caller; `execute` runs other commands. -/
def carryOut (execute : Standing → List String → List Value → Run Value) (standing : Standing) :
    Act → Run Value
  | .finish outcome => { outcome }
  | .execute standing? tokens extras next =>
    let inner := execute (standing?.getD standing) tokens extras
    let rest := carryOut execute standing (next inner.outcome)
    { outcome := rest.outcome, trace := inner.trace ++ rest.trace }

/-- Wraps an ordinary fault of a handler into a failure. Failures pass through untouched. -/
def wrap : Outcome → Outcome
  | .error (.fault fault) =>
    if fault.isOrdinary then
      match Failure.ofFault fault with
      | .ok failure => .error (.failure { failure with chained := true })
      | .error other => .error (.fault other)
    else .error (.fault fault)
  | outcome => outcome

/-- The same dispatcher for everyone of whom nothing but a standing is known. -/
def anyone : Dispatcher Standing where
  catalog := dispatcher.catalog
  registry := dispatcher.registry
  check standing permission := standing permission
  settings := dispatcher.settings
  depth := dispatcher.depth

/-- Executes a command; `depth` counts it and the commands that handlers execute one inside the
other. -/
def executeWithin : Nat → Standing → List String → List Value → Run Value
  | 0, _, _, _ => .stop .tooDeep
  | depth + 1, standing, tokens, extras => do
    let invocation ← dispatcher.anyone.resolve tokens standing
    Run.log ⟨.debug, "Executing command: " ++ " ".intercalate invocation.path⟩
    let act ← invocation.call extras
    let run := carryOut (executeWithin depth) standing act
    { run with outcome := wrap run.outcome }

def execute (tokens : List String) (caller : C) (extras : List Value) : Run Value :=
  dispatcher.executeWithin (dispatcher.depth + 1) (dispatcher.check caller) tokens extras

def executeLine (line : String) (caller : C) (extras : List Value) : Run Value :=
  dispatcher.execute (splitLine line dispatcher.settings.lead) caller extras

end Dispatcher

inductive Verdict where
  | done (value : Value)
  | failed (failure : Failure)

def Dispatcher.dispatch {C : Type} (dispatcher : Dispatcher C) (tokens : List String) (caller : C)
    (extras : List Value) : Run Verdict :=
  let run := dispatcher.execute tokens caller extras
  { outcome := match run.outcome with
      | .ok value => .ok (.done value)
      | .error (.failure failure) => .ok (.failed failure)
      | .error (.fault fault) => .error (.fault fault)
    trace := run.trace }

end CommandTree
