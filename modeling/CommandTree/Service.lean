import CommandTree.Dispatch

/-!
A caller in another process is a list of permission nodes, and every answer is a plain record.
-/

namespace CommandTree

structure Service where
  catalog : Catalog
  registry : Registry
  settings : Settings

/-- The answer to a request. A request without tokens resolves nothing. -/
inductive Answer where
  | verdict (verdict : Verdict)
  | nothing

namespace Answer

def record : Answer → Value
  | verdict (.done value) => .map [(.str "ok", .bool true), (.str "result", value)]
  | verdict (.failed failure) => .map [(.str "ok", .bool false),
      (.str "kind", .str failure.kind.word), (.str "message", failure.message),
      (.str "usage", failure.usage)]
  | nothing => .map [(.str "ok", .bool false), (.str "kind", .null),
      (.str "message", .str "Empty command."), (.str "usage", .null)]

end Answer

namespace Service
variable (service : Service)

/-- Starting a service configures the log and freezes the registry. -/
structure Start where
  service : Service
  level : LogLevel
  records : List LogRecord

def start (catalog : Catalog) (registry : Registry) (settings? : Option Settings) : Start :=
  let settings := settings?.getD registry.settings
  let setup := settings.configureLog
  let (frozen, records) := registry.freeze
  { service := { catalog, registry := frozen, settings }
    level := setup.level
    records := setup.records ++ records ++ [⟨.info,
      s!"CommandService ready with {frozen.synopses.keys.length} root commands"⟩] }

def dispatcher : Dispatcher PermissionSet where
  catalog := service.catalog
  registry := service.registry
  check held permission := held.answerTo permission
  settings := service.settings

def handle (tokens permissions : List String) (extras : List Value) : Run Answer :=
  if tokens.isEmpty then pure .nothing
  else
    let run := service.dispatcher.dispatch tokens ⟨permissions⟩ extras
    { outcome := run.outcome.map .verdict, trace := run.trace }

def handleLine (line : String) (permissions : List String) (extras : List Value) : Run Answer :=
  service.handle (splitLine line service.settings.lead) permissions extras

end Service
end CommandTree
