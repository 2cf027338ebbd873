import CommandTree.Log
import CommandTree.Schema
import CommandTree.Text.Case

namespace CommandTree

inductive LogLevel where
  | critical
  | fatal
  | error
  | warn
  | warning
  | info
  | debug
  | notset
  deriving DecidableEq, Repr

namespace LogLevel

def word : LogLevel → String
  | critical => "CRITICAL"
  | fatal => "FATAL"
  | error => "ERROR"
  | warn => "WARN"
  | warning => "WARNING"
  | info => "INFO"
  | debug => "DEBUG"
  | notset => "NOTSET"

def all : List LogLevel := [critical, fatal, error, warn, warning, info, debug, notset]

def ofText? (text : String) : Option LogLevel := all.find? (·.word == Text.upper text)

end LogLevel

structure Settings where
  /-- Taken off the front of command lines and put in front of usage texts. -/
  lead : String := "/"
  /-- A key that two commands of one node claim is an error. -/
  strictAliases : Bool := false
  requireFrozen : Bool := false
  logLevel : LogLevel := .info
  deriving DecidableEq, Repr, Inhabited

namespace Settings
open Schema

def readLead (v : Value) : Checked String :=
  (readText v).demand (·.length ≤ 1) .textTooLong

def readLogLevel (v : Value) : Checked LogLevel :=
  (readText v).bind fun text =>
    match LogLevel.ofText? text with
    | some level => .valid level
    | none => .fault (.refused ("Unknown log level: " ++ text))

/-- Reads settings from named values; names that it does not know do not matter. -/
def ofFields (fields : List (Value × Value)) : Checked Settings :=
  let standard : Settings := {}
  ((((readField fields "command_prefix" (.valid standard.lead) readLead).map Settings.mk).apply
    (readField fields "strict_aliases" (.valid standard.strictAliases) readTruth)).apply
    (readField fields "require_frozen" (.valid standard.requireFrozen) readTruth)).apply
    (readField fields "log_level" (.valid standard.logLevel) readLogLevel)

abbrev Environment := List (String × String)

/-- A variable that is set is on for four words in any letter case, and off for all other texts. -/
def environmentFlag (environment : Environment) (name : String) (absent : Bool) : Bool :=
  match environment.lookup name with
  | none => absent
  | some text =>
    let word := Text.lower (String.ofList (Text.trim text.toList))
    ["1", "true", "yes", "on"].contains word

def ofEnvironment (environment : Environment) : Checked Settings :=
  ofFields [
    (.str "command_prefix", .str ((environment.lookup "COMMANDS_PREFIX").getD "/")),
    (.str "strict_aliases", .bool (environmentFlag environment "COMMANDS_STRICT_ALIASES" false)),
    (.str "require_frozen", .bool (environmentFlag environment "COMMANDS_REQUIRE_FROZEN" false)),
    (.str "log_level", .str ((environment.lookup "COMMANDS_LOG_LEVEL").getD "INFO"))]

structure LogSetup where
  level : LogLevel
  records : List LogRecord
  deriving DecidableEq, Repr

def configureLog (settings : Settings) : LogSetup where
  level := settings.logLevel
  records := [⟨.debug, "Logging configured at " ++ settings.logLevel.word⟩]

def configureLogFrom (settings? : Option Settings) (environment : Environment) :
    Checked LogSetup :=
  match settings? with
  | some settings => .valid settings.configureLog
  | none => (ofEnvironment environment).map configureLog

end Settings
end CommandTree
