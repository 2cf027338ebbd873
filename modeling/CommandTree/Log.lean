namespace CommandTree

inductive Severity where
  | debug
  | info
  | warning
  | error
  deriving DecidableEq, Repr

def Severity.word : Severity → String
  | debug => "DEBUG"
  | info => "INFO"
  | warning => "WARNING"
  | error => "ERROR"

structure LogRecord where
  severity : Severity
  text : String
  deriving DecidableEq, Repr

end CommandTree
