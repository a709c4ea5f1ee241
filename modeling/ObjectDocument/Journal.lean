/-!
# Journal

What the operations have to tell beside their answers.  Nothing reads a record back, so none
decides an answer.
-/

namespace ObjectDocument

inductive LogLevel where
  | error
  | warn
  | info
  | debug
  | trace
deriving DecidableEq, Repr

def LogLevel.label : LogLevel → String
  | .error => "ERROR"
  | .warn => "WARN"
  | .info => "INFO"
  | .debug => "DEBUG"
  | .trace => "TRACE"

structure LogRecord where
  level : LogLevel
  message : String
deriving DecidableEq, Repr

end ObjectDocument
