/-! # Log records -/

namespace LiveScene

inductive Level where
  | debug
  | info
  | warn
  | error
deriving DecidableEq, Repr

def Level.name : Level → String
  | .debug => "DEBUG"
  | .info => "INFO"
  | .warn => "WARN"
  | .error => "ERROR"

/-- How much a level matters. -/
def Level.weight : Level → Nat
  | .debug => 0
  | .info => 1
  | .warn => 2
  | .error => 3

structure LogRecord where
  level : Level
  text : String
deriving DecidableEq, Repr

/-- Records in the order they were written. -/
abbrev Log := Array LogRecord

namespace Log

def debug (text : String) : Log := #[⟨.debug, text⟩]
def info (text : String) : Log := #[⟨.info, text⟩]
def warn (text : String) : Log := #[⟨.warn, text⟩]
def error (text : String) : Log := #[⟨.error, text⟩]

/-- The records of at least the given level. -/
def atLeast (level : Level) (log : Log) : Log :=
  log.filter fun entry => level.weight ≤ entry.level.weight

end Log

end LiveScene
