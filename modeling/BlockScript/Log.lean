/-!
# Log messages

What the operations report while they work. Messages are part of an operation's result, in order,
and those given before a failure are kept beside it.
-/

namespace BlockScript

inductive LogLevel
  | debug
  | info
  | success
  | warning
  | error
deriving DecidableEq

def LogLevel.name : LogLevel → String
  | .debug => "DEBUG"
  | .info => "INFO"
  | .success => "SUCCESS"
  | .warning => "WARNING"
  | .error => "ERROR"

structure LogEntry where
  level : LogLevel
  message : String
deriving DecidableEq

/-- A result together with the messages given on the way to it. -/
structure Logged (α : Type) where
  value : α
  log : List LogEntry

instance : Monad Logged where
  pure a := ⟨a, []⟩
  bind x f := let y := f x.value; ⟨y.value, x.log ++ y.log⟩

def Logged.say (level : LogLevel) (message : String) : Logged Unit :=
  ⟨(), [⟨level, message⟩]⟩

end BlockScript
