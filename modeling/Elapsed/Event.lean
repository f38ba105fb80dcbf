/-!
# Reported events

What the library reports while it works, beside its results. Every event has a level and a fixed
message; the rest of it are its fields.
-/

namespace Elapsed

/-- How much attention an event asks for. -/
inductive Level where
  | debug
  | info
  | warn
  deriving DecidableEq

/-- Something worth reporting that is not an error. -/
inductive Event where
  /-- A span whose code is no placeholder; the offset counts the bytes before its brace. -/
  | invalidPlaceholder (code : String) (offset : Nat)
  /-- A brace that is never closed; the offset counts the bytes before it. -/
  | unterminatedPlaceholder (code : String) (offset : Nat)
  /-- The process-wide locale was set. -/
  | localeChanged (old new : String)
  /-- The selected locale is not registered, and the baseline stands in for it. -/
  | baselineUsed (error fallback : String)
  /-- A loaded table replaced one that was registered before. -/
  | localeOverridden (id : String)
  /-- A locale file was loaded. -/
  | fileLoaded (path : String) (count : Nat)
  deriving DecidableEq

namespace Event

/-- The level of an event. -/
def level : Event → Level
  | invalidPlaceholder .. => .debug
  | unterminatedPlaceholder .. => .debug
  | localeChanged .. => .debug
  | baselineUsed .. => .warn
  | localeOverridden .. => .warn
  | fileLoaded .. => .info

/-- The message of an event, the same for all events of its kind. -/
def message : Event → String
  | invalidPlaceholder .. => "invalid placeholder"
  | unterminatedPlaceholder .. => "unterminated placeholder"
  | localeChanged .. => "locale changed"
  | baselineUsed .. => "using baseline locale"
  | localeOverridden .. => "locale file overrides registered locale"
  | fileLoaded .. => "loaded locale file"

end Event

/-- A result, with the events reported on the way to it in order. -/
structure Logged (α : Type) where
  value : α
  events : List Event

end Elapsed
