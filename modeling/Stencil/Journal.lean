import Stencil.Error
/-!
# Journals

A computation that may fail and writes down what it does. What was written before a failure stays.
-/

namespace Stencil

/-- How much a record matters. -/
inductive Level where
  | warn
  | debug
  | trace
deriving DecidableEq, Repr

/-- The name of a level. -/
def Level.name : Level → String
  | .warn => "warn"
  | .debug => "debug"
  | .trace => "trace"

/-- A line of a journal. -/
structure Record where
  level : Level
  text : String
deriving DecidableEq, Repr

/-- A result or an error, with the records written on the way. -/
structure Logged (α : Type) where
  result : Except Error α
  records : List Record

namespace Logged

/-- A result without records. -/
def ok {α : Type} (value : α) : Logged α := ⟨.ok value, []⟩

/-- An error without records. -/
def fail {α : Type} (error : Error) : Logged α := ⟨.error error, []⟩

/-- Writes one record. -/
def record (level : Level) (text : String) : Logged Unit := ⟨.ok (), [⟨level, text⟩]⟩

/-- Writes a trace record. -/
def trace (text : String) : Logged Unit := record .trace text

/-- Writes a debug record. -/
def debug (text : String) : Logged Unit := record .debug text

/-- Writes a warning. -/
def warn (text : String) : Logged Unit := record .warn text

/-- Goes on with a result; after an error nothing follows. -/
def andThen {α β : Type} (first : Logged α) (next : α → Logged β) : Logged β :=
  match first.result with
  | .error error => ⟨.error error, first.records⟩
  | .ok value =>
    let second := next value
    ⟨second.result, first.records ++ second.records⟩

instance : Monad Logged where
  pure := ok
  bind := andThen

/-- A result that needs no records. -/
def lift {α : Type} (result : Except Error α) : Logged α := ⟨result, []⟩

end Logged

end Stencil
