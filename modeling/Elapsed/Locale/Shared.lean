import Elapsed.Locale.Load

/-!
# The process-wide locale

One registry for all callers. It does what any registry does, and reports in addition whenever a
locale is selected. A snapshot of it is a registry of its own, which later changes do not reach.
-/

namespace Elapsed.Locale

/-- The process-wide locale. -/
structure Shared where
  registry : Registry

namespace Shared

/-- The process-wide locale before anything is done to it. -/
def initial : Shared :=
  ⟨.initial⟩

/-- The selected identifier. -/
def current (s : Shared) : String :=
  s.registry.current

/-- The registered identifiers in ascending order. -/
def ids (s : Shared) : List String :=
  s.registry.ids

/-- Selects an identifier for the whole process; the change is reported even if it changes
nothing. -/
def select (s : Shared) (id : String) : Logged Shared :=
  ⟨⟨s.registry.select id⟩, [.localeChanged s.current id]⟩

/-- Registers a table for the whole process. -/
def register (s : Shared) (t : Table) : Shared :=
  ⟨(s.registry.register t).1⟩

/-- Loads a locale file for the whole process. -/
def loadFile (s : Shared) (decode : Decoder) (order : EntryOrder) (read : Reader)
    (path : String) : Outcome Nat :=
  s.registry.loadFile decode order read path

/-- The selected table. -/
def selected (s : Shared) : Except Error Table :=
  s.registry.selected

/-- The selected table, or with a warning the baseline. -/
def effective (s : Shared) : Logged Table :=
  s.registry.effective

/-- A copy of the registry as it is now. -/
def snapshot (s : Shared) : Registry :=
  s.registry

/-- Shows a duration in the selected locale, or with a warning in the baseline. -/
def format (s : Shared) (seconds : UInt64) (template : String) :
    Logged (Except WidthError String) :=
  s.registry.format seconds template

/-- Shows a duration in the selected locale, if that is registered. -/
def formatStrict (s : Shared) (seconds : UInt64) (template : String) :
    Except Error (Logged (Except WidthError String)) :=
  s.registry.formatStrict seconds template

end Shared

end Elapsed.Locale
