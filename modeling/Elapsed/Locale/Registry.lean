import Elapsed.Event
import Elapsed.Locale.Builtin
import Elapsed.Locale.Definition
import Elapsed.Template.Render

/-!
# Registered locales

The tables that can be selected, and the identifier that is selected. The baseline table is kept
apart, so that there always is one to fall back on; registering a table under its identifier
replaces it. The selected identifier need not be registered.

Durations are shown in the locale that is selected. `Registry.format` always shows something, if
need be in the baseline; `Registry.formatStrict` asks for the selected locale to be registered.
-/

namespace Elapsed.Locale

/-- The identifier of the locale to fall back on. -/
def baselineId : String :=
  "en_US"

/-- Registered tables and the selected identifier. -/
structure Registry where
  /-- The table under the baseline identifier. -/
  baseline : Table
  /-- The tables under all other identifiers. -/
  others : Entries Table
  /-- The selected identifier. -/
  current : String

namespace Registry

/-! ## Registering and selecting -/

/-- The built-in locales, with the baseline selected. -/
def initial : Registry where
  baseline := Builtin.enUS
  others := .ofList ((Builtin.tables.filter (·.id != baselineId)).map fun t => (t.id, t))
  current := baselineId

/-- Selects an identifier. -/
def select (r : Registry) (id : String) : Registry :=
  { r with current := id }

/-- The table under an identifier. -/
def get? (r : Registry) (id : String) : Option Table :=
  if id = baselineId then some r.baseline else r.others.get? id

/-- Whether there is a table under an identifier. -/
def contains (r : Registry) (id : String) : Bool :=
  id == baselineId || r.others.contains id

/-- Puts a table under its identifier, and gives back the one that was there. -/
def register (r : Registry) (t : Table) : Registry × Option Table :=
  if t.id = baselineId then ({ r with baseline := t }, some r.baseline)
  else ({ r with others := r.others.insert t.id t }, r.others.get? t.id)

theorem get?_select (r : Registry) (id other : String) : (r.select id).get? other = r.get? other :=
  rfl

/-- Registering a table changes what is under its identifier and nothing else. -/
theorem get?_register (r : Registry) (t : Table) (id : String) :
    (r.register t).1.get? id = if t.id = id then some t else r.get? id := by
  unfold register get?
  by_cases h : t.id = baselineId
  · by_cases h' : id = baselineId
    · simp [h, h']
    · simp [h, h', Ne.symm h']
  · by_cases h' : id = baselineId
    · simp [h, h']
    · simp [h, h', Entries.get?_insert]

/-- Registering a table gives back the one that was under its identifier. -/
theorem register_snd (r : Registry) (t : Table) : (r.register t).2 = r.get? t.id := by
  unfold register get?
  split <;> rfl

/-! ## Looking up -/

/-- The registered identifiers in ascending order. -/
def ids (r : Registry) : List String :=
  (r.others.keys ++ [baselineId]).mergeSort fun a b => a ≤ b

/-- The selected table. -/
def selected (r : Registry) : Except Error Table :=
  match r.get? r.current with
  | some t => .ok t
  | none => .error (.unknownLocale r.current)

/-- The selected table, or with a warning the baseline if the selected identifier is not
registered. -/
def effective (r : Registry) : Logged Table :=
  match r.selected with
  | .ok t => ⟨t, []⟩
  | .error e => ⟨r.baseline, [.baselineUsed e.message baselineId]⟩

/-! ## Several tables -/

/-- Registers tables one after the other; a warning tells of each that replaces another. -/
def registerAll (r : Registry) : List Table → Logged Registry
  | [] => ⟨r, []⟩
  | t :: rest =>
    let (next, replaced) := r.register t
    let done := next.registerAll rest
    ⟨done.value, (if replaced.isSome then [.localeOverridden t.id] else []) ++ done.events⟩

/-! ## Showing a duration -/

/-- Shows a duration in the selected locale, or with a warning in the baseline. What there is to
report of the template comes after the warning. -/
def format (r : Registry) (seconds : UInt64) (template : String) :
    Logged (Except WidthError String) :=
  let table := r.effective
  ⟨table.value.localizer.format seconds template,
    table.events ++ Template.diagnostics template⟩

/-- Shows a duration in the selected locale; if that is not registered, the template is not even
read. -/
def formatStrict (r : Registry) (seconds : UInt64) (template : String) :
    Except Error (Logged (Except WidthError String)) :=
  match r.selected with
  | .error e => .error e
  | .ok t => .ok ⟨t.localizer.format seconds template, Template.diagnostics template⟩

end Registry

end Elapsed.Locale
