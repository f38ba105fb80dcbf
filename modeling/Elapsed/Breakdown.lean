import Elapsed.TimeUnit

/-!
# Durations counted in units

A duration is a number of whole seconds below `2 ^ 64`. Each unit counts it in two ways: the
*cumulative* count is the number of whole units in all of it, the *remainder* is what is left of
that count once the whole units of the next longer kind are taken out. Days and weeks have no next
longer kind here, so both of their counts are cumulative.
-/

namespace Elapsed

/-- The unit that takes out the whole groups of this one, if there is one. -/
def TimeUnit.parent? : TimeUnit → Option TimeUnit
  | .second => some .minute
  | .minute => some .hour
  | .hour => some .day
  | .day => none
  | .week => none

/-- A duration, read as counts of units. -/
structure Breakdown where
  /-- The whole duration in seconds. -/
  total : UInt64
  deriving DecidableEq

namespace Breakdown

/-- The number of whole units in the duration. -/
def cumulative (b : Breakdown) (u : TimeUnit) : UInt64 :=
  b.total / u.seconds

/-- The number of whole units left once the whole units of the next longer kind are taken out. -/
def remainder (b : Breakdown) (u : TimeUnit) : UInt64 :=
  match u.parent? with
  | some p => b.cumulative u - b.cumulative p * (p.seconds / u.seconds)
  | none => b.cumulative u

/-- One of the two counts of a unit. -/
def count (b : Breakdown) (u : TimeUnit) (cumulative : Bool) : UInt64 :=
  if cumulative then b.cumulative u else b.remainder u

/-- The longest unit that the duration holds at least once; the second if it holds none. -/
def greatest (b : Breakdown) : TimeUnit :=
  (TimeUnit.all.find? fun u => b.cumulative u > 0).getD .second

/-- The unit a selector stands for in this duration. -/
def resolve (b : Breakdown) : Selector → TimeUnit
  | .fixed u => u
  | .greatest => b.greatest

end Breakdown

end Elapsed
