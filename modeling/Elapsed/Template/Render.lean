import Elapsed.Breakdown
import Elapsed.Decimal
import Elapsed.Template.Basic

/-!
# Showing a duration through a template

Nodes are written one after the other. The only thing that can go wrong is a number padded to more
than `maxWidth` digits, and then nothing is written at all.
-/

namespace Elapsed

/-- The widest padding that can be written. -/
def maxWidth : Nat :=
  65535

/-- A padding wider than `maxWidth`. -/
structure WidthError where
  width : Nat
  deriving DecidableEq

/-- A number with zeros in front up to `width` digits; a longer number keeps all its digits. -/
def writePadded (value : UInt64) (width : Nat) : Except WidthError (List Char) :=
  if width ≤ maxWidth then .ok (Decimal.pad width value.toNat) else .error ⟨width⟩

/-- The text that a language puts behind a number, as a placeholder asks for it. -/
def Suffix.text (l : Localizer) (u : TimeUnit) (value : UInt64) : Suffix → List Char
  | .bare => []
  | .abbreviation => (l.abbreviation u).toList
  | .word => (l.word u value).toList

namespace Placeholder

/-- Whether a placeholder is left out: it is optional, and the duration is shorter than its unit. -/
def hidden (p : Placeholder) (b : Breakdown) : Bool :=
  p.optional && b.cumulative (b.resolve p.unit) == 0

/-- The number a placeholder shows. -/
def value (p : Placeholder) (b : Breakdown) : UInt64 :=
  b.count (b.resolve p.unit) p.cumulative

/-- The text of a placeholder. -/
def render (p : Placeholder) (b : Breakdown) (l : Localizer) : Except WidthError (List Char) :=
  if p.hidden b then .ok []
  else do
    let number ← writePadded (p.value b) p.digits
    return number ++ p.suffix.text l (b.resolve p.unit) (p.value b) ++ p.tail

end Placeholder

/-- The text of a node; an invalid one is marked by a question mark. -/
def Node.render (b : Breakdown) (l : Localizer) : Node → Except WidthError (List Char)
  | .literal text => .ok text
  | .placeholder p => p.render b l
  | .invalid => .ok ['?']

/-- The text of nodes, one after the other. -/
def Node.renderAll (b : Breakdown) (l : Localizer) (nodes : List Node) :
    Except WidthError (List Char) :=
  return (← nodes.mapM (Node.render b l)).flatten

/-- The text of a template for a duration in a language. -/
def Template.render (t : Template) (b : Breakdown) (l : Localizer) : Except WidthError String :=
  return String.ofList (← Node.renderAll b l t.nodes)

/-- Reads a template and shows a duration of so many seconds through it. -/
def Localizer.format (l : Localizer) (seconds : UInt64) (template : String) :
    Except WidthError String :=
  (Template.parse template).render ⟨seconds⟩ l

end Elapsed
