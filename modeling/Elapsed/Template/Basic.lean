import Elapsed.Event
import Elapsed.Template.Segment

/-!
# Templates

A template is read once into nodes. Reading never fails: a span that is no placeholder becomes an
invalid node, and `Template.diagnostics` reports each of them with the number of bytes before it.
-/

namespace Elapsed

/-- An element of a template. -/
inductive Node where
  /-- Text shown as it stands. -/
  | literal (text : List Char)
  /-- A unit to show. -/
  | placeholder (p : Placeholder)
  /-- A span that is no placeholder. -/
  | invalid
  deriving DecidableEq

/-- The node of a segment; a lone backslash has none. -/
def Segment.node? : Segment → Option Node
  | .run text => some (.literal text)
  | .escape c => some (.literal [c])
  | .loneBackslash => none
  | .span code => some ((Placeholder.ofCode? code).elim .invalid .placeholder)
  | .openSpan _ => some .invalid

/-- The number of bytes of a text in UTF-8. -/
def utf8Length : List Char → Nat
  | [] => 0
  | c :: rest => c.utf8Size + utf8Length rest

/-- What there is to report of a segment that starts behind `offset` bytes. -/
def Segment.diagnostic? (offset : Nat) : Segment → Option Event
  | .span code =>
    if (Placeholder.ofCode? code).isNone then
      some (.invalidPlaceholder (String.ofList code) offset)
    else none
  | .openSpan code => some (.unterminatedPlaceholder (String.ofList code) offset)
  | _ => none

/-- What there is to report of segments that start behind `offset` bytes, in order. -/
def Segment.diagnostics (offset : Nat) : List Segment → List Event
  | [] => []
  | s :: rest => (s.diagnostic? offset).toList ++ diagnostics (offset + utf8Length s.text) rest

/-- A template: its text and the nodes it was read into. -/
structure Template where
  source : String
  nodes : List Node
  deriving DecidableEq

namespace Template

/-- The nodes of a text. -/
def nodesOf (text : List Char) : List Node :=
  (Segment.split text).filterMap Segment.node?

/-- Reads a template. -/
def parse (source : String) : Template where
  source := source
  nodes := nodesOf source.toList

/-- The spans of a text that are no placeholders, in order. -/
def diagnostics (source : String) : List Event :=
  Segment.diagnostics 0 (Segment.split source.toList)

/-- The number of nodes. -/
def size (t : Template) : Nat :=
  t.nodes.length

/-- Whether there are no nodes. -/
def isEmpty (t : Template) : Bool :=
  t.nodes.isEmpty

/-- Whether some span is no placeholder. -/
def isFaulty (t : Template) : Bool :=
  t.nodes.contains .invalid

/-- The placeholders, in order. -/
def placeholders (t : Template) : List Placeholder :=
  t.nodes.filterMap fun
    | .placeholder p => some p
    | _ => none

end Template

end Elapsed
