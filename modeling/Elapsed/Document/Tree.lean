/-!
# Document trees

What a value of a structured document is on its surface, whatever the format of the document: a
text, a list, a table, nothing, or anything else (`Shape`). The values inside are of the format's
own type still.

A `Tree` is what is left of a JSON or TOML document once its format is forgotten: texts, lists,
tables and nothing. Numbers, truth values and texts that are no valid text are all alike, because no
field of a locale file takes them.
-/

namespace Elapsed.Document

/-! ## Shapes of values -/

/-- What a value in a table stands under. -/
inductive Name where
  /-- A text. -/
  | text (s : String)
  /-- A whole number, which stands for a place among the fields of a record. -/
  | place (n : Nat)
  /-- Something that names nothing. -/
  | other
  deriving DecidableEq

/-- What a value is on its surface. -/
inductive Shape (α : Type) where
  /-- Nothing. -/
  | null
  /-- A text. -/
  | text (s : String)
  /-- Values in order. -/
  | list (items : List α)
  /-- Values under names, in order; a name may come more than once. -/
  | table (entries : List (Name × α))
  /-- Anything else. -/
  | other

/-! ## Trees -/

/-- The content of a structured document. -/
inductive Tree where
  /-- Nothing. -/
  | null
  /-- A value that no field takes, such as a number. -/
  | other
  /-- A text. -/
  | text (s : String)
  /-- Values in order. -/
  | list (items : List Tree)
  /-- Values under names, in order; a name may come more than once. -/
  | table (entries : List (String × Tree))
  deriving Inhabited

/-- The shape of a tree. -/
def Tree.shape : Tree → Shape Tree
  | null => .null
  | other => .other
  | text s => .text s
  | list items => .list items
  | table entries => .table (entries.map fun e => (.text e.1, e.2))

/-- The text that a tree is. -/
def Tree.text? : Tree → Option String
  | text s => some s
  | _ => none

end Elapsed.Document
