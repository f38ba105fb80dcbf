import Elapsed.Document.Toml.Value

/-!
# TOML documents

A TOML text is a sequence of lines (`Line`): values under keys, headers of tables, and headers of
tables that may be written several times. The values before the first header belong to the document
itself, all others to the header before them. `read` gives the tree of a text.
-/

namespace Elapsed.Document.Toml

/-! ## Lines -/

/-- A line that says something. -/
inductive Line where
  /-- A value under a dotted key. -/
  | pair (names : List String) (value : Tree)
  /-- The header of a table. -/
  | table (path : List String)
  /-- The header of one more table under the same path. -/
  | item (path : List String)

/-- The text behind a comment and its line. -/
def comment? (text : List Char) : Option (List Char) :=
  lineEnd? (text.dropWhile isLineChar)

/-- The text behind a line that says nothing more: blanks, and a comment. -/
def endOfLine? (text : List Char) : Option (List Char) :=
  match dropBlanks text with
  | '#' :: rest => comment? rest
  | rest => lineEnd? rest

/-- A line that starts with no blank: what it says, if anything, and the text behind it. -/
def line? (text : List Char) : Option (Option Line × List Char) :=
  match text with
  | '#' :: rest => (comment? rest).map fun behind => (none, behind)
  | '[' :: '[' :: rest => do
    let (path, tail) ← key? rest
    let behind ← endOfLine? (← skip? ']' (← skip? ']' tail))
    return (some (.item path), behind)
  | '[' :: rest => do
    let (path, tail) ← key? rest
    let behind ← endOfLine? (← skip? ']' tail)
    return (some (.table path), behind)
  | _ =>
    match newline? text with
    | some behind => some (none, behind)
    | none => do
      let ((names, value), rest) ← pair? (value? (maxDepth - 1)) text
      return (some (.pair names value), ← endOfLine? rest)

/-- The lines of a text. -/
def lines? (text : List Char) : Option (List Line) :=
  match dropBlanks text with
  | [] => some []
  | start => do
    let (line, rest) ← line? start
    if rest.length < text.length then
      let lines ← lines? rest
      return line.toList ++ lines
    else none
termination_by text.length

/-! ## Documents -/

/-- The values before the first header, and the headers with the values behind each. -/
def sections : List Line → List (List String × Tree) × List (Line × List (List String × Tree))
  | [] => ([], [])
  | .pair names value :: rest =>
    let (here, later) := sections rest
    ((names, value) :: here, later)
  | header :: rest =>
    let (here, later) := sections rest
    ([], (header, here) :: later)

/-- Writes the values of a section under its header. -/
def addSection (body : Body) (header : Line) (pairs : List (List String × Tree)) : Option Body :=
  match header with
  | .table path => openTable (assignAll pairs) path body
  | .item path => openItem (assignAll pairs) path body
  | .pair _ _ => none

/-- The entries of a document. -/
def entries? (lines : List Line) : Option Body := do
  let (here, later) := sections lines
  later.foldlM (fun body part => addSection body part.1 part.2) (← assignAll here [])

/-- The text behind a byte order mark. -/
def dropMark : List Char → List Char
  | '\ufeff' :: rest => rest
  | text => text

/-- The tree of a TOML text. -/
def read (text : List Char) : Option Tree := do
  let body ← entries? (← lines? (dropMark text))
  return .table (entryTrees body)

end Elapsed.Document.Toml
