import Elapsed.Document.Json.Token

/-!
# JSON documents

A JSON text is the tokens of one value (`Json.read`). The reader walks along the tokens with the
lists and tables that are still open, the innermost first; each step takes at least one token. The
writer (`Json.write`) puts the tokens of a tree one after the other.
-/

namespace Elapsed.Document.Json

/-! ## Reading -/

/-- A list or table that is still open, with what it holds so far, the latest first. A table waits
for the value of a name. -/
inductive Frame where
  | list (done : List Tree)
  | table (done : List (Option String × Tree)) (name : Option String)

/-- The table of some entries; no valid value if one of the names is no valid text. -/
def tableOf (entries : List (Option String × Tree)) : Tree :=
  match entries.mapM fun e => e.1.map fun name => (name, e.2) with
  | some entries => .table entries
  | none => .other

mutual

/-- Reads on where a value has to come. -/
def expectValue (frames : List Frame) : List Token → Option Tree
  | .null :: rest => afterValue frames .null rest
  | .other :: rest => afterValue frames .other rest
  | .text s :: rest => afterValue frames (s.elim .other .text) rest
  | .openList :: .closeList :: rest => afterValue frames (.list []) rest
  | .openList :: rest => expectValue (.list [] :: frames) rest
  | .openTable :: .closeTable :: rest => afterValue frames (.table []) rest
  | .openTable :: .text name :: .colon :: rest => expectValue (.table [] name :: frames) rest
  | _ => none

/-- Reads on behind a value. -/
def afterValue (frames : List Frame) (value : Tree) : List Token → Option Tree
  | [] =>
    match frames with
    | [] => some value
    | _ => none
  | .comma :: .text name :: .colon :: rest =>
    match frames with
    | .table done last :: outer => expectValue (.table ((last, value) :: done) name :: outer) rest
    | _ => none
  | .comma :: rest =>
    match frames with
    | .list done :: outer => expectValue (.list (value :: done) :: outer) rest
    | _ => none
  | .closeList :: rest =>
    match frames with
    | .list done :: outer => afterValue outer (.list (value :: done).reverse) rest
    | _ => none
  | .closeTable :: rest =>
    match frames with
    | .table done last :: outer => afterValue outer (tableOf ((last, value) :: done).reverse) rest
    | _ => none
  | _ => none

end

/-- The tree of a JSON text. -/
def read (text : List Char) : Option Tree := do
  expectValue [] (← lex text)

/-! ## Writing -/

mutual

/-- The tokens of a tree. -/
def tokens : Tree → List Token
  | .null => [.null]
  | .other => [.other]
  | .text s => [.text (some s)]
  | .list items => .openList :: itemTokens items ++ [.closeList]
  | .table entries => .openTable :: entryTokens entries ++ [.closeTable]

/-- The tokens of the items of a list, with a comma between each and the next. -/
def itemTokens : List Tree → List Token
  | [] => []
  | item :: rest =>
    match rest with
    | [] => tokens item
    | _ => tokens item ++ .comma :: itemTokens rest

/-- The tokens of the entries of a table, with a comma between each and the next. -/
def entryTokens : List (String × Tree) → List Token
  | [] => []
  | (name, value) :: rest =>
    match rest with
    | [] => .text (some name) :: .colon :: tokens value
    | _ => .text (some name) :: .colon :: tokens value ++ .comma :: entryTokens rest

end

/-- The text of a tree, without blanks. -/
def write (t : Tree) : List Char :=
  (tokens t).flatMap Token.write

end Elapsed.Document.Json
