import Elapsed.Document.Tree

/-!
# TOML tables under construction

A TOML document writes its tables bit by bit: a header opens a table by its path, a dotted key
reaches into tables below the open one. What may be written to a table later depends on how it came
about (`Origin`), and nothing may be written twice. `assign` puts a value under a dotted key, and
`openTable` and `openItem` open the table of a header and fill it. All of them fail if the document
contradicts itself.
-/

namespace Elapsed.Document.Toml

/-- How a table came about. -/
inductive Origin where
  /-- It has a header of its own. -/
  | header
  /-- It lies on the path of a header. -/
  | implied
  /-- It lies on the path of a dotted key. -/
  | dotted
  deriving DecidableEq

/-- What stands under a name of a table under construction. -/
inductive Item where
  /-- A value, to which nothing can be added. -/
  | value (t : Tree)
  /-- A table. -/
  | table (origin : Origin) (entries : List (String × Item))
  /-- Tables under one header written several times; only the last one can be added to. -/
  | tables (earlier : List Tree) (last : List (String × Item))

/-- The entries of a table under construction. -/
abbrev Body : Type := List (String × Item)

mutual

/-- The tree of what stands under a name. -/
def Item.tree : Item → Tree
  | .value t => t
  | .table _ entries => .table (entryTrees entries)
  | .tables earlier last => .list (earlier ++ [.table (entryTrees last)])

/-- The trees of the entries of a table. -/
def entryTrees : List (String × Item) → List (String × Tree)
  | [] => []
  | (name, item) :: rest => (name, item.tree) :: entryTrees rest

end

/-- Changes what stands under a name, or puts something there. -/
def updateAt (name : String) (change : Option Item → Option Item) : Body → Option Body
  | [] => (change none).map fun item => [(name, item)]
  | (n, item) :: rest =>
    if n = name then (change (some item)).map fun item => (n, item) :: rest
    else (updateAt name change rest).map ((n, item) :: ·)

/-- Puts a value under a dotted key. The tables on its path are opened as they are needed. A table
with a header of its own is closed to dotted keys from outside, and the last table on the path
must have come about by dotted keys alone. -/
def assign (value : Tree) : List String → Body → Option Body
  | [], _ => none
  | [name], body =>
    updateAt name (fun
      | none => some (.value value)
      | some _ => none) body
  | name :: next :: more, body =>
    updateAt name (fun
      | none => (assign value (next :: more) []).map (.table .dotted)
      | some (.table origin inner) =>
        if origin = .header ∨ (more = [] ∧ origin ≠ .dotted) then none
        else (assign value (next :: more) inner).map (.table origin)
      | some (.tables earlier last) =>
        if more = [] then none else (assign value (next :: more) last).map (.tables earlier)
      | some (.value _) => none) body

/-- Changes the table in which the last name of a path stands. The tables on the path are opened as
they are needed. -/
def reach (change : String → Body → Option Body) : List String → Body → Option Body
  | [], _ => none
  | [name], body => change name body
  | name :: next :: more, body =>
    updateAt name (fun
      | none => (reach change (next :: more) []).map (.table .implied)
      | some (.table origin inner) => (reach change (next :: more) inner).map (.table origin)
      | some (.tables earlier last) => (reach change (next :: more) last).map (.tables earlier)
      | some (.value _) => none) body

/-- Opens the table of a header and fills it. A table that so far only lay on the paths of other
headers is opened with what it holds. -/
def openTable (fill : Body → Option Body) (path : List String) : Body → Option Body :=
  reach (fun name => updateAt name fun
    | none => (fill []).map (.table .header)
    | some (.table .implied inner) => (fill inner).map (.table .header)
    | some _ => none) path

/-- Opens one more table of a header that may be written several times, and fills it. -/
def openItem (fill : Body → Option Body) (path : List String) : Body → Option Body :=
  reach (fun name => updateAt name fun
    | none => (fill []).map (.tables [])
    | some (.tables earlier last) =>
      (fill []).map (.tables (earlier ++ [.table (entryTrees last)]))
    | some _ => none) path

/-- Puts values under dotted keys, one after the other. -/
def assignAll (pairs : List (List String × Tree)) (body : Body) : Option Body :=
  pairs.foldlM (fun body pair => assign pair.2 pair.1 body) body

end Elapsed.Document.Toml
