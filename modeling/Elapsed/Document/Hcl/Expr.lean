import Elapsed.Document.Hcl.Number
import Elapsed.Document.Scan
import Elapsed.Document.Tree

/-!
# HCL expressions

The expressions that can stand for a value of an HCL document. Where a text is wanted, any of them
will do: a text stands for itself, everything else for the way it is written, between the marks of
an expression to be filled in (`Expr.toText`).
-/

namespace Elapsed.Document.Hcl

/-- An expression. -/
inductive Expr where
  /-- Nothing. -/
  | null
  /-- A truth value. -/
  | truth (b : Bool)
  /-- A number. -/
  | number (n : Number)
  /-- A text in one piece. -/
  | text (s : String)
  /-- A text in several pieces, with the marks of parts to be filled in doubled. -/
  | template (s : String)
  /-- A text by lines: whether its lines were moved to the left, the name that closes it, and the
  text, with the marks of parts to be filled in doubled. -/
  | lines (moved : Bool) (closing : String) (s : String)
  /-- A name: as a key it stands for itself, as a value for something that is not known here. -/
  | reference (name : String)
  /-- A part of the value of another expression: how it is reached from there, as it is written. -/
  | part (base : Expr) (steps : List Char)
  /-- Values in order. -/
  | list (items : List Expr)
  /-- Values under keys, which are expressions too. -/
  | object (entries : List (Expr × Expr))

/-! ## Equality -/

mutual

/-- Whether two expressions are equal. The order of entries in an object does not count. -/
def Expr.same : Expr → Expr → Bool
  | .null, .null => true
  | .truth b, .truth c => b == c
  | .number m, .number n => m.same n
  | .text s, .text t => s == t
  | .template s, .template t => s == t
  | .lines moved closing s, .lines moved' closing' t =>
    moved == moved' && closing == closing' && s == t
  | .reference name, .reference name' => name == name'
  | .part base steps, .part base' steps' => base.same base' && steps == steps'
  | .list items, .list items' => sameItems items items'
  | .object entries, .object entries' =>
    entries.length == entries'.length && isWithin entries entries'
  | _, _ => false

/-- Whether the items of two lists are equal. -/
def sameItems : List Expr → List Expr → Bool
  | [], [] => true
  | e :: rest, e' :: rest' => e.same e' && sameItems rest rest'
  | _, _ => false

/-- Whether every entry of an object equals one of another. -/
def isWithin : List (Expr × Expr) → List (Expr × Expr) → Bool
  | [], _ => true
  | (key, value) :: rest, entries =>
    entries.any (fun e => key.same e.1 && value.same e.2) && isWithin rest entries

end

/-! ## Marks -/

/-- A text from a mark on that opens a part to be filled in: the mark is doubled, and so is every
later one, unless its first character follows another such character that is not doubled itself. -/
def escapeLater : List Char → List Char
  | [] => []
  | [c] => [c]
  | c :: d :: rest =>
    if c = '$' ∨ c = '%' then
      if d = '{' then c :: c :: '{' :: escapeLater rest else c :: d :: escapeLater rest
    else c :: escapeLater (d :: rest)

/-- A text with the marks doubled that would open a part to be filled in. -/
def escapeMarks : List Char → List Char
  | [] => []
  | c :: rest =>
    if (c = '$' ∨ c = '%') ∧ rest.head? = some '{' then escapeLater (c :: rest)
    else c :: escapeMarks rest

/-- A text in which doubled marks stand for single ones; none if a single one opens a part to be
filled in. -/
def unescapeMarks? : List Char → Option (List Char)
  | [] => some []
  | '$' :: '$' :: '{' :: rest => (unescapeMarks? rest).map fun text => '$' :: '{' :: text
  | '%' :: '%' :: '{' :: rest => (unescapeMarks? rest).map fun text => '%' :: '{' :: text
  | '$' :: '{' :: _ => none
  | '%' :: '{' :: _ => none
  | c :: rest => (unescapeMarks? rest).map (c :: ·)

/-! ## Writing -/

/-- A text between quotes. -/
def writeQuoted (s : String) : List Char :=
  '"' :: (escapeMarks s.toList).flatMap escape ++ ['"']

/-- A text by lines between its name and its name again. -/
def writeLines (moved : Bool) (closing text : List Char) : List Char :=
  let mark := if moved then ['<', '<', '-'] else ['<', '<']
  let lineEnd := if text.getLast? = some '\n' then [] else ['\n']
  mark ++ closing ++ '\n' :: text ++ lineEnd ++ closing

mutual

/-- Whether the list or object written last in an expression has no content but for others without
content at its end; nothing if no list or object is written. -/
def Expr.hollow? : Expr → Option Bool
  | .list items => some (hollowItems items)
  | .object entries => some (hollowEntries entries)
  | .part base _ => base.hollow?
  | _ => none

/-- Whether a list of some items is hollow. -/
def hollowItems : List Expr → Bool
  | [] => true
  | item :: rest =>
    match rest with
    | [] => item.hollow?.getD false
    | _ => hollowItems rest

/-- Whether an object of some entries is hollow. -/
def hollowEntries : List (Expr × Expr) → Bool
  | [] => true
  | (key, value) :: rest =>
    match rest with
    | [] => (value.hollow?.or key.hollow?).getD false
    | _ => hollowEntries rest

end

/-- What separates an item of a list from the next: nothing if it is hollow. -/
def itemSeparator (item : Expr) : List Char :=
  if item.hollow? = some true then [] else [',', ' ']

/-- What separates an entry of an object from the next: just a blank if what is written last of it
is hollow. -/
def entrySeparator (key value : Expr) : List Char :=
  if value.hollow?.or key.hollow? = some true then [' '] else [',', ' ']

mutual

/-- An expression on one line. -/
def Expr.write : Expr → List Char
  | .null => "null".toList
  | .truth b => if b then "true".toList else "false".toList
  | .number n => n.write
  | .text s => writeQuoted s
  | .template s => '"' :: s.toList ++ ['"']
  | .lines moved closing s => writeLines moved closing.toList s.toList
  | .reference name => name.toList
  | .part base steps => base.write ++ steps
  | .list items => '[' :: writeItems items ++ [']']
  | .object [] => ['{', '}']
  | .object entries => '{' :: ' ' :: writeEntries entries ++ [' ', '}']

/-- The items of a list. -/
def writeItems : List Expr → List Char
  | [] => []
  | item :: rest =>
    match rest with
    | [] => item.write
    | _ => item.write ++ itemSeparator item ++ writeItems rest

/-- The entries of an object. -/
def writeEntries : List (Expr × Expr) → List Char
  | [] => []
  | (key, value) :: rest =>
    let entry := key.write ++ ' ' :: '=' :: ' ' :: value.write
    match rest with
    | [] => entry
    | _ => entry ++ entrySeparator key value ++ writeEntries rest

end

/-! ## Expressions as values -/

namespace Expr

/-- The text that an expression stands for. -/
def toText : Expr → String
  | text s => s
  | template s => s
  | lines _ _ s => s
  | e => String.ofList ('$' :: '{' :: e.write ++ ['}'])

/-- What an expression names as a key. -/
def keyName : Expr → Name
  | reference name => .text name
  | text s => .text s
  | template s => .text s
  | lines _ _ s => .text s
  | number (.whole (.ofNat n)) => .place n
  | _ => .other

/-- The shape of an expression. A text by lines and a part are records where one is wanted, but of
fields that no other record has. -/
def shape : Expr → Shape Expr
  | null => .null
  | text s => .text s
  | list items => .list items
  | object entries => .table (entries.map fun e => (e.1.keyName, e.2))
  | lines _ _ s => .table [(.text "template", .text s)]
  | part .. => .table [(.text "expr", .null)]
  | _ => .other

end Expr

end Elapsed.Document.Hcl
