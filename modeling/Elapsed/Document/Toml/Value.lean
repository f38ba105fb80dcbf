import Elapsed.Document.Toml.Number
import Elapsed.Document.Toml.Table
import Elapsed.Document.Toml.Text

/-!
# TOML keys and values

Keys are names between points; values are texts, numbers, times, truth values, lists and tables in
one line. Lists and tables may be nested below each other, and keys may be dotted, fewer than
`maxDepth` times.
-/

namespace Elapsed.Document.Toml

/-- As deep as this lists and tables must not be nested, and as long as this keys must not be. -/
def maxDepth : Nat :=
  80

/-- The text behind the blanks of a line. -/
def dropBlanks (text : List Char) : List Char :=
  text.dropWhile isBlank

/-! ## Keys -/

/-- Whether a character may stand in a name without quotes. -/
def isBare (c : Char) : Bool :=
  c.isAlphanum || c == '_' || c == '-'

/-- One name of a key: bare, or quoted on one line. -/
def name? : List Char → Option (String × List Char)
  | '"' :: rest => (basic? rest).map fun (s, behind) => (String.ofList s, behind)
  | '\'' :: rest => (literal? rest).map fun (s, behind) => (String.ofList s, behind)
  | text =>
    match text.takeWhile isBare with
    | [] => none
    | s => some (String.ofList s, text.dropWhile isBare)

/-- The names of a key, with blanks around each. -/
def names? (text : List Char) : Option (List String × List Char) := do
  let (name, rest) ← name? (dropBlanks text)
  match dropBlanks rest with
  | '.' :: tail =>
    if tail.length < text.length then
      let (names, behind) ← names? tail
      return (name :: names, behind)
    else none
  | behind => return ([name], behind)
termination_by text.length

/-- A key of fewer than `maxDepth` names. -/
def key? (text : List Char) : Option (List String × List Char) := do
  let (names, behind) ← names? text
  if names.length < maxDepth then some (names, behind) else none

/-! ## Values -/

/-- The text behind blanks, line ends and comments. A comment goes up to the end of its line. -/
def dropSpace (inComment : Bool) : List Char → List Char
  | [] => []
  | '\n' :: rest => dropSpace false rest
  | '\r' :: '\n' :: rest => dropSpace false rest
  | c :: rest =>
    if inComment then
      if isLineChar c then dropSpace true rest else c :: rest
    else if isBlank c then dropSpace false rest
    else if c = '#' then dropSpace true rest
    else c :: rest

/-- The items of a list up to its closing bracket, with a comma behind each but the last, where it
may be left out. -/
def items? (value : List Char → Option (Tree × List Char)) (text : List Char) :
    Option (List Tree × List Char) :=
  match dropSpace false text with
  | ']' :: behind => some ([], behind)
  | start => do
    let (item, rest) ← value start
    match dropSpace false rest with
    | ']' :: behind => return ([item], behind)
    | ',' :: tail =>
      if tail.length < text.length then
        let (items, behind) ← items? value tail
        return (item :: items, behind)
      else none
    | _ => none
termination_by text.length

/-- A key, an equals sign and a value. -/
def pair? (value : List Char → Option (Tree × List Char)) (text : List Char) :
    Option ((List String × Tree) × List Char) := do
  let (names, rest) ← key? text
  let (v, behind) ← value (dropBlanks (← skip? '=' rest))
  return ((names, v), behind)

/-- The pairs of a table in one line up to its closing brace, with a comma between each and the
next. -/
def pairs? (value : List Char → Option (Tree × List Char)) (text : List Char) :
    Option (List (List String × Tree) × List Char) := do
  let (pair, rest) ← pair? value text
  match dropBlanks rest with
  | '}' :: behind => return ([pair], behind)
  | ',' :: tail =>
    if tail.length < text.length then
      let (pairs, behind) ← pairs? value tail
      return (pair :: pairs, behind)
    else none
  | _ => none
termination_by text.length

/-- A table in one line behind its opening brace. -/
def inlineTable? (value : List Char → Option (Tree × List Char)) (text : List Char) :
    Option (Tree × List Char) := do
  match dropBlanks text with
  | '}' :: behind => return (.table [], behind)
  | start =>
    let (pairs, behind) ← pairs? value start
    return (.table (entryTrees (← assignAll pairs [])), behind)

/-- The tree of a time: a table with one entry that belongs to no record. -/
def timeTree : Tree :=
  .table [("date-time", .text "")]

/-- A time, a number or a truth value. A time is looked for first, and a whole number last. -/
def plain? (text : List Char) : Option (Tree × List Char) :=
  match dateTime? text with
  | some behind => some (timeTree, behind)
  | none =>
    match (float? text).or (integer? text) with
    | some behind => some (.other, behind)
    | none =>
      match text with
      | 't' :: 'r' :: 'u' :: 'e' :: behind => some (.other, behind)
      | 'f' :: 'a' :: 'l' :: 's' :: 'e' :: behind => some (.other, behind)
      | _ => none

/-- A value whose lists and tables are nested at most `depth` times. -/
def value? : Nat → List Char → Option (Tree × List Char)
  | depth, '[' :: rest =>
    match depth with
    | 0 => none
    | below + 1 => (items? (value? below) rest).map fun (items, behind) => (.list items, behind)
  | depth, '{' :: rest =>
    match depth with
    | 0 => none
    | below + 1 => inlineTable? (value? below) rest
  | _, text =>
    match text with
    | '"' :: _ => (text? text).map fun (s, behind) => (.text (String.ofList s), behind)
    | '\'' :: _ => (text? text).map fun (s, behind) => (.text (String.ofList s), behind)
    | _ => plain? text

end Elapsed.Document.Toml
