import Elapsed.Document.Hcl.Value

/-!
# HCL documents

An HCL body holds attributes, which are values under names, and blocks, which are bodies under a
name and any number of labels. In the value of a body (`bodyOf?`) the labels of a block are names
nested in each other, blocks that share a name or labels come together, and of a block and an
attribute of one name the later takes the place of the earlier. A name that two attributes of one
body share is an error.

Only values that are written out are read here. A document that computes one, with a call, an
operator, a condition, a loop or a text with parts to be filled in, is HCL all the same.
-/

namespace Elapsed.Document.Hcl

/-! ## Parts of a body -/

/-- A part of a body. -/
inductive Part where
  /-- A value under a name. -/
  | attribute (name : String) (value : Expr)
  /-- A body under a name and labels. -/
  | block (name : String) (labels : List String) (body : Expr)

/-- What stands under a name of a body, or under a label. -/
inductive Node where
  /-- The value of an attribute. -/
  | value (e : Expr)
  /-- The bodies of blocks without further labels. -/
  | bodies (bodies : List Expr)
  /-- What stands under the next label of blocks. -/
  | labelled (entries : List (String × Node))

mutual

/-- The value of what stands under a name; a single body stands for itself. -/
def Node.toExpr : Node → Expr
  | .value e => e
  | .bodies [body] => body
  | .bodies bodies => .list bodies
  | .labelled entries => .object (nodeEntries entries)

/-- The values of what stands under names. -/
def nodeEntries : List (String × Node) → List (Expr × Expr)
  | [] => []
  | (name, node) :: rest => (.text name, node.toExpr) :: nodeEntries rest

end

/-- Changes what stands under a name, or puts something there. -/
def alter (name : String) (change : Option Node → Node) :
    List (String × Node) → List (String × Node)
  | [] => [(name, change none)]
  | (n, node) :: rest =>
    if n = name then (n, change (some node)) :: rest else (n, node) :: alter name change rest

/-- Adds the body of a block under its labels. What stands there and is of another kind gives
way. -/
def addBody (body : Expr) : List String → Option Node → Node
  | [], some (.bodies bodies) => .bodies (bodies ++ [body])
  | [], _ => .bodies [body]
  | label :: more, some (.labelled entries) =>
    .labelled (alter label (addBody body more) entries)
  | label :: more, _ => .labelled [(label, addBody body more none)]

/-- Adds a part of a body to those before it. An attribute takes the place of what stands under its
name. -/
def addPart (entries : List (String × Node)) : Part → List (String × Node)
  | .attribute name value => alter name (fun _ => .value value) entries
  | .block name labels body => alter name (addBody body labels) entries

/-- The name of an attribute. -/
def Part.attributeName? : Part → Option String
  | .attribute name _ => some name
  | .block .. => none

/-- The value of a body. -/
def bodyOf? (parts : List Part) : Option Expr :=
  if (parts.filterMap Part.attributeName?).Nodup then
    some (.object (nodeEntries (parts.foldl addPart [])))
  else none

/-! ## Reading -/

/-- The labels of a block, identifiers or texts, up to its opening brace. -/
def labels? (text : List Char) : Option (List String × List Char) := do
  match ← skipBlanks? false text with
  | '{' :: behind => return ([], behind)
  | start =>
    let (label, rest) ← match start with
      | '"' :: rest => (quoted? rest).map fun (s, behind) => (String.ofList s, behind)
      | _ => identifier? start
    if rest.length < text.length then
      let (labels, behind) ← labels? rest
      return (label :: labels, behind)
    else none
termination_by text.length

/-- A value behind its equals sign, with the blanks around it. -/
def assigned? (depth : Nat) (text : List Char) : Option (Expr × List Char) := do
  let (value, rest) ← value? depth (← skipBlanks? false (← skip? '=' text))
  return (value, ← skipBlanks? false rest)

/-- The body of a block in one line behind its opening brace: nothing or one attribute. -/
def oneLine? (depth : Nat) (text : List Char) : Option (List Part × List Char) := do
  match ← skipBlanks? false text with
  | '}' :: behind => return ([], behind)
  | start =>
    let (name, rest) ← identifier? start
    let (value, rest) ← assigned? depth (← skipBlanks? false rest)
    return ([.attribute name value], ← skip? '}' rest)

/-- A part of a body, given how the body of a block is read behind its opening brace. -/
def part? (depth : Nat) (block : List Char → Option (Expr × List Char)) (text : List Char) :
    Option (Part × List Char) := do
  let (name, rest) ← identifier? text
  match ← skipBlanks? false rest with
  | '=' :: rest =>
    let (value, behind) ← assigned? depth ('=' :: rest)
    return (.attribute name value, behind)
  | rest =>
    let (labels, rest) ← labels? rest
    let (body, behind) ← block rest
    return (.block name labels body, behind)

/-- The parts of a body, each with the rest of its line. A body in a block goes up to the closing
brace, the body of the document up to the end of the text. -/
def parts? (inBlock : Bool) (part : List Char → Option (Part × List Char)) (text : List Char) :
    Option (List Part × List Char) := do
  match ← skipSpace? .code text with
  | [] => if inBlock then none else return ([], [])
  | c :: start =>
    if inBlock && c == '}' then return ([], start)
    else
      let (first, rest) ← part (c :: start)
      let tail ← endOfLine? rest
      if tail.length < text.length then
        let (parts, behind) ← parts? inBlock part tail
        return (first :: parts, behind)
      else none
termination_by text.length

/-- The body of a block behind its opening brace, in one line or in lines of its own, with blocks
nested at most `depth` times. -/
def block? : Nat → List Char → Option (Expr × List Char)
  | 0, _ => none
  | depth + 1, text => do
    let (parts, behind) ←
      match endOfLine? text with
      | some rest =>
        if rest.isEmpty then none else parts? true (part? (depth + 1) (block? depth)) rest
      | none => oneLine? (depth + 1) text
    return (← bodyOf? parts, behind)

/-- The value of an HCL text. Its length bounds how deep anything in it is nested. -/
def read (text : List Char) : Option Expr := do
  let (parts, _) ← parts? false (part? text.length (block? text.length)) text
  bodyOf? parts

end Elapsed.Document.Hcl
