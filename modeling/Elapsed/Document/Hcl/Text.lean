import Elapsed.Document.Hcl.Expr
import Elapsed.Document.Identifier
import Elapsed.Document.Scan

/-!
# HCL blanks, names and texts

What stands between the parts of an HCL document, the names in it, and its two kinds of text: in
quotes with escapes, and line by line up to a line that starts with a chosen name. Texts with parts
to be filled in are not read.
-/

namespace Elapsed.Document.Hcl

/-! ## Blanks and comments -/

/-- Where in a document a skipped character stands. -/
inductive Place where
  /-- Outside of comments. -/
  | code
  /-- In a comment up to the end of the line. -/
  | lineComment
  /-- In a comment up to its closing mark. -/
  | blockComment

/-- The text behind blanks, line ends and comments. A comment that is never closed is an error, and
so is a carriage return in a line comment that ends no line. -/
def skipSpace? (place : Place) (text : List Char) : Option (List Char) :=
  match place with
  | .code =>
    match text with
    | [] => some []
    | '/' :: '*' :: rest => skipSpace? .blockComment rest
    | '/' :: '/' :: rest => skipSpace? .lineComment rest
    | c :: rest =>
      if c = '#' then skipSpace? .lineComment rest
      else if c = ' ' ∨ c = '\t' ∨ c = '\n' ∨ c = '\r' then skipSpace? .code rest
      else some (c :: rest)
  | .lineComment =>
    match text with
    | [] => some []
    | '\n' :: rest => skipSpace? .code rest
    | '\r' :: '\n' :: rest => skipSpace? .code rest
    | c :: rest => if c = '\r' then none else skipSpace? .lineComment rest
  | .blockComment =>
    match text with
    | [] => none
    | '*' :: '/' :: rest => skipSpace? .code rest
    | _ :: rest => skipSpace? .blockComment rest
termination_by structural text

/-- The text behind blanks and closed comments within a line. -/
def skipBlanks? (inComment : Bool) (text : List Char) : Option (List Char) :=
  if inComment then
    match text with
    | [] => none
    | '*' :: '/' :: rest => skipBlanks? false rest
    | _ :: rest => skipBlanks? true rest
  else
    match text with
    | [] => some []
    | '/' :: '*' :: rest => skipBlanks? true rest
    | c :: rest => if c = ' ' ∨ c = '\t' then skipBlanks? false rest else some (c :: rest)
termination_by structural text

/-- The text from the end of the line on. -/
def toLineEnd? : List Char → Option (List Char)
  | [] => some []
  | '\n' :: rest => some ('\n' :: rest)
  | '\r' :: '\n' :: rest => some ('\r' :: '\n' :: rest)
  | c :: rest => if c = '\r' then none else toLineEnd? rest

/-- The text behind a line comment, from the end of its line on; the text itself if there is
none. -/
def skipLineComment? : List Char → Option (List Char)
  | '#' :: rest => toLineEnd? rest
  | '/' :: '/' :: rest => toLineEnd? rest
  | text => some text

/-- The text behind the rest of a line that says nothing more. -/
def endOfLine? (text : List Char) : Option (List Char) := do
  lineEnd? (← skipLineComment? (← skipBlanks? false text))

/-! ## Names -/

/-- An identifier. -/
def identifier? : List Char → Option (String × List Char)
  | [] => none
  | c :: rest =>
    if Identifier.isStart c then
      some (String.ofList (c :: rest.takeWhile Identifier.isContinue),
        rest.dropWhile Identifier.isContinue)
    else none

/-! ## Quoted texts -/

/-- A piece of a text in double quotes, and the text behind it. Doubled marks in front of a brace
stand for one of them. A piece ends before a quote and before a part to be filled in, and behind a
backslash that escapes nothing: the backslash and the character behind it are passed over. -/
def piece : List Char → List Char × List Char
  | [] => ([], [])
  | '"' :: rest => ([], '"' :: rest)
  | '$' :: '$' :: '{' :: rest => consText '$' (consText '{' (piece rest))
  | '%' :: '%' :: '{' :: rest => consText '%' (consText '{' (piece rest))
  | '$' :: '{' :: rest => ([], '$' :: '{' :: rest)
  | '%' :: '{' :: rest => ([], '%' :: '{' :: rest)
  | '\\' :: 'u' :: a :: b :: c :: d :: rest =>
    match hexCharacter? [a, b, c, d] with
    | some x => consText x (piece rest)
    | none => ([], a :: b :: c :: d :: rest)
  | '\\' :: 'U' :: a :: b :: c :: d :: e :: f :: g :: h :: rest =>
    match hexCharacter? [a, b, c, d, e, f, g, h] with
    | some x => consText x (piece rest)
    | none => ([], a :: b :: c :: d :: e :: f :: g :: h :: rest)
  | '\\' :: e :: rest =>
    match escaped? e with
    | some x => consText x (piece rest)
    | none => ([], rest)
  | c :: rest => consText c (piece rest)

/-- A text of at most one piece behind its opening quote, up to the closing one. -/
def quoted? : List Char → Option (List Char × List Char)
  | '"' :: behind => some ([], behind)
  | text =>
    match piece text with
    | (c :: cs, '"' :: behind) => some (c :: cs, behind)
    | _ => none

/-- The pieces of a text behind its opening quote, up to the closing one. No piece is empty. -/
def pieces? (text : List Char) : Option (List (List Char) × List Char) :=
  match skip? '"' text with
  | some behind => some ([], behind)
  | none =>
    let (first, rest) := piece text
    if first ≠ [] ∧ rest.length < text.length then do
      let (more, behind) ← pieces? rest
      return (first :: more, behind)
    else none
termination_by text.length

/-- A text in double quotes behind the opening one. In a text of several pieces the marks of parts
to be filled in are doubled again. -/
def string? (text : List Char) : Option (Expr × List Char) :=
  match quoted? text with
  | some (chars, behind) => some (.text (String.ofList chars), behind)
  | none => do
    let (pieces, behind) ← pieces? text
    return (.template (String.ofList (pieces.flatMap escapeMarks)), behind)

/-! ## Texts by lines -/

/-- The text behind a name at the start of a line, with nothing but blanks before it. -/
def closingName? (name text : List Char) : Option (List Char) :=
  let line := text.dropWhile fun c => c == ' ' || c == '\t'
  if name.isPrefixOf line then some (line.drop name.length) else none

/-- The text up to the first line end behind which a name closes it, line end included, and the
text behind the name. -/
def untilClosed? (name : List Char) : List Char → Option (List Char × List Char)
  | [] => none
  | '\n' :: rest =>
    match closingName? name rest with
    | some behind => some (['\n'], behind)
    | none => (untilClosed? name rest).map (consText '\n')
  | '\r' :: '\n' :: rest =>
    match closingName? name rest with
    | some behind => some (['\r', '\n'], behind)
    | none => (untilClosed? name rest).map fun read => consText '\r' (consText '\n' read)
  | c :: rest => (untilClosed? name rest).map (consText c)

/-- Whether a character is white space of any script. -/
def isWhitespace (c : Char) : Bool :=
  let n := c.toNat
  (9 ≤ n && n ≤ 13) || n == 0x20 || n == 0x85 || n == 0xA0 || n == 0x1680
    || (0x2000 ≤ n && n ≤ 0x200A) || n == 0x2028 || n == 0x2029 || n == 0x202F || n == 0x205F
    || n == 0x3000

/-- The lines of a text, each with its line feed. -/
def lines : List Char → List (List Char)
  | [] => []
  | '\n' :: rest => ['\n'] :: lines rest
  | c :: rest =>
    match lines rest with
    | [] => [[c]]
    | first :: more => (c :: first) :: more

/-- A line without its line end. -/
def chomp (line : List Char) : List Char :=
  match line.reverse with
  | '\n' :: '\r' :: rest => rest.reverse
  | '\n' :: rest => rest.reverse
  | _ => line

/-- The number of characters of white space that a line starts with. -/
def indentation (line : List Char) : Nat :=
  (line.takeWhile isWhitespace).length

/-- How far a text can be moved to the left: as far as the least indented of its lines that is not
empty. -/
def margin (text : List Char) : Nat :=
  ((((lines text).map chomp).filter (!·.isEmpty)).map indentation).min?.getD 0

/-- A text moved to the left. Every line then ends in a line feed. -/
def dedent (margin : Nat) (text : List Char) : List Char :=
  if margin = 0 then text
  else (lines text).flatMap fun line => (chomp line).drop margin ++ ['\n']

/-- A text by lines behind its opening mark: the closing name, the lines, and the name again. The
name closes the text in its first line only if it does not close it later. A hyphen before the name
has the lines moved to the left. -/
def heredoc? (text : List Char) : Option (Expr × List Char) := do
  let (indented, start) := match text with
    | '-' :: rest => (true, rest)
    | _ => (false, text)
  let (name, rest) ← identifier? start
  let first ← newline? rest
  let closing := name.toList
  let (chars, behind) ←
    (untilClosed? closing first).or ((closingName? closing first).map fun behind => ([], behind))
  let body ← unescapeMarks? chars
  let m := if indented then margin body else 0
  return (.lines (0 < m) name (String.ofList (escapeMarks (dedent m body))), behind)

end Elapsed.Document.Hcl
