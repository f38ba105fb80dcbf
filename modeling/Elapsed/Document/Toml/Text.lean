import Elapsed.Document.Scan

/-!
# TOML texts

The four ways to quote a text: between double quotes with escapes, or between single quotes as it
stands, each on one line or, with the quote three times, on several. Every function reads up to the
closing quote and gives the text behind it. Line ends are read as line feeds.
-/

namespace Elapsed.Document.Toml

/-- Whether a character may stand in a line: a tab, or anything that is no control character of
ASCII. -/
def isLineChar (c : Char) : Bool :=
  c == '\t' || (' ' ≤ c && c != '\x7f')

/-- Whether a character is a blank within a line. -/
def isBlank (c : Char) : Bool :=
  c == ' ' || c == '\t'

/-- The character that a letter behind a backslash stands for. -/
def escaped? : Char → Option Char
  | 'b' => some '\x08'
  | 't' => some '\t'
  | 'n' => some '\n'
  | 'f' => some '\x0c'
  | 'r' => some '\r'
  | '"' => some '"'
  | '\\' => some '\\'
  | _ => none

/-- A text in double quotes on one line. -/
def basic? : List Char → Option (List Char × List Char)
  | [] => none
  | '"' :: rest => some ([], rest)
  | '\\' :: 'u' :: a :: b :: c :: d :: rest => do
    let x ← hexCharacter? [a, b, c, d]
    return consText x (← basic? rest)
  | '\\' :: 'U' :: a :: b :: c :: d :: e :: f :: g :: h :: rest => do
    let x ← hexCharacter? [a, b, c, d, e, f, g, h]
    return consText x (← basic? rest)
  | '\\' :: e :: rest => do
    let x ← escaped? e
    return consText x (← basic? rest)
  | c :: rest => do
    if isLineChar c then return consText c (← basic? rest) else none

/-- A text in single quotes on one line. -/
def literal? : List Char → Option (List Char × List Char)
  | [] => none
  | '\'' :: rest => some ([], rest)
  | c :: rest => do
    if isLineChar c then return consText c (← literal? rest) else none

/-- A text in double quotes on several lines. A backslash at the end of a line takes away the line
end and all blanks and line ends behind it; `trim` says that this goes on. Up to two quotes may
stand before the closing ones. -/
def basicLines? (trim : Bool) : List Char → Option (List Char × List Char)
  | [] => none
  | '"' :: '"' :: '"' :: '"' :: '"' :: rest => some (['"', '"'], rest)
  | '"' :: '"' :: '"' :: '"' :: rest => some (['"'], rest)
  | '"' :: '"' :: '"' :: rest => some ([], rest)
  | '\\' :: 'u' :: a :: b :: c :: d :: rest => do
    let x ← hexCharacter? [a, b, c, d]
    return consText x (← basicLines? false rest)
  | '\\' :: 'U' :: a :: b :: c :: d :: e :: f :: g :: h :: rest => do
    let x ← hexCharacter? [a, b, c, d, e, f, g, h]
    return consText x (← basicLines? false rest)
  | '\\' :: rest =>
    if (newline? (rest.dropWhile isBlank)).isSome then basicLines? true rest
    else
      match rest with
      | [] => none
      | e :: tail => do
        let x ← escaped? e
        return consText x (← basicLines? false tail)
  | '\r' :: '\n' :: rest =>
    if trim then basicLines? true rest
    else do return consText '\n' (← basicLines? false rest)
  | c :: rest =>
    if trim && (isBlank c || c == '\n') then basicLines? true rest
    else if isLineChar c || c == '\n' then do return consText c (← basicLines? false rest)
    else none

/-- A text in single quotes on several lines. Up to two quotes may stand before the closing
ones. -/
def literalLines? : List Char → Option (List Char × List Char)
  | [] => none
  | '\'' :: '\'' :: '\'' :: '\'' :: '\'' :: rest => some (['\'', '\''], rest)
  | '\'' :: '\'' :: '\'' :: '\'' :: rest => some (['\''], rest)
  | '\'' :: '\'' :: '\'' :: rest => some ([], rest)
  | '\r' :: '\n' :: rest => do return consText '\n' (← literalLines? rest)
  | c :: rest => do
    if isLineChar c || c == '\n' then return consText c (← literalLines? rest) else none

/-- A text between quotes of any kind. A line end directly behind three opening quotes does not
count. -/
def text? : List Char → Option (List Char × List Char)
  | '"' :: '"' :: '"' :: rest => basicLines? false ((newline? rest).getD rest)
  | '"' :: rest => basic? rest
  | '\'' :: '\'' :: '\'' :: rest => literalLines? ((newline? rest).getD rest)
  | '\'' :: rest => literal? rest
  | _ => none

end Elapsed.Document.Toml
