import Elapsed.Document.Hcl.Text

/-!
# HCL values

Texts, numbers, truth values, null, lists, objects, names, and parts of all of them. Calls,
operators and other expressions that would have to be computed are not read.
-/

namespace Elapsed.Document.Hcl

/-! ## Numbers -/

/-- Digits, one at least, and the text behind. -/
def digits? (text : List Char) : Option (List Char × List Char) :=
  match text.takeWhile Char.isDigit with
  | [] => none
  | digits => some (digits, text.dropWhile Char.isDigit)

/-- The digits behind a point, if there are any. -/
def places (text : List Char) : List Char × List Char :=
  match text with
  | '.' :: rest => (digits? rest).getD ([], text)
  | _ => ([], text)

/-- The value of an exponent, if there is one. -/
def exponent? : List Char → Option (Int × List Char)
  | c :: rest =>
    if c = 'e' ∨ c = 'E' then
      match rest with
      | '-' :: tail => (digits? tail).map fun (ds, behind) => (-(valueIn 10 ds : Int), behind)
      | '+' :: tail => (digits? tail).map fun (ds, behind) => ((valueIn 10 ds : Int), behind)
      | _ => (digits? rest).map fun (ds, behind) => ((valueIn 10 ds : Int), behind)
    else none
  | [] => none

/-- A number without a sign. One without a point and an exponent has to fit into 64 bits, any other
must not round to infinity. -/
def number? (text : List Char) : Option (Number × List Char) := do
  let (whole, rest) ← digits? text
  let (fraction, tail) := places rest
  let (e, behind) := (exponent? tail).getD (0, tail)
  if behind.length = rest.length then
    let n := valueIn 10 whole
    if n < Decimal.power 2 64 then some (.whole n, behind) else none
  else
    let n ← Number.ofScientific? (valueIn 10 (whole ++ fraction)) (e - fraction.length)
    return (n, behind)

/-! ## Lists and objects -/

/-- Whether the text behind an opening bracket goes on like a loop: with the word `for` and a
blank, a line end or a comment. -/
def isLoop : List Char → Bool
  | 'f' :: 'o' :: 'r' :: c :: _ => [' ', '\t', '\n', '\r', '#', '/'].contains c
  | _ => false

/-- Whether a text goes on with an operator that would join the value before it with another. -/
def isOperator : List Char → Bool
  | '=' :: c :: _ => c == '='
  | '!' :: c :: _ => c == '='
  | '&' :: c :: _ => c == '&'
  | '|' :: c :: _ => c == '|'
  | c :: _ => ['-', '+', '*', '/', '%', '<', '>', '?'].contains c
  | [] => false

/-- The items of a list up to its closing bracket, with a comma behind each but the last, where it
may be left out. -/
def items? (value : List Char → Option (Expr × List Char)) (text : List Char) :
    Option (List Expr × List Char) := do
  match ← skipSpace? .code text with
  | ']' :: behind => return ([], behind)
  | start =>
    let (item, rest) ← value start
    match ← skipSpace? .code rest with
    | ']' :: behind => return ([item], behind)
    | ',' :: tail =>
      if tail.length < text.length then
        let (items, behind) ← items? value tail
        return (item :: items, behind)
      else none
    | _ => none
termination_by text.length

/-- The text behind the sign between a key and its value. -/
def assignment? : List Char → Option (List Char)
  | '=' :: rest => some rest
  | ':' :: rest => some rest
  | _ => none

/-- The entries of an object up to its closing brace, with a comma or a line end between each and
the next. -/
def entries? (value : List Char → Option (Expr × List Char)) (text : List Char) :
    Option (List (Expr × Expr) × List Char) := do
  match ← skipSpace? .code text with
  | '}' :: behind => return ([], behind)
  | start =>
    let (key, rest) ← value start
    let rest ← assignment? (← skipBlanks? false rest)
    let (v, rest) ← value (← skipBlanks? false rest)
    let rest ← skipLineComment? (← skipBlanks? false rest)
    let tail ← match rest with
      | '}' :: _ => some rest
      | ',' :: tail => some tail
      | _ => newline? rest
    if tail.length < text.length then
      let (entries, behind) ← entries? value tail
      return ((key, v) :: entries, behind)
    else none
termination_by text.length

/-- Puts a value under a key: in the place of an equal key and its value, else at the end. -/
def putEntry (key value : Expr) : List (Expr × Expr) → List (Expr × Expr)
  | [] => [(key, value)]
  | (k, v) :: rest =>
    if k.same key then (key, value) :: rest else (k, v) :: putEntry key value rest

/-- An object of entries; of those under one key the last stays. -/
def objectOf (entries : List (Expr × Expr)) : Expr :=
  .object (entries.foldl (fun done e => putEntry e.1 e.2 done) [])

/-! ## Values -/

/-- A text, a number, a truth value, null, or another name. -/
def plain? (text : List Char) : Option (Expr × List Char) :=
  match text with
  | '"' :: rest => string? rest
  | '<' :: '<' :: rest => heredoc? rest
  | '-' :: rest => do
    let (n, behind) ← number? (← skipBlanks? false rest)
    return (.number n.neg, behind)
  | _ =>
    match identifier? text with
    | some ("null", behind) => some (.null, behind)
    | some ("true", behind) => some (.truth true, behind)
    | some ("false", behind) => some (.truth false, behind)
    | some (name, behind) => some (.reference name, behind)
    | none => (number? text).map fun (n, behind) => (.number n, behind)

/-- Whether a text goes on with a step from a value to a part of it. -/
def isStep : List Char → Bool
  | c :: _ => c == '.' || c == '['
  | [] => false

/-- A step from a value to a part of it, as it is written: a point with a name, a number or a
star behind it, or an expression or a star in brackets. The number ends behind a leading zero. -/
def step? (value : List Char → Option (Expr × List Char)) :
    List Char → Option (List Char × List Char)
  | '.' :: '*' :: behind => some (['.', '*'], behind)
  | '.' :: '0' :: behind => some (['.', '0'], behind)
  | '.' :: rest =>
    match identifier? rest with
    | some (name, behind) => some ('.' :: name.toList, behind)
    | none => do
      let (digits, behind) ← digits? rest
      if valueIn 10 digits < Decimal.power 2 64 then return ('.' :: digits, behind) else none
  | '[' :: rest => do
    match ← skipSpace? .code rest with
    | '*' :: tail => return (['[', '*', ']'], ← skip? ']' (← skipSpace? .code tail))
    | start =>
      let (index, tail) ← value start
      return ('[' :: index.write ++ [']'], ← skip? ']' (← skipSpace? .code tail))
  | _ => none

/-- All steps behind a value, given what may stand before each. What starts like a step has to be
one. -/
def steps? (skip : List Char → Option (List Char))
    (value : List Char → Option (Expr × List Char)) (text : List Char) :
    Option (List Char × List Char) := do
  let start ← skip text
  if isStep start then
    let (written, rest) ← step? value start
    if rest.length < text.length then
      let (more, behind) ← steps? skip value rest
      return (written ++ more, behind)
    else none
  else return ([], text)
termination_by text.length

/-- A value, or the part of it to which some steps lead. -/
def Expr.partAt (e : Expr) : List Char → Expr
  | [] => e
  | steps => .part e steps

/-- A value whose brackets are nested fewer than `depth` times. Behind a list, steps and operators
may come in later lines. -/
def value? : Nat → List Char → Option (Expr × List Char)
  | 0, _ => none
  | depth + 1, '[' :: rest => do
    if isLoop (← skipSpace? .code rest) then none
    else
      let (items, tail) ← items? (value? depth) rest
      let (steps, behind) ← steps? (skipSpace? .code) (value? depth) tail
      if isOperator (← skipSpace? .code behind) then none
      else return ((Expr.list items).partAt steps, behind)
  | depth + 1, '{' :: rest => do
    if isLoop (← skipSpace? .code rest) then none
    else
      let (entries, tail) ← entries? (value? depth) rest
      let (steps, behind) ← steps? (skipBlanks? false) (value? depth) tail
      return ((objectOf entries).partAt steps, behind)
  | depth + 1, text => do
    let (first, tail) ← plain? text
    let (steps, behind) ← steps? (skipBlanks? false) (value? depth) tail
    return (first.partAt steps, behind)

end Elapsed.Document.Hcl
