import Elapsed.TimeUnit

/-!
# Placeholders

The code between the braces of a placeholder: the letter of a selector, repeated once per digit
wanted, then a suffix (nothing, `.` or the rest of the unit's name), then optionally `?` and free
text. `Placeholder.ofCode?` reads a code and `Placeholder.code` writes the plainest code of a
placeholder.
-/

namespace Elapsed

/-- What follows the number of a placeholder. -/
inductive Suffix where
  /-- Nothing. -/
  | bare
  /-- The language's abbreviation of the unit. -/
  | abbreviation
  /-- The language's word for the unit, in the form that fits the number. -/
  | word
  deriving DecidableEq

/-- A request to show one unit of a duration. -/
structure Placeholder where
  /-- The unit to show. -/
  unit : Selector
  /-- Whether to show the cumulative count rather than the remainder. -/
  cumulative : Bool := false
  /-- The least number of digits. -/
  digits : Nat := 1
  /-- What follows the number. -/
  suffix : Suffix := .bare
  /-- Whether to show nothing when the unit's cumulative count is zero. -/
  optional : Bool := false
  /-- Text written behind everything else. -/
  tail : List Char := []
  deriving DecidableEq

/-! ## Reading a code -/

/-- Whether a word completes the name of the selected unit behind its letter: the rest of the
name, singular or plural, in any ASCII case. -/
def Selector.completes (s : Selector) (word : List Char) : Bool :=
  lowerCase word == s.stem || lowerCase word == s.stem ++ ['s']

/-- The suffix that a text behind the letters of a placeholder stands for. -/
def Suffix.ofText? (s : Selector) (text : List Char) : Option Suffix :=
  match text with
  | [] => some .bare
  | ['.'] => some .abbreviation
  | rest => if s.completes rest then some .word else none

namespace Placeholder

/-- The placeholder that a code stands for. The code ends at its first `?`, and what is behind it
is free text; the letters are as many as the code starts with of one letter in one case. -/
def ofCode? (code : List Char) : Option Placeholder :=
  let body := code.takeWhile (· != '?')
  let tail := code.dropWhile (· != '?')
  match body with
  | [] => none
  | first :: _ => do
    let unit ← Selector.ofLetter? first
    let suffix ← Suffix.ofText? unit (body.dropWhile (· == first))
    return {
      unit, suffix
      cumulative := first.isUpper
      digits := (body.takeWhile (· == first)).length
      optional := !tail.isEmpty
      tail := tail.tail }

/-! ## Writing a code -/

/-- The letter of a placeholder: upper case for the cumulative count. -/
def letter (p : Placeholder) : Char :=
  if p.cumulative then p.unit.letter.toUpper else p.unit.letter

/-- The plainest text of a suffix. -/
def suffixText (p : Placeholder) : List Char :=
  match p.suffix with
  | .bare => []
  | .abbreviation => ['.']
  | .word => p.unit.stem

/-- The plainest code of a placeholder. -/
def code (p : Placeholder) : List Char :=
  List.replicate p.digits p.letter ++ p.suffixText
    ++ (if p.optional then '?' :: p.tail else [])

end Placeholder

end Elapsed
