import Elapsed.Decimal

/-!
# Reading from the front of a text

Small things that readers of documents share. Steps look at the front of a text and give what stands
there, if it is what was asked for, and the text behind. Numerals are digits and their values, in
bases up to sixteen, and how large a number may get: a hexadecimal digit has one value in either
case (`hexValue?`), and written digits are in lower case (`hexDigit`). Escapes are the letters
behind a backslash that JSON and HCL share, and how a character is written between quotes.
-/

namespace Elapsed.Document

/-! ## Steps -/

/-- The text behind a character. -/
def skip? (c : Char) : List Char → Option (List Char)
  | d :: rest => if d = c then some rest else none
  | [] => none

/-- The text behind a line end. -/
def newline? : List Char → Option (List Char)
  | '\n' :: rest => some rest
  | '\r' :: '\n' :: rest => some rest
  | _ => none

/-- The text behind the end of a line, which may be the end of the text. -/
def lineEnd? (text : List Char) : Option (List Char) :=
  if text.isEmpty then some [] else newline? text

/-- Puts a character in front of a text that was read. -/
def consText (c : Char) (read : List Char × List Char) : List Char × List Char :=
  (c :: read.1, read.2)

/-! ## Hexadecimal digits -/

/-- The value of a hexadecimal digit, in either case. -/
def hexValue? (c : Char) : Option Nat :=
  if c.isDigit then some (c.toNat - 48)
  else if 'a' ≤ c ∧ c ≤ 'f' then some (c.toNat - 87)
  else if 'A' ≤ c ∧ c ≤ 'F' then some (c.toNat - 55)
  else none

/-- The number that hexadecimal digits stand for. -/
def hexNumber? (digits : List Char) : Option Nat :=
  digits.foldlM (fun n c => (hexValue? c).map (16 * n + ·)) 0

/-- The digit of a number below sixteen. -/
def hexDigit (n : Nat) : Char :=
  if n < 10 then Char.ofNat (48 + n) else Char.ofNat (87 + n)

/-- The character of a number; surrogates and numbers past the last character have none. -/
def character? (n : Nat) : Option Char :=
  if n.isValidChar then some (Char.ofNat n) else none

/-- A character written in hexadecimal digits. -/
def hexCharacter? (digits : List Char) : Option Char :=
  hexNumber? digits >>= character?

/-! ## The size of numbers -/

/-- The number that digits stand for in a base of at most sixteen. -/
def valueIn (base : Nat) (digits : List Char) : Nat :=
  digits.foldl (fun n c => base * n + (hexValue? c).getD 0) 0

/-- Whether `m * 10 ^ e` rounds to infinity as a floating-point number of 64 bits: whether it is no
less than half a step past the greatest of them. Only numbers of about that many places are
computed. -/
def overflows (m : Nat) (e : Int) : Bool :=
  if m = 0 then false
  else
    let places : Int := (Decimal.digits m).length + e
    if places > 310 then true
    else if places < 300 then false
    else
      let bound := Decimal.power 2 1024 - Decimal.power 2 970
      bound ≤ m * Decimal.power 10 e / Decimal.power 10 (-e)

/-! ## Escapes in quoted text -/

/-- The character that a letter behind a backslash stands for. -/
def escaped? : Char → Option Char
  | '"' => some '"'
  | '\\' => some '\\'
  | '/' => some '/'
  | 'b' => some '\x08'
  | 'f' => some '\x0c'
  | 'n' => some '\n'
  | 'r' => some '\r'
  | 't' => some '\t'
  | _ => none

/-- A character as it stands between quotes. -/
def escape (c : Char) : List Char :=
  if c = '"' then ['\\', '"']
  else if c = '\\' then ['\\', '\\']
  else if c = '\x08' then ['\\', 'b']
  else if c = '\x0c' then ['\\', 'f']
  else if c = '\n' then ['\\', 'n']
  else if c = '\r' then ['\\', 'r']
  else if c = '\t' then ['\\', 't']
  else if c < ' ' then
    ['\\', 'u', '0', '0', hexDigit (c.toNat / 16), hexDigit (c.toNat % 16)]
  else [c]

end Elapsed.Document
