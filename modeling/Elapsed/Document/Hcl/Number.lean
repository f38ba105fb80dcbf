import Elapsed.Decimal.Shortest
import Elapsed.Document.Scan

/-!
# HCL numbers

A number is a whole number of 64 bits, with or without a sign, or a floating-point number. A number
written with a point or an exponent is whole if its value is and if it fits. Numbers are written in
the fewest digits: whole numbers plainly, others with a point, or with an exponent if they are very
large or very small.
-/

namespace Elapsed.Document.Hcl

/-- A number. -/
inductive Number where
  /-- A whole number. -/
  | whole (n : Int)
  /-- A floating-point number, as the decimal `digits * 10 ^ exponent` with the fewest digits. -/
  | decimal (negative : Bool) (digits : Nat) (exponent : Int)
  deriving DecidableEq

namespace Number

/-- A floating-point number, with the sign of its negative if so wished. -/
def float (negative : Bool) (d : Decimal.Double) : Number :=
  decimal negative d.shortest.1 d.shortest.2

/-- The number of a floating-point number: whole if it is and fits into 64 bits. -/
def ofDouble (d : Decimal.Double) : Number :=
  match d.toNat? with
  | some n => if n < Decimal.power 2 64 then whole n else float false d
  | none => float false d

/-- The number nearest to `m * 10 ^ e`; none if that rounds to infinity. What is too small for any
floating-point number is zero. -/
def ofScientific? (m : Nat) (e : Int) : Option Number :=
  if m = 0 || (Decimal.digits m).length + e < -330 then some (whole 0)
  else if overflows m e then none
  else some (ofDouble (.ofQuotient (m * Decimal.power 10 e) (Decimal.power 10 (-e))))

/-- The negative of a number. That of a whole number is whole if it fits into 64 bits with a
sign. -/
def neg : Number → Number
  | whole n =>
    if n ≤ Decimal.power 2 63 then whole (-n) else float true (.ofQuotient n.natAbs 1)
  | decimal negative digits exponent => decimal (!negative) digits exponent

/-- A number in the precision of floating-point numbers: its sign, digits and exponent. -/
def rounded : Number → Bool × Nat × Int
  | whole n =>
    if n = 0 then (false, 0, 0) else (n < 0, (Decimal.Double.ofQuotient n.natAbs 1).shortest)
  | decimal negative digits exponent => (negative, digits, exponent)

/-- Whether two numbers are equal. A whole number is compared with another number in the precision
of the other. -/
def same : Number → Number → Bool
  | whole m, whole n => m == n
  | m, n => m.rounded == n.rounded

/-- The digits of a number that is not whole: with a point if it is above `10 ^ -5`, and with an
exponent if not, or if there are no digits behind the point. -/
def writeDecimal (digits : Nat) (exponent : Int) : List Char :=
  let text := Decimal.digits digits
  let point := text.length + exponent
  if exponent < 0 ∧ -5 < point then
    if 0 < point then text.take point.toNat ++ '.' :: text.drop point.toNat
    else '0' :: '.' :: List.replicate (-point).toNat '0' ++ text
  else
    let power := point - 1
    let sign := if power < 0 then ['-'] else []
    let fraction := if text.length = 1 then [] else '.' :: text.drop 1
    text.take 1 ++ fraction ++ 'e' :: sign ++ Decimal.digits power.natAbs

/-- A number in the fewest digits. -/
def write : Number → List Char
  | whole n => (if n < 0 then ['-'] else []) ++ Decimal.digits n.natAbs
  | decimal negative digits exponent =>
    (if negative then ['-'] else []) ++ writeDecimal digits exponent

end Number

end Elapsed.Document.Hcl
