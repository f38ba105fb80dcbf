import Elapsed.Decimal

/-!
# Shortest decimals

Decimal numbers in the precision of 64-bit floating point. `Double.ofQuotient` rounds a quotient to
the nearest such number, and `Double.shortest` gives, of the decimals that round to it, the nearest
of those with the fewest digits. Everything is computed exactly, on whole numbers.
-/

namespace Elapsed.Decimal

/-- A quotient rounded to the nearest whole number, a half to the even neighbour. -/
def roundDiv (a b : Nat) : Nat :=
  if 2 * (a % b) < b then a / b
  else if b < 2 * (a % b) then a / b + 1
  else a / b + a / b % 2

/-- The floating-point number `mantissa * 2 ^ exponent` of 64 bits: the mantissa is below `2 ^ 53`,
and as large as the least exponent, -1074, allows. -/
structure Double where
  mantissa : Nat
  exponent : Int
  deriving DecidableEq

namespace Double

/-- The exponent that a quotient is rounded at. -/
def scaleOf (a b : Nat) : Int :=
  let e : Int := (a.log2 : Int) - b.log2 - 53
  let fits := a * power 2 (-e) < power 2 53 * (b * power 2 e)
  max (-1074) (if fits then e else e + 1)

/-- The number nearest to the quotient of two positive numbers, as if there were no greatest
one. -/
def ofQuotient (a b : Nat) : Double :=
  let e := scaleOf a b
  let m := roundDiv (a * power 2 (-e)) (b * power 2 e)
  if m = power 2 53 then ⟨power 2 52, e + 1⟩ else ⟨m, e⟩

/-- The whole number that a floating-point number is, if it is one. -/
def toNat? (d : Double) : Option Nat :=
  let unit := power 2 (-d.exponent)
  if d.mantissa % unit = 0 then some (d.mantissa / unit * power 2 d.exponent) else none

/-! ## Decimals that round to a number -/

/-- Whether `n * 10 ^ k` rounds to a number. What does reaches half way to its neighbours, and just
half way if its mantissa is even. The neighbour below a power of two is only half as far. -/
def readsBack (d : Double) (n : Nat) (k : Int) : Bool :=
  let point := n * power 10 k * power 2 (2 - d.exponent)
  let unit := power 2 (d.exponent - 2) * power 10 (-k)
  let below := if d.mantissa = power 2 52 ∧ -1074 < d.exponent then 1 else 2
  let low := (4 * d.mantissa - below) * unit
  let high := (4 * d.mantissa + 2) * unit
  if d.mantissa % 2 = 0 then low ≤ point && point ≤ high else low < point && point < high

/-- The multiple of `10 ^ k` nearest to a number, of the two around it that round to it. -/
def onGrid? (d : Double) (k : Int) : Option Nat :=
  let a := d.mantissa * power 2 d.exponent * power 10 (-k)
  let b := power 2 (-d.exponent) * power 10 k
  let n := a / b
  match d.readsBack n k, d.readsBack (n + 1) k with
  | true, true => some (roundDiv a b)
  | true, false => some n
  | false, true => some (n + 1)
  | false, false => none

/-- A power of ten no smaller than the one that a positive number starts at. -/
def topPlace (d : Double) : Int :=
  let a := d.mantissa * power 2 d.exponent
  let b := power 2 (-d.exponent)
  if b ≤ a then (digits (a / b)).length - 1 else 1 - (digits (b / a)).length

/-- A number without the zeros at its end, and how many they were. -/
def trim (n : Nat) : Nat × Nat :=
  if h : n ≠ 0 ∧ n % 10 = 0 then
    have : n / 10 < n := Nat.div_lt_self (Nat.pos_of_ne_zero h.1) (by decide)
    let (m, zeros) := trim (n / 10)
    (m, zeros + 1)
  else (n, 0)

/-- The decimal `n * 10 ^ k` with the fewest digits that rounds to a positive number. It is found
within eighteen places from the top; if it were not, the number itself would do. -/
def shortest (d : Double) : Nat × Int :=
  let places := (List.range 19).map fun (i : Nat) => d.topPlace - (i : Int)
  match places.findSome? fun k => (d.onGrid? k).map fun n => (n, k) with
  | some (n, k) => ((trim n).1, k + (trim n).2)
  | none =>
    (d.mantissa * power 2 d.exponent * power 5 (-d.exponent), min d.exponent 0)

end Double

end Elapsed.Decimal
