/-!
# Decimal numerals

A natural number is written with the fewest digits (`digits`), and padded on the left with zeros
to a given width (`pad`). `value` reads digits back, whatever zeros stand in front.
-/

namespace Elapsed.Decimal

/-- A power with an exponent that is not below zero; 1 for one that is. -/
def power (base : Nat) (exponent : Int) : Nat :=
  base.pow exponent.toNat

/-- The digit of a number below ten. -/
def digit (n : Nat) : Char :=
  Char.ofNat (48 + n)

/-- The decimal digits of a number, without leading zeros. -/
def digits (n : Nat) : List Char :=
  if n < 10 then [digit n] else digits (n / 10) ++ [digit (n % 10)]

/-- The number that a text of decimal digits stands for. -/
def value (text : List Char) : Nat :=
  text.foldl (fun n c => 10 * n + (c.toNat - 48)) 0

/-- The digits of a number behind as many zeros as it takes to fill `width` places. A longer
number keeps all its digits. -/
def pad (width n : Nat) : List Char :=
  List.replicate (width - (digits n).length) '0' ++ digits n

theorem toNat_digit {n : Nat} (h : n < 10) : (digit n).toNat - 48 = n := by
  have all : ∀ d, d < 10 → (digit d).toNat - 48 = d := by decide
  exact all n h

/-- The digits of a number stand for it. -/
theorem value_digits (n : Nat) : value (digits n) = n := by
  fun_induction digits n with
  | case1 n h => simp [value, toNat_digit h]
  | case2 n h ih =>
    have hlt : n % 10 < 10 := Nat.mod_lt _ (by decide)
    unfold value at ih ⊢
    rw [List.foldl_append, ih]
    simp only [List.foldl_cons, List.foldl_nil, toNat_digit hlt]
    omega

/-- These are the digits of `Nat.toDigits`. -/
theorem digits_eq_toDigits (n : Nat) : digits n = Nat.toDigits 10 n := by
  have hdigit : ∀ d, d < 10 → digit d = d.digitChar := by decide
  fun_induction digits n with
  | case1 n h => rw [Nat.toDigits_of_lt_base h, hdigit n h]
  | case2 n h ih =>
    have hlt : n % 10 < 10 := Nat.mod_lt _ (by decide)
    rw [Nat.toDigits_of_base_le (by decide) (Nat.le_of_not_lt h), ih, hdigit _ hlt]

theorem pad_eq_leftpad (width n : Nat) : pad width n = (Nat.toDigits 10 n).leftpad width '0' := by
  rw [pad, digits_eq_toDigits, List.leftpad]

/-- Zeros in front do not count. -/
theorem value_pad (width n : Nat) : value (pad width n) = n := by
  have zeros (k : Nat) :
      (List.replicate k '0').foldl (fun n c => 10 * n + (c.toNat - 48)) 0 = 0 := by
    induction k with
    | zero => rfl
    | succ k ih => simpa [List.replicate_succ] using ih
  have h := value_digits n
  unfold value at h ⊢
  rw [pad, List.foldl_append, zeros, h]

end Elapsed.Decimal
