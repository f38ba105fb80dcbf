import Mathlib.Algebra.Ring.Nat
import Elapsed.Breakdown

/-!
# Counts of units are exact

The remainder of a unit is worked out in 64 bits, as a difference of two counts that were rounded
down apart from each other.  This file says that nothing is lost on the way.

* `Breakdown.toNat_cumulative_parent` — rounding down twice is rounding down once: the count of the
  next longer unit is the count of the unit, divided by how many of it make one of the longer;
* `Breakdown.carry_le` — so what is taken out of a count is never more than the count, and neither
  the product nor the difference leaves the 64 bits;
* `Breakdown.toNat_remainder_of_parent` — the remainder is a remainder of a division.

From these, days, hours, minutes and seconds are the digits of the duration in mixed radix, and the
only ones (`Breakdown.remainders_are_mixedRadix`).
-/

namespace Elapsed

namespace TimeUnit

/-- How many of a unit make one of the next longer kind, if there is one. -/
def perParent? : TimeUnit → Option Nat
  | second => some 60
  | minute => some 60
  | hour => some 24
  | day => none
  | week => none

/-- The number of a unit in so many seconds: of all of it, or of what its parent leaves. -/
def countIn (u : TimeUnit) (cumulative : Bool) (seconds : Nat) : Nat :=
  let whole := seconds / u.seconds.toNat
  if cumulative then whole else u.perParent?.elim whole (whole % ·)

theorem toNat_seconds_pos (u : TimeUnit) : 0 < u.seconds.toNat := by
  cases u <;> decide

variable {u p : TimeUnit}

/-- A unit of the next longer kind is a whole number of the unit. -/
theorem toNat_seconds_of_parent? (h : u.parent? = some p) :
    p.seconds.toNat = u.seconds.toNat * (p.seconds / u.seconds).toNat := by
  cases u <;> cases h <;> decide

theorem perParent?_of_parent? (h : u.parent? = some p) :
    u.perParent? = some (p.seconds / u.seconds).toNat := by
  cases u <;> cases h <;> decide

theorem perParent?_eq_none (h : u.parent? = none) : u.perParent? = none := by
  cases u <;> cases h <;> rfl

end TimeUnit

namespace Breakdown

variable {u p : TimeUnit}

/-! ## Cumulative counts -/

theorem toNat_cumulative (b : Breakdown) (u : TimeUnit) :
    (b.cumulative u).toNat = b.total.toNat / u.seconds.toNat :=
  UInt64.toNat_div b.total u.seconds

/-- A unit is not in a duration at all exactly if the duration is shorter. -/
theorem cumulative_eq_zero_iff {b : Breakdown} :
    b.cumulative u = 0 ↔ b.total.toNat < u.seconds.toNat := by
  rw [← UInt64.toNat_inj, toNat_cumulative]
  exact Nat.div_eq_zero_iff_lt u.toNat_seconds_pos

/-- Rounding down to the unit first makes no difference to the next longer one. -/
theorem toNat_cumulative_parent (b : Breakdown) (h : u.parent? = some p) :
    (b.cumulative p).toNat = (b.cumulative u).toNat / (p.seconds / u.seconds).toNat := by
  rw [toNat_cumulative, toNat_cumulative, TimeUnit.toNat_seconds_of_parent? h,
    Nat.div_div_eq_div_mul]

/-! ## Remainders -/

/-- What is taken out of a count is at most the count. -/
theorem carry_le (b : Breakdown) (h : u.parent? = some p) :
    (b.cumulative p).toNat * (p.seconds / u.seconds).toNat ≤ (b.cumulative u).toNat := by
  rw [toNat_cumulative_parent b h]
  exact Nat.div_mul_le_self _ _

/-- What is taken out of a count fits in 64 bits. -/
theorem toNat_carry (b : Breakdown) (h : u.parent? = some p) :
    (b.cumulative p * (p.seconds / u.seconds)).toNat
      = (b.cumulative p).toNat * (p.seconds / u.seconds).toNat := by
  rw [UInt64.toNat_mul]
  exact Nat.mod_eq_of_lt (Nat.lt_of_le_of_lt (b.carry_le h) (b.cumulative u).toNat_lt)

theorem toNat_remainder_of_parent (b : Breakdown) (h : u.parent? = some p) :
    (b.remainder u).toNat = (b.cumulative u).toNat % (p.seconds / u.seconds).toNat := by
  have hle : b.cumulative p * (p.seconds / u.seconds) ≤ b.cumulative u := by
    rw [UInt64.le_iff_toNat_le, b.toNat_carry h]
    exact b.carry_le h
  have hremainder : b.remainder u = b.cumulative u - b.cumulative p * (p.seconds / u.seconds) := by
    simp only [remainder, h]
  rw [hremainder, UInt64.toNat_sub_of_le _ _ hle, b.toNat_carry h, toNat_cumulative_parent b h,
    Nat.mod_eq_sub_div_mul]

/-- The remainder of a unit is what its count leaves when it is divided by the number of the unit in
the next longer one; where there is no longer one, it is the count. -/
theorem toNat_remainder (b : Breakdown) (u : TimeUnit) :
    (b.remainder u).toNat
      = u.perParent?.elim (b.cumulative u).toNat ((b.cumulative u).toNat % ·) := by
  cases h : u.parent? with
  | none =>
      rw [TimeUnit.perParent?_eq_none h]
      simp only [remainder, h, Option.elim_none]
  | some p => rw [TimeUnit.perParent?_of_parent? h, b.toNat_remainder_of_parent h, Option.elim_some]

/-- Both counts of a unit, as numbers of the unit in the seconds of the duration. -/
theorem toNat_count (b : Breakdown) (u : TimeUnit) (cumulative : Bool) :
    (b.count u cumulative).toNat = u.countIn cumulative b.total.toNat := by
  cases cumulative with
  | true => exact b.toNat_cumulative u
  | false =>
      have hremainder := b.toNat_remainder u
      rw [toNat_cumulative] at hremainder
      exact hremainder

/-! ## Mixed radix -/

/-- Days, hours, minutes and seconds are found by division, and in no other way. -/
theorem mixedRadix_iff {total d h m s : Nat} :
    (h < 24 ∧ m < 60 ∧ s < 60 ∧ 86400 * d + 3600 * h + 60 * m + s = total) ↔
      d = total / 86400 ∧ h = total / 3600 % 24 ∧ m = total / 60 % 60 ∧ s = total % 60 := by
  omega

theorem mixedRadix_digits (n : Nat) : n / 3600 % 24 < 24 ∧ n / 60 % 60 < 60 ∧ n % 60 < 60 ∧
    86400 * (n / 86400) + 3600 * (n / 3600 % 24) + 60 * (n / 60 % 60) + n % 60 = n :=
  mixedRadix_iff.2 ⟨rfl, rfl, rfl, rfl⟩

/-- Longer durations have greater digits: of the first digits that differ, the greater one. -/
theorem mixedRadix_lt {m n : Nat} (h : m < n) :
    [m / 86400, m / 3600 % 24, m / 60 % 60, m % 60]
      < [n / 86400, n / 3600 % 24, n / 60 % 60, n % 60] := by
  obtain ⟨hour_lt, minute_lt, second_lt, hm⟩ := mixedRadix_digits m
  obtain ⟨hour_lt', minute_lt', second_lt', hn⟩ := mixedRadix_digits n
  simp only [List.cons_lt_cons_iff, List.not_lt_nil, and_false, or_false]
  omega

/-- The four remainders, as parts of the whole duration. -/
theorem toNat_remainders (b : Breakdown) :
    (b.remainder .day).toNat = b.total.toNat / 86400 ∧
    (b.remainder .hour).toNat = b.total.toNat / 3600 % 24 ∧
    (b.remainder .minute).toNat = b.total.toNat / 60 % 60 ∧
    (b.remainder .second).toNat = b.total.toNat % 60 := by
  have hsecond : (b.cumulative .second).toNat = b.total.toNat := by
    rw [toNat_cumulative]
    exact Nat.div_one _
  refine ⟨?_, ?_, ?_, ?_⟩
  · exact (b.toNat_remainder .day).trans (b.toNat_cumulative .day)
  · exact (b.toNat_remainder .hour).trans (congrArg (· % 24) (b.toNat_cumulative .hour))
  · exact (b.toNat_remainder .minute).trans (congrArg (· % 60) (b.toNat_cumulative .minute))
  · exact (b.toNat_remainder .second).trans (congrArg (· % 60) hsecond)

/-- Seven days are a week, whether the days are counted or the seconds. -/
theorem week_le_day (b : Breakdown) :
    7 * (b.cumulative .week).toNat ≤ (b.cumulative .day).toNat ∧
      (b.cumulative .day).toNat < 7 * (b.cumulative .week).toNat + 7 := by
  have hday : TimeUnit.day.seconds.toNat = 86400 := rfl
  have hweek : TimeUnit.week.seconds.toNat = 604800 := rfl
  rw [toNat_cumulative, toNat_cumulative, hday, hweek]
  omega

/-- **Days, hours, minutes and seconds are the digits of a duration.**  Working out a remainder
neither overflows nor underflows, and it gives the remainder of a division.  The remainders put
together are the duration, in 64 bits too, where no product and no sum on the way is too large; no
other numbers within the same bounds are.  Days are counted through, and seven of them make a
week. -/
theorem remainders_are_mixedRadix (b : Breakdown) :
    let d := (b.remainder .day).toNat
    let h := (b.remainder .hour).toNat
    let m := (b.remainder .minute).toNat
    let s := (b.remainder .second).toNat
    (∀ u p, u.parent? = some p →
      (b.cumulative p).toNat * (p.seconds / u.seconds).toNat ≤ 2 ^ 64 - 1 ∧
      b.cumulative p * (p.seconds / u.seconds) ≤ b.cumulative u) ∧
    (s < 60 ∧ m < 60 ∧ h < 24) ∧
    (86400 * d + 3600 * h + 60 * m + s = b.total.toNat ∧
      86400 * b.remainder .day + 3600 * b.remainder .hour + 60 * b.remainder .minute
        + b.remainder .second = b.total ∧
      ∀ part ∈ [86400 * d, 3600 * h, 60 * m, 86400 * d + 3600 * h,
        86400 * d + 3600 * h + 60 * m, 86400 * d + 3600 * h + 60 * m + s], part ≤ 2 ^ 64 - 1) ∧
    (∀ d' h' m' s' : Nat, h' < 24 → m' < 60 → s' < 60 →
      86400 * d' + 3600 * h' + 60 * m' + s' = b.total.toNat →
        d' = d ∧ h' = h ∧ m' = m ∧ s' = s) ∧
    (∀ u, (b.remainder u).toNat
      = u.perParent?.elim (b.cumulative u).toNat ((b.cumulative u).toNat % ·)) ∧
    7 * (b.cumulative .week).toNat ≤ (b.cumulative .day).toNat ∧
    (b.cumulative .day).toNat < 7 * (b.cumulative .week).toNat + 7 := by
  intro d h m s
  have hdigits : d = b.total.toNat / 86400 ∧ h = b.total.toNat / 3600 % 24 ∧
      m = b.total.toNat / 60 % 60 ∧ s = b.total.toNat % 60 := b.toNat_remainders
  obtain ⟨hour_lt, minute_lt, second_lt, hsum⟩ :
      h < 24 ∧ m < 60 ∧ s < 60 ∧ 86400 * d + 3600 * h + 60 * m + s = b.total.toNat :=
    mixedRadix_iff.2 hdigits
  have htotal : b.total.toNat ≤ 2 ^ 64 - 1 := Nat.le_sub_one_of_lt b.total.toNat_lt
  refine ⟨fun u p hp => ⟨?_, ?_⟩, ⟨second_lt, minute_lt, hour_lt⟩, ⟨hsum, ?_, ?_⟩, ?_,
    b.toNat_remainder, b.week_le_day⟩
  · exact Nat.le_trans (b.carry_le hp) (Nat.le_sub_one_of_lt (b.cumulative u).toNat_lt)
  · rw [UInt64.le_iff_toNat_le, b.toNat_carry hp]
    exact b.carry_le hp
  · rw [← UInt64.toNat_inj]
    simp only [UInt64.toNat_add, UInt64.toNat_mul, UInt64.reduceToNat]
    omega
  · -- every part is at most the whole
    intro part hpart
    simp only [List.mem_cons, List.not_mem_nil, or_false] at hpart
    clear hdigits
    omega
  · intro d' h' m' s' hour_lt' minute_lt' second_lt' hsum'
    rw [hdigits.1, hdigits.2.1, hdigits.2.2.1, hdigits.2.2.2]
    exact mixedRadix_iff.1 ⟨hour_lt', minute_lt', second_lt', hsum'⟩

/-- The longest duration there is: 213503982334601 days, 7 hours and 15 seconds. -/
theorem remainders_are_mixedRadix_longest :
    let b : Breakdown := ⟨18446744073709551615⟩
    (b.cumulative .day).toNat * (TimeUnit.day.seconds / TimeUnit.hour.seconds).toNat
        ≤ 2 ^ 64 - 1 ∧
      213503982334601 = (b.remainder .day).toNat ∧ 7 = (b.remainder .hour).toNat ∧
      0 = (b.remainder .minute).toNat ∧ 15 = (b.remainder .second).toNat := by
  intro b
  obtain ⟨hcarry, -, -, hunique, -⟩ := b.remainders_are_mixedRadix
  exact ⟨(hcarry .hour .day rfl).1,
    hunique 213503982334601 7 0 15 (by decide) (by decide) (by decide) (by decide)⟩

end Breakdown

end Elapsed
