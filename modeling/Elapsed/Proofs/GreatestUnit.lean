import Elapsed.Proofs.Breakdown

/-!
# The greatest unit of a duration

The units are tried from the longest to the shortest, and the first one that the duration holds is
its greatest.  What matters about it is not how it is found.

* `Breakdown.le_greatest_iff` — a unit is no longer than the greatest exactly if the duration holds
  it, but for the second, which is there in any case;
* `Breakdown.isGreatestOf_iff` — so the greatest unit is the only one that the duration holds
  without holding the next longer one (`TimeUnit.IsGreatestOf`);
* `Breakdown.greatest_mono` — and it never gets shorter as the duration gets longer.

As the duration holds no longer unit, nothing is taken out of the count of the greatest one: its
remainder is its cumulative count (`Breakdown.remainder_greatest`).
-/

namespace Elapsed

namespace TimeUnit

/-- The next longer unit, if there is one. -/
def longer? : TimeUnit → Option TimeUnit
  | second => some minute
  | minute => some hour
  | hour => some day
  | day => some week
  | week => none

/-- Whether a unit is the greatest of so many seconds: it is not longer than they are, or they are
none and it is the second; and the next longer unit is longer. -/
def IsGreatestOf (u : TimeUnit) (seconds : UInt64) : Prop :=
  (u.seconds ≤ seconds ∨ u = .second ∧ seconds = 0) ∧
    ∀ v, u.longer? = some v → seconds < v.seconds

variable {u v : TimeUnit}

theorem all_descending : all.Pairwise fun u v => v.seconds < u.seconds := by decide

theorem seconds_injective (h : u.seconds = v.seconds) : u = v := by
  cases u <;> cases v <;> revert h <;> decide

theorem second_le (u : TimeUnit) : second.seconds ≤ u.seconds := by
  cases u <;> decide

theorem lt_of_longer? (h : u.longer? = some v) : u.seconds < v.seconds := by
  cases u <;> cases h <;> decide

theorem lt_of_parent? (h : u.parent? = some v) : u.seconds < v.seconds := by
  cases u <;> cases h <;> decide

/-- There is no unit between a unit and the next longer one. -/
theorem exists_longer?_le (h : u.seconds < v.seconds) :
    ∃ w, u.longer? = some w ∧ w.seconds ≤ v.seconds := by
  cases u with
  | second => exact ⟨minute, rfl, by cases v <;> revert h <;> decide⟩
  | minute => exact ⟨hour, rfl, by cases v <;> revert h <;> decide⟩
  | hour => exact ⟨day, rfl, by cases v <;> revert h <;> decide⟩
  | day => exact ⟨week, rfl, by cases v <;> revert h <;> decide⟩
  | week => exact absurd h (by cases v <;> decide)

end TimeUnit

namespace Breakdown

variable {b b' : Breakdown} {u v : TimeUnit}

/-! ## How the greatest unit is found -/

theorem cumulative_pos_iff : b.cumulative u > 0 ↔ u.seconds ≤ b.total := by
  rw [gt_iff_lt, UInt64.pos_iff_ne_zero, ne_eq, cumulative_eq_zero_iff, Nat.not_lt,
    UInt64.le_iff_toNat_le]

/-- Nothing that the duration holds is longer than the greatest unit. -/
theorem le_greatest_of_le (h : u.seconds ≤ b.total) : u.seconds ≤ b.greatest.seconds := by
  rw [greatest]
  cases hfound : TimeUnit.all.find? fun u => b.cumulative u > 0 with
  | none =>
      have hnone := List.find?_eq_none.1 hfound u u.mem_all
      exact absurd (cumulative_pos_iff.2 h) (by simpa using hnone)
  | some w =>
      show u.seconds ≤ w.seconds
      obtain ⟨-, front, back, hall, hfront⟩ := List.find?_eq_some_iff_append.1 hfound
      have hdescending := TimeUnit.all_descending
      have hmem := u.mem_all
      rw [hall, List.pairwise_append, List.pairwise_cons] at hdescending
      rw [hall, List.mem_append, List.mem_cons] at hmem
      rcases hmem with hmem | rfl | hmem
      · -- the units in front were tried before, and the duration does not hold them
        exact absurd (cumulative_pos_iff.2 h) (by simpa using hfront u hmem)
      · exact UInt64.le_refl _
      · exact UInt64.le_of_lt (hdescending.2.1.1 u hmem)

/-- The duration holds the greatest unit, unless it is nothing. -/
theorem greatest_le (h : b.total ≠ 0) : b.greatest.seconds ≤ b.total := by
  rw [greatest]
  cases hfound : TimeUnit.all.find? fun u => b.cumulative u > 0 with
  | none =>
      show TimeUnit.second.seconds ≤ b.total
      rw [UInt64.le_iff_toNat_le]
      exact Nat.pos_of_ne_zero fun h0 => h (UInt64.toNat_inj.1 h0)
  | some w =>
      have hw := List.find?_some hfound
      exact cumulative_pos_iff.1 (of_decide_eq_true hw)

theorem greatest_of_zero (h : b.total = 0) : b.greatest = .second := by
  have hb : b = ⟨0⟩ := congrArg Breakdown.mk h
  rw [hb]
  decide

/-! ## Which unit it is -/

/-- A unit is no longer than the greatest exactly if the duration holds it, but for the second. -/
theorem le_greatest_iff : u.seconds ≤ b.greatest.seconds ↔ u.seconds ≤ b.total ∨ u = .second := by
  constructor
  · intro h
    by_cases hzero : b.total = 0
    · rw [greatest_of_zero hzero] at h
      exact .inr (TimeUnit.seconds_injective (UInt64.le_antisymm h u.second_le))
    · exact .inl (UInt64.le_trans h (greatest_le hzero))
  · rintro (h | rfl)
    · exact le_greatest_of_le h
    · exact b.greatest.second_le

/-- The duration is shorter than every unit that is longer than the greatest. -/
theorem total_lt_of_greatest_lt (h : b.greatest.seconds < u.seconds) : b.total < u.seconds := by
  rw [← UInt64.not_le]
  exact fun hle => absurd (le_greatest_of_le hle) (UInt64.not_le.2 h)

/-- The greatest unit is the only one that is held without the next longer one. -/
theorem isGreatestOf_iff : u.IsGreatestOf b.total ↔ u = b.greatest := by
  constructor
  · rintro ⟨hheld, hlonger⟩
    have hle : u.seconds ≤ b.greatest.seconds :=
      le_greatest_iff.2 (hheld.imp_right And.left)
    by_contra hne
    have hlt : u.seconds < b.greatest.seconds :=
      UInt64.lt_of_le_of_ne hle fun h => hne (TimeUnit.seconds_injective h)
    obtain ⟨w, hw, hwle⟩ := TimeUnit.exists_longer?_le hlt
    rcases le_greatest_iff.1 hwle with hheld' | rfl
    · exact absurd (hlonger w hw) (UInt64.not_lt.2 hheld')
    · exact absurd (TimeUnit.lt_of_longer? hw) (UInt64.not_lt.2 u.second_le)
  · rintro rfl
    refine ⟨?_, fun v hv => total_lt_of_greatest_lt (TimeUnit.lt_of_longer? hv)⟩
    by_cases hzero : b.total = 0
    · exact .inr ⟨greatest_of_zero hzero, hzero⟩
    · exact .inl (greatest_le hzero)

/-- A longer duration has no shorter greatest unit. -/
theorem greatest_mono (h : b.total ≤ b'.total) : b.greatest.seconds ≤ b'.greatest.seconds := by
  refine le_greatest_iff.2 ?_
  exact (le_greatest_iff.1 (UInt64.le_refl _)).imp_left fun hle => UInt64.le_trans hle h

/-- A duration holds a unit exactly if it is not nothing and the unit is no longer than the
greatest. -/
theorem le_total_iff : u.seconds ≤ b.total ↔ b.total ≠ 0 ∧ u.seconds ≤ b.greatest.seconds := by
  constructor
  · intro h
    refine ⟨fun hzero => ?_, le_greatest_of_le h⟩
    rw [hzero] at h
    exact absurd h (by cases u <;> decide)
  · rintro ⟨hzero, h⟩
    exact UInt64.le_trans h (greatest_le hzero)

/-- A duration that holds the unit of a selector is followed by longer ones that hold the unit that
the selector then stands for. -/
theorem resolve_le_of_le {s : Selector} (hle : b.total ≤ b'.total)
    (h : (b.resolve s).seconds ≤ b.total) : (b'.resolve s).seconds ≤ b'.total := by
  cases s with
  | fixed u => exact UInt64.le_trans h hle
  | greatest =>
      refine greatest_le fun hzero => (le_total_iff.1 h).1 ?_
      rw [hzero] at hle
      exact UInt64.le_zero_iff.1 hle

/-! ## The counts of the greatest unit -/

/-- Nothing is taken out of the count of the greatest unit. -/
theorem remainder_greatest (b : Breakdown) : b.remainder b.greatest = b.cumulative b.greatest := by
  unfold remainder
  cases hparent : b.greatest.parent? with
  | none => rfl
  | some p =>
      have hlt : b.total < p.seconds := total_lt_of_greatest_lt (TimeUnit.lt_of_parent? hparent)
      have hzero : b.cumulative p = 0 :=
        cumulative_eq_zero_iff.2 (UInt64.lt_iff_toNat_lt.1 hlt)
      show b.cumulative b.greatest - b.cumulative p * (p.seconds / b.greatest.seconds) = _
      rw [hzero, UInt64.zero_mul, UInt64.sub_zero]

theorem count_greatest (b : Breakdown) (cumulative : Bool) :
    b.count b.greatest cumulative = b.cumulative b.greatest := by
  cases cumulative with
  | true => rfl
  | false => exact b.remainder_greatest

/-- There is none of the greatest unit only in a duration of nothing. -/
theorem cumulative_greatest_eq_zero_iff : b.cumulative b.greatest = 0 ↔ b.total = 0 := by
  rw [cumulative_eq_zero_iff, ← UInt64.lt_iff_toNat_lt, ← UInt64.not_le, le_total_iff]
  simp

end Breakdown

end Elapsed
