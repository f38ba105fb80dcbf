import Mathlib.Algebra.Ring.Nat
import Mathlib.Data.List.Induction
import Elapsed.Decimal

/-!
# Numerals of a given width

A number is written out to a width with zeros in front.  `Decimal.Numeral` says which text that is
without saying how to write it: decimal digits, of the right number, that stand for the number.

* `Decimal.value_injective` — digits in the same number stand for different numbers if they differ;
* `Decimal.numeral_iff` — so there is one such text, and `Decimal.pad` writes it;
* `Decimal.lt_of_value_lt` — digits in the same number are in the order of what they stand for;
* `Decimal.pad_lt_pad` — so numbers that fit the width are written out in their own order;
* `Decimal.suffix_digits_iff` — the last digits of a number are what a power of ten leaves of it;
* `Decimal.suffix_pad_iff` — and zeros in front of a number change nothing about them.
-/

namespace Elapsed.Decimal

/-- Whether a text is a number written out to a width: decimal digits that stand for the number, as
many as the width asks for, or more if the number needs more. -/
structure Numeral (width n : Nat) (text : List Char) : Prop where
  isDigit : ∀ c ∈ text, c.isDigit = true
  length_eq : text.length = max width (Nat.toDigits 10 n).length
  value_eq : value text = n

/-! ## Digits -/

theorem isDigit_digit {n : Nat} (h : n < 10) : (digit n).isDigit = true := by
  have all : ∀ d, d < 10 → (digit d).isDigit = true := by decide
  exact all n h

theorem isDigit_of_mem_digits {n : Nat} {c : Char} (hc : c ∈ digits n) : c.isDigit = true := by
  fun_induction digits n with
  | case1 n h =>
      rw [List.mem_singleton.1 hc]
      exact isDigit_digit h
  | case2 n h ih =>
      rcases List.mem_append.1 hc with hc | hc
      · exact ih hc
      · rw [List.mem_singleton.1 hc]
        exact isDigit_digit (Nat.mod_lt _ (by decide))

theorem isDigit_of_mem_pad {width n : Nat} {c : Char} (hc : c ∈ pad width n) :
    c.isDigit = true := by
  rcases List.mem_append.1 hc with hc | hc
  · rw [List.eq_of_mem_replicate hc]
    rfl
  · exact isDigit_of_mem_digits hc

theorem length_pad (width n : Nat) :
    (pad width n).length = max width (Nat.toDigits 10 n).length := by
  rw [pad, List.length_append, List.length_replicate, digits_eq_toDigits]
  omega

/-! ## One text for each number -/

theorem value_append_singleton (text : List Char) (c : Char) :
    value (text ++ [c]) = 10 * value text + (c.toNat - 48) := by
  simp [value, List.foldl_append]

theorem toNat_of_isDigit {c : Char} (h : c.isDigit = true) : 48 ≤ c.toNat ∧ c.toNat ≤ 57 := by
  simpa [Char.isDigit, UInt32.le_iff_toNat_le] using h

/-- Digits in the same number stand for different numbers if they differ. -/
theorem value_injective {a b : List Char} (ha : ∀ c ∈ a, c.isDigit = true)
    (hb : ∀ c ∈ b, c.isDigit = true) (hlength : a.length = b.length)
    (hvalue : value a = value b) : a = b := by
  -- the last digits are what the numbers leave behind tens, and the rest are their tens
  induction a using List.reverseRecOn generalizing b with
  | nil => exact (List.eq_nil_of_length_eq_zero hlength.symm).symm
  | append_singleton a x ih =>
      rcases List.eq_nil_or_concat b with rfl | ⟨b, y, rfl⟩
      · simp at hlength
      · rw [List.concat_eq_append] at hb hlength hvalue ⊢
        simp only [List.mem_append, List.mem_singleton, or_imp, forall_and, forall_eq] at ha hb
        have hx := toNat_of_isDigit ha.2
        have hy := toNat_of_isDigit hb.2
        rw [value_append_singleton, value_append_singleton] at hvalue
        have hfront : a = b := by
          refine ih ha.1 hb.1 ?_ (by omega)
          simpa using hlength
        have hlast : x = y := Char.toNat_inj.1 (by omega)
        rw [hfront, hlast]

/-- There is one text for a number and a width, the one that `pad` writes. -/
theorem numeral_iff {width n : Nat} {text : List Char} :
    Numeral width n text ↔ text = pad width n := by
  constructor
  · intro h
    have hlength : text.length = (pad width n).length := by rw [h.length_eq, length_pad]
    refine value_injective h.isDigit (fun c hc => isDigit_of_mem_pad hc) hlength ?_
    rw [h.value_eq, value_pad]
  · rintro rfl
    exact ⟨fun c hc => isDigit_of_mem_pad hc, length_pad width n, value_pad width n⟩

/-- A number that is longer than the width keeps all its digits. -/
example : Numeral 2 12345 ['1', '2', '3', '4', '5'] := numeral_iff.2 (by decide +kernel)

/-! ## Order -/

/-- Texts of one length that are in order stay so, whatever stands behind them. -/
theorem append_lt_append {a b : List Char} (hlength : a.length = b.length) (h : a < b)
    (x y : List Char) : a ++ x < b ++ y := by
  induction a generalizing b with
  | nil =>
      rw [List.eq_nil_of_length_eq_zero hlength.symm] at h
      exact absurd h (List.not_lt_nil [])
  | cons c a ih =>
      cases b with
      | nil => exact absurd h (List.not_lt_nil _)
      | cons d b =>
          rw [List.cons_append, List.cons_append, List.cons_lt_cons_iff]
          rcases List.cons_lt_cons_iff.1 h with hlt | ⟨rfl, hlt⟩
          · exact .inl hlt
          · exact .inr ⟨rfl, ih (Nat.succ.inj hlength) hlt⟩

/-- Digits in the same number are in the order of what they stand for. -/
theorem lt_of_value_lt {a b : List Char} (ha : ∀ c ∈ a, c.isDigit = true)
    (hb : ∀ c ∈ b, c.isDigit = true) (hlength : a.length = b.length)
    (hvalue : value a < value b) : a < b := by
  induction a using List.reverseRecOn generalizing b with
  | nil =>
      rw [List.eq_nil_of_length_eq_zero hlength.symm] at hvalue
      exact absurd hvalue (Nat.lt_irrefl _)
  | append_singleton a x ih =>
      rcases List.eq_nil_or_concat b with rfl | ⟨b, y, rfl⟩
      · simp at hlength
      · rw [List.concat_eq_append] at hb hlength hvalue ⊢
        simp only [List.mem_append, List.mem_singleton, or_imp, forall_and, forall_eq] at ha hb
        have hx := toNat_of_isDigit ha.2
        have hy := toNat_of_isDigit hb.2
        have hfront : a.length = b.length := by simpa using hlength
        rw [value_append_singleton, value_append_singleton] at hvalue
        -- the last digit makes a difference only if there is none in front of it
        rcases Nat.lt_trichotomy (value a) (value b) with hlt | heq | hgt
        · exact append_lt_append hfront (ih ha.1 hb.1 hfront hlt) _ _
        · have hxy : x < y := by
            show x.toNat < y.toNat
            omega
          rw [value_injective ha.1 hb.1 hfront heq]
          exact List.append_left_lt (List.cons_lt_cons_iff.2 (.inl hxy))
        · omega

/-- Numbers that fit the width are written out in their own order. -/
theorem pad_lt_pad {width m n : Nat} (hm : (Nat.toDigits 10 m).length ≤ width)
    (hn : (Nat.toDigits 10 n).length ≤ width) (h : m < n) : pad width m < pad width n := by
  have hlength : (pad width m).length = (pad width n).length := by
    rw [length_pad, length_pad, Nat.max_eq_left hm, Nat.max_eq_left hn]
  refine lt_of_value_lt (fun c hc => isDigit_of_mem_pad hc) (fun c hc => isDigit_of_mem_pad hc)
    hlength ?_
  rwa [value_pad, value_pad]

/-! ## Last digits -/

theorem digits_of_lt {n : Nat} (h : n < 10) : digits n = [digit n] := by
  rw [digits, if_pos h]

theorem digits_of_le {n : Nat} (h : 10 ≤ n) :
    digits n = digits (n / 10) ++ [digit (n % 10)] := by
  rw [digits, if_neg (Nat.not_lt.2 h)]

theorem digits_ne_nil (n : Nat) : digits n ≠ [] := by
  rw [digits]
  split <;> simp

theorem digits_inj {m n : Nat} : digits m = digits n ↔ m = n :=
  ⟨fun h => by rw [← value_digits m, h, value_digits], congrArg digits⟩

theorem digit_inj {m n : Nat} (hm : m < 10) (hn : n < 10) : digit m = digit n ↔ m = n :=
  ⟨fun h => by rw [← toNat_digit hm, h, toNat_digit hn], congrArg digit⟩

/-- A number ends in the digits of another one exactly if it leaves that one when it is divided by
the power of ten for so many digits. -/
theorem suffix_digits_iff {m n : Nat} :
    digits m <:+ digits n ↔ n % 10 ^ (digits m).length = m := by
  fun_induction digits m generalizing n with
  | case1 m hm =>
      have hlast : ∃ front, digits n = front ++ [digit (n % 10)] := by
        by_cases hn : n < 10
        · exact ⟨[], by rw [digits_of_lt hn, Nat.mod_eq_of_lt hn, List.nil_append]⟩
        · exact ⟨_, digits_of_le (Nat.le_of_not_lt hn)⟩
      obtain ⟨front, hfront⟩ := hlast
      rw [hfront, List.singleton_suffix_append_singleton_iff,
        digit_inj hm (Nat.mod_lt _ (by decide)), List.length_singleton, Nat.pow_one, eq_comm]
  | case2 m hm ih =>
      rw [List.length_append, List.length_singleton, Nat.pow_succ', Nat.mod_mul]
      by_cases hn : n < 10
      · -- two digits at least do not end a single one
        have hshort : ¬ digits (m / 10) ++ [digit (m % 10)] <:+ [digit n] := by
          intro h
          exact digits_ne_nil (m / 10) (by simpa using h.length_le)
        rw [digits_of_lt hn, Nat.div_eq_of_lt hn, Nat.zero_mod, iff_false_left hshort]
        omega
      · have hconcat : digits (m / 10) ++ [digit (m % 10)] <:+ digits n ↔
            digits (m / 10) <:+ digits (n / 10) ∧ digit (m % 10) = digit (n % 10) := by
          rw [digits_of_le (Nat.le_of_not_lt hn)]
          simp [List.suffix_concat_iff, and_comm]
        rw [hconcat, ih, digit_inj (Nat.mod_lt _ (by decide)) (Nat.mod_lt _ (by decide))]
        omega

/-- Zeros in front change nothing about the end. -/
theorem suffix_pad_iff {width m n : Nat} : digits m <:+ pad width n ↔ digits m <:+ digits n := by
  constructor
  · intro h
    rcases List.suffix_or_suffix_of_suffix h (List.suffix_append _ (digits n)) with h' | h'
    · exact h'
    · -- the longer text of the two would be the digits of the other number behind zeros
      obtain ⟨zeros, hzeros⟩ := h'
      obtain ⟨front, hfront⟩ := h
      rw [← hzeros, pad, ← List.append_assoc, List.append_left_inj] at hfront
      have hreplicate : zeros = List.replicate zeros.length '0' := by
        refine List.eq_replicate_of_mem fun c hc => ?_
        have hmem : c ∈ front ++ zeros := List.mem_append_right front hc
        rw [hfront] at hmem
        exact List.eq_of_mem_replicate hmem
      have hpad : digits m = pad (zeros.length + (digits n).length) n := by
        rw [pad, Nat.add_sub_cancel, ← hreplicate, hzeros]
      have hsame : m = n := by rw [← value_digits m, hpad, value_pad]
      exact hsame ▸ List.suffix_refl _
  · exact fun h => List.suffix_append_of_suffix h

end Elapsed.Decimal
