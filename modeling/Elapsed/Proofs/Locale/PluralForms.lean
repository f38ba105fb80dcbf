import Elapsed.Proofs.Locale.Completeness
import Elapsed.Proofs.Template.Text

/-!
# Words follow the digits in front of them

A plural rule works on a number with remainders, one condition after the other.  Who reads the text
sees digits, and the word behind them has to fit those.

*Digits.*  `PluralRule.Takes` says by the look of the digits alone which form a number takes: what
the digits are, or what they end in (`PluralRule.EndsIn`), each form apart from the others.
`PluralRule.endsIn_iff` and `PluralRule.endsIn_pad_iff`: what digits end in is what a power of ten
leaves of the number, and zeros in front of it make no difference.  So the form that is picked is
the only one that the digits take (`PluralRule.pick_eq_iff`).

*Words.*  A complete table has a word for each of these forms, and every word of it is of use
(`PluralRule.exists_pick_eq`).  `Locale.Table.render_word`: a placeholder shows its number, and the
word that the digits of the number take.

All of it is put together in `PluralRule.pick_follows_digits`.
-/

namespace Elapsed

namespace PluralRule

/-! ## Digits -/

/-- Whether digits end in those of one of some numbers. -/
def EndsIn (endings : List Nat) (digits : List Char) : Prop :=
  ∃ m ∈ endings, Nat.toDigits 10 m <:+ digits

/-- Whether digits end in 1, but not in 11. -/
def EndsInOne (digits : List Char) : Prop :=
  EndsIn [1] digits ∧ ¬ EndsIn [11] digits

/-- Whether digits end in 2, 3 or 4, but not in 12, 13 or 14. -/
def EndsInFew (digits : List Char) : Prop :=
  EndsIn [2, 3, 4] digits ∧ ¬ EndsIn [12, 13, 14] digits

/-- Whether a number with these digits takes the form at a place. -/
def Takes (rule : PluralRule) (digits : List Char) (place : Nat) : Prop :=
  match rule, place with
  | english, 0 => digits = ['1']
  | english, 1 => digits ≠ ['1']
  | french, 0 => digits = ['0'] ∨ digits = ['1']
  | french, 1 => digits ≠ ['0'] ∧ digits ≠ ['1']
  | russian, 0 => EndsInOne digits
  | russian, 1 => EndsInFew digits
  | russian, 2 => ¬ EndsInOne digits ∧ ¬ EndsInFew digits
  | polish, 0 => digits = ['1']
  | polish, 1 => EndsInFew digits
  | polish, 2 => digits ≠ ['1'] ∧ ¬ EndsInFew digits
  | cjk, 0 => True
  | _, _ => False

section Digits

variable {n width k : Nat} {endings : List Nat}

/-- What a number ends in is what a power of ten leaves of it. -/
theorem endsIn_iff (h : ∀ m ∈ endings, (Nat.toDigits 10 m).length = k) :
    EndsIn endings (Nat.toDigits 10 n) ↔ n % 10 ^ k ∈ endings := by
  have hending (m : Nat) (hm : m ∈ endings) :
      Nat.toDigits 10 m <:+ Nat.toDigits 10 n ↔ n % 10 ^ k = m := by
    rw [← h m hm, ← Decimal.digits_eq_toDigits, ← Decimal.digits_eq_toDigits,
      Decimal.suffix_digits_iff]
  constructor
  · rintro ⟨m, hm, hsuffix⟩
    rwa [(hending m hm).1 hsuffix]
  · exact fun hm => ⟨_, hm, (hending _ hm).2 rfl⟩

/-- Zeros in front of a number change nothing about what it ends in. -/
theorem endsIn_pad_iff :
    EndsIn endings (Decimal.pad width n) ↔ EndsIn endings (Nat.toDigits 10 n) := by
  simp only [EndsIn, ← Decimal.digits_eq_toDigits, Decimal.suffix_pad_iff]

theorem endsInOne_iff : EndsInOne (Nat.toDigits 10 n) ↔ n % 10 = 1 ∧ n % 100 ≠ 11 := by
  rw [EndsInOne, endsIn_iff (k := 1) (by decide), endsIn_iff (k := 2) (by decide)]
  simp

theorem isFew_iff :
    isFew n = true ↔ (2 ≤ n % 10 ∧ n % 10 ≤ 4) ∧ ¬ (12 ≤ n % 100 ∧ n % 100 ≤ 14) := by
  simp only [isFew, Bool.and_eq_true, decide_eq_true_eq, Bool.not_eq_true', Bool.and_eq_false_iff,
    decide_eq_false_iff_not]
  omega

theorem endsInFew_iff : EndsInFew (Nat.toDigits 10 n) ↔ isFew n = true := by
  rw [EndsInFew, endsIn_iff (k := 1) (by decide), endsIn_iff (k := 2) (by decide), isFew_iff]
  simp only [List.mem_cons, List.not_mem_nil, or_false, Nat.pow_one, Nat.reducePow]
  omega

theorem toDigits_eq_iff {m : Nat} : Nat.toDigits 10 n = Nat.toDigits 10 m ↔ n = m := by
  rw [← Decimal.digits_eq_toDigits, ← Decimal.digits_eq_toDigits, Decimal.digits_inj]

/-- The form that is picked is the one that the digits take. -/
theorem pick_eq_iff (rule : PluralRule) {place : Nat} :
    rule.pick n = place ↔ rule.Takes (Nat.toDigits 10 n) place := by
  have hone : Nat.toDigits 10 n = ['1'] ↔ n = 1 := toDigits_eq_iff (m := 1)
  have hzero : Nat.toDigits 10 n = ['0'] ↔ n = 0 := toDigits_eq_iff (m := 0)
  -- no number is both one and few, so it does not matter which of them is tried first
  have hapart : isFew n = true → n % 10 ≠ 1 ∧ n ≠ 1 := by
    rw [isFew_iff]
    omega
  cases rule with
  | english => rcases place with _ | _ | place <;> simp only [pick, Takes, hone] <;> grind
  | french => rcases place with _ | _ | place <;> simp only [pick, Takes, hone, hzero] <;> grind
  | russian =>
      rcases place with _ | _ | _ | place <;>
        simp only [pick, Takes, endsInOne_iff, endsInFew_iff] <;> grind
  | polish =>
      rcases place with _ | _ | _ | place <;>
        simp only [pick, Takes, hone, endsInFew_iff] <;> grind
  | cjk => rcases place with _ | place <;> simp [pick, Takes]

end Digits

/-! ## Words -/

theorem mem_all (rule : PluralRule) : rule ∈ all := by
  cases rule <;> decide

/-- Every form is picked for some number. -/
theorem exists_pick_eq (rule : PluralRule) {place : Nat} (h : place < rule.arity) :
    ∃ v : UInt64, rule.pick v.toNat = place := by
  have hall : ∀ rule ∈ all, ∀ place < rule.arity,
      ∃ v ∈ ([1, 2, 5] : List UInt64), rule.pick v.toNat = place := by
    decide
  obtain ⟨v, -, hv⟩ := hall rule rule.mem_all place h
  exact ⟨v, hv⟩

end PluralRule

namespace Locale.Table

variable {t : Table} {p : Placeholder} {b : Breakdown} {text : List Char}

/-- There are just the words that some number takes. -/
theorem lt_length_iff {u : TimeUnit} {f : Forms} (h : t.AnswersWith u f) {place : Nat} :
    place < f.words.length ↔ ∃ v : UInt64, t.rule.pick v.toNat = place := by
  rw [h.length]
  constructor
  · exact fun hplace => t.rule.exists_pick_eq hplace
  · rintro ⟨v, rfl⟩
    exact t.rule.pick_lt_arity v.toNat

/-- A placeholder shows its number, and behind it the word that the digits of the number take. -/
theorem render_word (h : t.Complete) (hword : p.suffix = .word) (hshown : ¬ p.LeftOut b)
    (ht : p.render b t.localizer = .ok text) :
    ∃ number f place word, Decimal.Numeral p.digits (p.value b).toNat number ∧
      t.forms? (b.resolve p.unit) = some f ∧
      t.rule.Takes (Nat.toDigits 10 (p.value b).toNat) place ∧ f.words[place]? = some word ∧
      text = number ++ (t.separator ++ word).toList ++ p.tail := by
  obtain ⟨-, value, number, behind, hvalue, hnumber, -, -, hbehind, htext⟩ :=
    (Placeholder.render_eq_ok_iff hshown).1 ht
  have hsame : p.value b = value := UInt64.toNat_inj.1 ((p.toNat_value b).trans hvalue.symm)
  subst hsame
  obtain ⟨f, hf⟩ := complete_iff.1 h (b.resolve p.unit)
  obtain ⟨word, hpicked, -, htable⟩ := hf.picked (p.value b)
  refine ⟨number, f, _, word, hnumber, hf.forms?, t.rule.pick_eq_iff.1 rfl, hpicked, ?_⟩
  rw [htext, hbehind hword, ← htable]
  rfl

end Locale.Table

namespace PluralRule

open Elapsed.Locale

/-- **Words follow the digits in front of them.**  For every number of 64 bits a rule picks the form
that the digits of the number take, and no other; zeros written in front of the number change
nothing about what it ends in.  What is picked is one of the forms of the rule, and each of them is
picked for some number.  So a complete table lists the words that are of use and no others, and a
placeholder that shows a word shows the one that fits the digits in front of it. -/
theorem pick_follows_digits (rule : PluralRule) :
    (∀ (v : UInt64) (place : Nat),
      rule.pick v.toNat = place ↔ rule.Takes (Nat.toDigits 10 v.toNat) place) ∧
    (∀ (v : UInt64) (width : Nat) (number : List Char), writePadded v width = .ok number →
      (EndsInOne number ↔ EndsInOne (Nat.toDigits 10 v.toNat)) ∧
      (EndsInFew number ↔ EndsInFew (Nat.toDigits 10 v.toNat))) ∧
    (∀ v : UInt64, rule.pick v.toNat < rule.arity) ∧
    (∀ place < rule.arity, ∃ v : UInt64, rule.pick v.toNat = place) ∧
    ∀ t : Table, t.Complete → t.rule = rule →
      (∀ u, ∃ f, t.forms? u = some f ∧
        ∀ place, place < f.words.length ↔ ∃ v : UInt64, rule.pick v.toNat = place) ∧
      ∀ (p : Placeholder) (b : Breakdown) (text : List Char), p.suffix = .word → ¬ p.LeftOut b →
        p.render b t.localizer = .ok text →
        ∃ number f place word, Decimal.Numeral p.digits (p.value b).toNat number ∧
          t.forms? (b.resolve p.unit) = some f ∧
          rule.Takes (Nat.toDigits 10 (p.value b).toNat) place ∧ f.words[place]? = some word ∧
          text = number ++ (t.separator ++ word).toList ++ p.tail := by
  refine ⟨fun v place => rule.pick_eq_iff, fun v width number h => ?_,
    fun v => rule.pick_lt_arity v.toNat, fun place h => rule.exists_pick_eq h,
    fun t hcomplete hrule => ⟨fun u => ?_, fun p b text hword hshown ht => ?_⟩⟩
  · have hnumber : number = Decimal.pad width v.toNat := by
      rw [writePadded] at h
      split at h
      · exact (Except.ok.inj h).symm
      · cases h
    rw [hnumber, EndsInOne, EndsInFew, endsIn_pad_iff, endsIn_pad_iff, endsIn_pad_iff,
      endsIn_pad_iff]
    exact ⟨Iff.rfl, Iff.rfl⟩
  · subst hrule
    obtain ⟨f, hf⟩ := Table.complete_iff.1 hcomplete u
    exact ⟨f, hf.forms?, fun place => Table.lt_length_iff hf⟩
  · subst hrule
    exact Table.render_word hcomplete hword hshown ht

/-- 1012 minutes in Russian, with two zeros in front: they end in 12, so they are many, not few. -/
theorem pick_follows_digits_teens :
    let t := Builtin.ruRU
    let p : Placeholder := ⟨.fixed .minute, true, 6, .word, true, ['!']⟩
    writePadded 1012 6 = .ok ['0', '0', '1', '0', '1', '2'] ∧
      ¬ EndsInFew ['0', '0', '1', '0', '1', '2'] ∧ t.Complete ∧ ¬ p.LeftOut ⟨60720⟩ ∧
      ∃ number f place word, Decimal.Numeral 6 1012 number ∧ t.forms? .minute = some f ∧
        russian.Takes ['1', '0', '1', '2'] place ∧ place = 2 ∧ f.words[place]? = some word ∧
        p.render ⟨60720⟩ t.localizer = .ok (number ++ (t.separator ++ word).toList ++ p.tail) := by
  intro t p
  obtain ⟨hpick, hpad, -, -, htables⟩ := pick_follows_digits russian
  have hwritten : writePadded 1012 6 = .ok ['0', '0', '1', '0', '1', '2'] := by decide +kernel
  have hdigits : Nat.toDigits 10 (1012 : UInt64).toNat = ['1', '0', '1', '2'] := by decide +kernel
  have hfew : ¬ EndsInFew ['0', '0', '1', '0', '1', '2'] := by
    rw [(hpad 1012 6 _ hwritten).2, endsInFew_iff]
    decide
  have hcomplete : t.Complete := Builtin.complete_tables t (by simp [t, Builtin.tables])
  have hshown : ¬ p.LeftOut ⟨60720⟩ := Placeholder.hidden_eq_false_iff.1 (by decide)
  have hvalue : (p.value ⟨60720⟩).toNat = 1012 := by decide
  obtain ⟨text, htext⟩ := Placeholder.exists_render_eq_ok (p := p) (b := ⟨60720⟩)
    (l := t.localizer) fun _ => by decide
  obtain ⟨number, f, place, word, hnumber, hf, htakes, hword, rfl⟩ :=
    (htables t hcomplete rfl).2 p ⟨60720⟩ text rfl hshown htext
  rw [hvalue] at hnumber htakes
  have hplace : place = 2 := by
    rw [← (hpick 1012 place).2 htakes]
    decide
  rw [← hdigits]
  exact ⟨hwritten, hfew, hcomplete, hshown, number, f, place, word, hnumber, hf, htakes, hplace,
    hword, htext⟩

end PluralRule

end Elapsed
