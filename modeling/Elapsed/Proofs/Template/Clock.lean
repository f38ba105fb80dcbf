import Elapsed.Proofs.Template.Escaping
import Elapsed.Proofs.Template.Printing
import Elapsed.Proofs.Template.Text

/-!
# Clocks

A clock shows the days, hours, minutes and seconds of a duration, each padded to a width of its own,
with fixed texts between them.  Such texts sort like the durations they show.

*Rows.*  A row (`Template.row`) is made of numbers that are written out to the widths of their
fields (`Template.Field`), behind the texts of the fields.  If the numbers fit, the row is as long
as its fields (`Template.size_row`), its numbers can be read back from it (`Template.readRow_row`),
and two rows of the same fields are in the order of their numbers, of which the first that differ
decide (`Template.row_lt_row`).

*Templates.*  `Template.format_ofFields`: a template that asks for one count after the other, with
texts in front of them, shows the row of these counts in every language.

*Durations.*  Days, hours, minutes and seconds are the digits of a duration in mixed radix, so their
order is the order of the durations (`Breakdown.mixedRadix_lt`).

From these, a clock sorts like what it shows, and it can be read (`Template.clock_sorts`).
-/

namespace Elapsed.Template

/-! ## Rows of numerals -/

/-- A part of a template that shows one of the counts of a unit with so many digits, and a text in
front of it. -/
structure Field where
  front : List Char
  unit : TimeUnit
  cumulative : Bool
  width : Nat

/-- Whether a number has no more digits than a field has places. -/
def Field.Holds (f : Field) (n : Nat) : Prop :=
  (Nat.toDigits 10 n).length ≤ f.width

/-- Numbers written out one behind the other, each to the width of its field and behind the text of
its field. -/
def row : List Field → List Nat → List Char
  | f :: fields, n :: numbers => f.front ++ Decimal.pad f.width n ++ row fields numbers
  | _, _ => []

/-- The numbers that stand at the places of the fields. -/
def readRow : List Field → List Char → List Nat
  | [], _ => []
  | f :: fields, text =>
    let number := text.drop f.front.length
    Decimal.value (number.take f.width) :: readRow fields (number.drop f.width)

section Rows

variable {f : Field} {n : Nat} {fields : List Field} {a b : List Nat}

theorem Field.Holds.length_pad (h : f.Holds n) : (Decimal.pad f.width n).length = f.width := by
  rw [Decimal.length_pad, Nat.max_eq_left h]

/-- Whatever measures texts part by part, and digits by their number, gives the same for all rows of
the same fields. -/
theorem size_row {size : List Char → Nat} (hadd : ∀ x y, size (x ++ y) = size x + size y)
    (hdigits : ∀ x : List Char, (∀ c ∈ x, c.isDigit = true) → size x = x.length)
    (h : List.Forall₂ Field.Holds fields a) :
    size (row fields a) = (fields.map fun f => size f.front + f.width).sum := by
  induction h with
  | nil => exact hdigits [] (by simp)
  | @cons f n fields a hn _ ih =>
      rw [row, hadd, hadd, ih, hdigits _ fun c hc => Decimal.isDigit_of_mem_pad hc, hn.length_pad,
        List.map_cons, List.sum_cons]

/-- Numbers that fit their fields can be read back. -/
theorem readRow_row (h : List.Forall₂ Field.Holds fields a) :
    readRow fields (row fields a) = a := by
  induction h with
  | nil => rfl
  | @cons f n fields a hn _ ih =>
      rw [row, readRow, List.append_assoc, List.drop_left, List.take_left' hn.length_pad,
        List.drop_left' hn.length_pad, ih, Decimal.value_pad]

/-- Rows are in the order of their numbers. -/
theorem row_lt_row (ha : List.Forall₂ Field.Holds fields a)
    (hb : List.Forall₂ Field.Holds fields b) (h : a < b) : row fields a < row fields b := by
  induction ha generalizing b with
  | nil =>
      cases hb
      exact absurd h (List.not_lt_nil [])
  | @cons f m fields a hm _ ih =>
      cases hb with
      | @cons _ n _ b hn hb =>
          rw [row, row, List.append_assoc, List.append_assoc]
          refine List.append_left_lt ?_
          rcases List.cons_lt_cons_iff.1 h with hlt | ⟨rfl, hlt⟩
          · -- the numbers here differ, so what stands behind them has no say
            refine Decimal.append_lt_append ?_ (Decimal.pad_lt_pad hm hn hlt) _ _
            rw [hm.length_pad, hn.length_pad]
          · exact List.append_left_lt (ih hb hlt)

end Rows

/-! ## Templates of fields -/

/-- The placeholder of a field. -/
def Field.placeholder (f : Field) : Placeholder where
  unit := .fixed f.unit
  cumulative := f.cumulative
  digits := f.width

/-- A template that shows one field after the other. -/
def ofFields : List Field → String
  | [] => ""
  | f :: fields => String.ofList f.front ++ spanOf f.placeholder.code ++ ofFields fields

/-- Whether a field can be part of a template: its text needs no backslash, and its width is one
that a placeholder can have. -/
structure Field.Sound (f : Field) : Prop where
  isPlain : ∀ c ∈ f.front, Segment.isPlain c = true
  pos : 1 ≤ f.width
  width_le : f.width ≤ maxWidth

/-- The number that a field shows. -/
def Field.number (seconds : UInt64) (f : Field) : Nat :=
  f.unit.countIn f.cumulative seconds.toNat

theorem utf8Length_of_isDigit (text : List Char) (h : ∀ c ∈ text, c.isDigit = true) :
    utf8Length text = text.length := by
  induction text with
  | nil => rfl
  | cons c text ih =>
      have hc : c.utf8Size = 1 := by
        obtain ⟨-, hle⟩ := Decimal.toNat_of_isDigit (h c List.mem_cons_self)
        refine Char.utf8Size_eq_one_iff.2 ?_
        show c.toNat ≤ 127
        omega
      rw [utf8Length, hc, ih fun d hd => h d (List.mem_cons_of_mem c hd), List.length_cons,
        Nat.add_comm]

section Fields

variable {f : Field} {fields : List Field}

theorem Field.Sound.expressible (h : f.Sound) : f.placeholder.Expressible :=
  ⟨h.pos, List.not_mem_nil, fun _ => rfl⟩

/-- A field shows its number, padded to its width. -/
theorem Field.Sound.format_spanOf (h : f.Sound) (l : Localizer) (seconds : UInt64) :
    l.format seconds (spanOf f.placeholder.code)
      = .ok (String.ofList (Decimal.pad f.width (f.number seconds))) := by
  have hvalue : (f.placeholder.value ⟨seconds⟩).toNat = f.number seconds :=
    f.placeholder.toNat_value ⟨seconds⟩
  rw [format_spanOf_of_some (Placeholder.brace_not_mem_code h.expressible)
      (Placeholder.ofCode?_code h.expressible),
    Placeholder.render_of_shown l rfl h.width_le, hvalue]
  show Except.ok (String.ofList (_ ++ [] ++ [])) = _
  rw [List.append_nil, List.append_nil]
  rfl

/-- A template of fields shows the row of their numbers. -/
theorem format_ofFields (h : ∀ f ∈ fields, f.Sound) (l : Localizer) (seconds : UInt64) :
    l.format seconds (ofFields fields)
      = .ok (String.ofList (row fields (fields.map (Field.number seconds)))) := by
  induction fields with
  | nil => exact quotes_empty.format_eq l seconds
  | cons f fields ih =>
      have hf := h f List.mem_cons_self
      have hfront := quotes_of_isPlain hf.isPlain
      have hcode := closed_spanOf (Placeholder.brace_not_mem_code hf.expressible)
      have hrest := ih fun f' hf' => h f' (List.mem_cons_of_mem f hf')
      rw [ofFields, format_between hfront.closed hcode, hfront.format_eq, hf.format_spanOf, hrest,
        List.map_cons, row, String.ofList_append, String.ofList_append]
      rfl

end Fields

/-! ## Clocks -/

/-- The fields of a clock: all the days, and the hours, minutes and seconds that are left of
them. -/
def clockFields (n : Nat) (x y z : String) : List Field :=
  [⟨[], .day, true, n⟩, ⟨x.toList, .hour, false, 2⟩, ⟨y.toList, .minute, false, 2⟩,
    ⟨z.toList, .second, false, 2⟩]

/-- A template for the days with `n` digits, and for the hours, minutes and seconds with two each;
`x`, `y` and `z` stand between them. -/
def clock (n : Nat) (x y z : String) : String :=
  spanOf (List.replicate n 'D') ++ x ++ spanOf ['h', 'h'] ++ y ++ spanOf ['m', 'm'] ++ z
    ++ spanOf ['s', 's']

/-- The duration that a clock shows. -/
def readClock (n : Nat) (x y z text : String) : UInt64 :=
  match readRow (clockFields n x y z) text.toList with
  | [d, h, m, s] => UInt64.ofNat (86400 * d + 3600 * h + 60 * m + s)
  | _ => 0

/-- What a clock shows. -/
def clockText (n : Nat) (x y z : String) (seconds : UInt64) : String :=
  String.ofList (row (clockFields n x y z) ((clockFields n x y z).map (Field.number seconds)))

/-- Whether the days of a duration have no more than `n` digits. -/
def DaysFit (n : Nat) (seconds : UInt64) : Prop :=
  (Nat.toDigits 10 (seconds.toNat / 86400)).length ≤ n

instance (n : Nat) (seconds : UInt64) : Decidable (DaysFit n seconds) :=
  inferInstanceAs (Decidable (_ ≤ _))

section Clock

variable {n : Nat} {x y z : String} {s t : UInt64}

/-- A clock is the template of its fields. -/
theorem clock_eq (n : Nat) (x y z : String) : clock n x y z = ofFields (clockFields n x y z) := by
  have hcode (f : Field) : f.placeholder.code = List.replicate f.width f.placeholder.letter := by
    show List.replicate f.width f.placeholder.letter ++ [] ++ [] = _
    rw [List.append_nil, List.append_nil]
  have hday : (Field.placeholder ⟨[], .day, true, n⟩).letter = 'D' := by
    show TimeUnit.day.letter.toUpper = 'D'
    decide
  simp only [clock, clockFields, ofFields, hcode, hday, String.ofList_toList, String.append_assoc,
    String.append_empty, String.ofList_nil, String.empty_append]
  rfl

/-- The numbers of a clock are the digits of the duration in mixed radix. -/
theorem numbers_clockFields (n : Nat) (x y z : String) (s : UInt64) :
    (clockFields n x y z).map (Field.number s)
      = [s.toNat / 86400, s.toNat / 3600 % 24, s.toNat / 60 % 60, s.toNat % 60] := by
  have hday : TimeUnit.day.seconds.toNat = 86400 := rfl
  have hhour : TimeUnit.hour.seconds.toNat = 3600 := rfl
  have hminute : TimeUnit.minute.seconds.toNat = 60 := rfl
  have hsecond : TimeUnit.second.seconds.toNat = 1 := rfl
  simp only [clockFields, List.map_cons, List.map_nil, Field.number, TimeUnit.countIn, hday, hhour,
    hminute, hsecond, Nat.div_one]
  rfl

/-- Hours, minutes and seconds always fit their two places. -/
theorem holds_clockFields (h : DaysFit n s) :
    List.Forall₂ Field.Holds (clockFields n x y z)
      ((clockFields n x y z).map (Field.number s)) := by
  have htwo (k : Nat) (hk : k < 60) : (Nat.toDigits 10 k).length ≤ 2 :=
    (Nat.length_toDigits_le_iff (by decide) (by decide)).2 (by omega)
  rw [numbers_clockFields]
  exact .cons h (.cons (htwo _ (by omega)) (.cons (htwo _ (by omega)) (.cons (htwo _ (by omega))
    .nil)))

theorem sound_clockFields (hpos : 1 ≤ n) (hwidth : n ≤ maxWidth)
    (hplain : ∀ text ∈ [x, y, z], ∀ c ∈ text.toList, c ≠ '{' ∧ c ≠ '\\') :
    ∀ f ∈ clockFields n x y z, f.Sound := by
  have htext (text : String) (h : text ∈ [x, y, z]) (u : TimeUnit) :
      Field.Sound ⟨text.toList, u, false, 2⟩ :=
    ⟨fun c hc => Segment.isPlain_iff.2 (hplain text h c hc),
      (by decide : 1 ≤ 2), (by decide : 2 ≤ maxWidth)⟩
  simp only [clockFields, List.forall_mem_cons]
  exact ⟨⟨fun c hc => absurd hc List.not_mem_nil, hpos, hwidth⟩, htext x (by simp) _,
    htext y (by simp) _, htext z (by simp) _, fun f hf => absurd hf List.not_mem_nil⟩

theorem format_clock (hpos : 1 ≤ n) (hwidth : n ≤ maxWidth)
    (hplain : ∀ text ∈ [x, y, z], ∀ c ∈ text.toList, c ≠ '{' ∧ c ≠ '\\') (l : Localizer)
    (s : UInt64) : l.format s (clock n x y z) = .ok (clockText n x y z s) := by
  rw [clock_eq, format_ofFields (sound_clockFields hpos hwidth hplain), clockText]

/-- A clock can be read. -/
theorem readClock_clockText (x y z : String) (h : DaysFit n s) :
    readClock n x y z (clockText n x y z s) = s := by
  obtain ⟨-, -, -, hsum⟩ := Breakdown.mixedRadix_digits s.toNat
  rw [readClock, clockText, String.toList_ofList, readRow_row (holds_clockFields h),
    numbers_clockFields]
  show UInt64.ofNat (86400 * (s.toNat / 86400) + 3600 * (s.toNat / 3600 % 24)
    + 60 * (s.toNat / 60 % 60) + s.toNat % 60) = s
  rw [hsum, UInt64.ofNat_toNat]

/-- The texts of a clock have one length, in characters and in bytes. -/
theorem length_clockText (x y z : String) (hs : DaysFit n s) (ht : DaysFit n t) :
    (clockText n x y z s).length = (clockText n x y z t).length ∧
      (clockText n x y z s).utf8ByteSize = (clockText n x y z t).utf8ByteSize := by
  have hsize {size : List Char → Nat} (hadd : ∀ a b, size (a ++ b) = size a + size b)
      (hdigits : ∀ a : List Char, (∀ c ∈ a, c.isDigit = true) → size a = a.length) :
      size (clockText n x y z s).toList = size (clockText n x y z t).toList := by
    rw [clockText, clockText, String.toList_ofList, String.toList_ofList,
      size_row hadd hdigits (holds_clockFields hs), size_row hadd hdigits (holds_clockFields ht)]
  refine ⟨?_, ?_⟩
  · rw [← String.length_toList, ← String.length_toList]
    exact hsize (fun a b => List.length_append) fun a _ => rfl
  · rw [← utf8Length_toList, ← utf8Length_toList]
    exact hsize utf8Length_append utf8Length_of_isDigit

/-- Longer durations have greater texts. -/
theorem clockText_lt (x y z : String) (hs : DaysFit n s) (ht : DaysFit n t) (h : s < t) :
    clockText n x y z s < clockText n x y z t := by
  rw [String.lt_iff_toList_lt, clockText, clockText, String.toList_ofList, String.toList_ofList]
  refine row_lt_row (holds_clockFields hs) (holds_clockFields ht) ?_
  rw [numbers_clockFields, numbers_clockFields]
  exact Breakdown.mixedRadix_lt (UInt64.lt_iff_toNat_lt.1 h)

end Clock

/-- **Clocks sort like durations.**  A clock whose texts need no backslash shows every duration.
Where the days have no more digits than the clock has places, a longer duration is shown as a
greater text of the same length, in any language; the duration can be read back from its text, so
no two durations are shown alike. -/
theorem clock_sorts (n : Nat) (x y z : String) (hpos : 1 ≤ n) (hwidth : n ≤ 65535)
    (hplain : ∀ text ∈ [x, y, z], ∀ c ∈ text.toList, c ≠ '{' ∧ c ≠ '\\') (l : Localizer) :
    (∀ s t, s < t → DaysFit n s → DaysFit n t → ∃ a b,
      l.format s (clock n x y z) = .ok a ∧ l.format t (clock n x y z) = .ok b ∧
        a.length = b.length ∧ a.utf8ByteSize = b.utf8ByteSize ∧ a < b) ∧
    (∀ s, DaysFit n s →
      ∃ text, l.format s (clock n x y z) = .ok text ∧ readClock n x y z text = s) ∧
    ∀ s t, DaysFit n s → DaysFit n t →
      l.format s (clock n x y z) = l.format t (clock n x y z) → s = t := by
  have hformat := format_clock hpos hwidth hplain l
  refine ⟨fun s t h hs ht => ?_, fun s hs => ?_, fun s t hs ht h => ?_⟩
  · obtain ⟨hlength, hbytes⟩ := length_clockText x y z hs ht
    exact ⟨_, _, hformat s, hformat t, hlength, hbytes, clockText_lt x y z hs ht h⟩
  · exact ⟨_, hformat s, readClock_clockText x y z hs⟩
  · rw [hformat, hformat, Except.ok.injEq] at h
    rw [← readClock_clockText x y z hs, h, readClock_clockText x y z ht]

/-- One second more, and every number of the clock is another one. -/
theorem clock_sorts_carry :
    (∀ text ∈ [" 日 ", ":", ":"], ∀ c ∈ text.toList, c ≠ '{' ∧ c ≠ '\\') ∧
    DaysFit 2 863999 ∧ DaysFit 2 864000 ∧
    ∀ l : Localizer, ∃ a b, l.format 863999 (clock 2 " 日 " ":" ":") = .ok a ∧
      l.format 864000 (clock 2 " 日 " ":" ":") = .ok b ∧ a.length = b.length ∧ a < b ∧
      readClock 2 " 日 " ":" ":" a = 863999 := by
  have hplain : ∀ text ∈ [" 日 ", ":", ":"], ∀ c ∈ text.toList, c ≠ '{' ∧ c ≠ '\\' := by
    simp
  have hs : DaysFit 2 863999 := (Nat.length_toDigits_le_iff (by decide) (by decide)).2 (by decide)
  have ht : DaysFit 2 864000 := (Nat.length_toDigits_le_iff (by decide) (by decide)).2 (by decide)
  refine ⟨hplain, hs, ht, fun l => ?_⟩
  obtain ⟨hsort, hread, -⟩ := clock_sorts 2 " 日 " ":" ":" (by decide) (by decide) hplain l
  obtain ⟨a, b, ha, hb, hlength, -, hlt⟩ := hsort 863999 864000 (by decide) hs ht
  obtain ⟨a', ha', hreads⟩ := hread 863999 hs
  rw [ha, Except.ok.injEq] at ha'
  subst ha'
  exact ⟨a, b, ha, hb, hlength, hlt, hreads⟩

example : clockText 2 " 日 " ":" ":" 863999 = "09 日 23:59:59" := by decide +kernel

end Elapsed.Template
