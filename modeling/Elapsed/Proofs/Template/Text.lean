import Elapsed.Proofs.Breakdown
import Elapsed.Proofs.Decimal
import Elapsed.Proofs.Template.Rendering

/-!
# The text of nodes

What the text of a list of nodes is, and when there is none, said without the renderer.

*One node.*  `Node.Shows` says which text a node has in a duration and a language: a literal itself,
an invalid node a question mark, a placeholder that is left out nothing, and any other placeholder
a numeral, what its suffix asks for, and its tail (`Placeholder.Writes`).  Whether a placeholder is
left out (`Placeholder.LeftOut`) is a matter of the whole duration; the number it shows need not be.

*When there is a text.*  `Node.Fits`: only a numeral that is too wide stands in the way, and only
where it would be shown.  `Node.render_eq_ok_iff` puts the two together for one node.

So nodes have a text exactly if all of them fit, and it is their texts in a row
(`Node.renderAll_shows`).
-/

namespace Elapsed

namespace Placeholder

/-- Whether a placeholder is left out: it is optional, and the duration is shorter than one unit. -/
def LeftOut (p : Placeholder) (b : Breakdown) : Prop :=
  p.optional = true ∧ b.total.toNat < (b.resolve p.unit).seconds.toNat

/-- Whether a text is that of a placeholder that is shown: a numeral for the count of its unit, at
least as wide as it asks for; then nothing, the abbreviation of the unit, or the word of the unit
that fits the count; then its tail. -/
def Writes (p : Placeholder) (b : Breakdown) (l : Localizer) (text : List Char) : Prop :=
  ∃ (value : UInt64) (number behind : List Char),
    value.toNat = (b.resolve p.unit).countIn p.cumulative b.total.toNat ∧
    Decimal.Numeral p.digits value.toNat number ∧
    (p.suffix = .bare → behind = []) ∧
    (p.suffix = .abbreviation → behind = (l.abbreviation (b.resolve p.unit)).toList) ∧
    (p.suffix = .word → behind = (l.word (b.resolve p.unit) value).toList) ∧
    text = number ++ behind ++ p.tail

variable {p : Placeholder} {b : Breakdown} {l : Localizer} {text : List Char}

theorem hidden_iff : p.hidden b = true ↔ p.LeftOut b := by
  rw [hidden, Bool.and_eq_true, beq_iff_eq, Breakdown.cumulative_eq_zero_iff, LeftOut]

theorem hidden_eq_false_iff : p.hidden b = false ↔ ¬ p.LeftOut b := by
  rw [← hidden_iff, Bool.not_eq_true]

theorem toNat_value (p : Placeholder) (b : Breakdown) :
    (p.value b).toNat = (b.resolve p.unit).countIn p.cumulative b.total.toNat :=
  b.toNat_count (b.resolve p.unit) p.cumulative

/-- What is behind a number is fixed by the suffix. -/
theorem suffix_text_eq_iff {u : TimeUnit} {value : UInt64} {x : Suffix} :
    text = x.text l u value ↔
      (x = .bare → text = []) ∧ (x = .abbreviation → text = (l.abbreviation u).toList) ∧
        (x = .word → text = (l.word u value).toList) := by
  cases x with
  | bare => simp [Suffix.text]
  | abbreviation => simp [Suffix.text]
  | word => simp [Suffix.text]

/-- There is one such text, and it is the one that the placeholder is rendered to. -/
theorem writes_iff : p.Writes b l text ↔
    text = Decimal.pad p.digits (p.value b).toNat
      ++ p.suffix.text l (b.resolve p.unit) (p.value b) ++ p.tail := by
  constructor
  · rintro ⟨value, number, behind, hvalue, hnumber, hbare, habbreviation, hword, rfl⟩
    have hv : value = p.value b := UInt64.toNat_inj.1 (hvalue.trans (p.toNat_value b).symm)
    subst hv
    rw [Decimal.numeral_iff.1 hnumber, suffix_text_eq_iff.2 ⟨hbare, habbreviation, hword⟩]
  · rintro rfl
    exact ⟨p.value b, _, _, p.toNat_value b, Decimal.numeral_iff.2 rfl,
      (suffix_text_eq_iff.1 rfl).1, (suffix_text_eq_iff.1 rfl).2.1, (suffix_text_eq_iff.1 rfl).2.2,
      rfl⟩

theorem render_of_leftOut (h : p.LeftOut b) (l : Localizer) : p.render b l = .ok [] := by
  rw [render, if_pos (hidden_iff.2 h)]

/-- A placeholder that is shown has a text exactly if it is not too wide. -/
theorem render_eq_ok_iff (h : ¬ p.LeftOut b) :
    p.render b l = .ok text ↔ p.digits ≤ maxWidth ∧ p.Writes b l text := by
  have hshown := hidden_eq_false_iff.2 h
  by_cases hwidth : p.digits ≤ maxWidth
  · rw [render_of_shown l hshown hwidth, writes_iff, Except.ok.injEq, eq_comm]
    exact (and_iff_right hwidth).symm
  · rw [render, hshown, writePadded, if_neg hwidth]
    constructor
    · intro h
      cases h
    · rintro ⟨h, -⟩
      exact absurd h hwidth

/-- A placeholder has no text at all exactly if it is left out: a number has a digit at least. -/
theorem render_eq_nil_iff : p.render b l = .ok [] ↔ p.LeftOut b := by
  constructor
  · intro h
    by_contra hshown
    obtain ⟨-, value, number, behind, -, hnumber, -, -, -, htext⟩ :=
      (render_eq_ok_iff hshown).1 h
    have hlength : 1 ≤ number.length := by
      rw [hnumber.length_eq]
      exact Nat.le_trans Nat.length_toDigits_pos (Nat.le_max_right _ _)
    rw [eq_comm, List.append_assoc, List.append_eq_nil_iff] at htext
    rw [htext.1] at hlength
    exact absurd hlength (by decide)
  · exact fun h => render_of_leftOut h l

end Placeholder

namespace Node

/-- The text of a node in a duration and a language. -/
inductive Shows (b : Breakdown) (l : Localizer) : Node → List Char → Prop where
  | literal (text : List Char) : Shows b l (.literal text) text
  | invalid : Shows b l .invalid ['?']
  | leftOut {p : Placeholder} (h : p.LeftOut b) : Shows b l (.placeholder p) []
  | shown {p : Placeholder} {text : List Char} (h : ¬ p.LeftOut b) (ht : p.Writes b l text) :
      Shows b l (.placeholder p) text

/-- Whether a node is not too wide to be shown. -/
def Fits (b : Breakdown) (n : Node) : Prop :=
  ∀ p, n = .placeholder p → ¬ p.LeftOut b → p.digits ≤ maxWidth

variable {b : Breakdown} {l : Localizer} {n : Node} {nodes : List Node} {text : List Char}

/-- Every node has a text, though it may be too wide to be shown. -/
theorem exists_shows (b : Breakdown) (l : Localizer) (n : Node) : ∃ text, n.Shows b l text := by
  cases n with
  | literal text => exact ⟨text, .literal text⟩
  | invalid => exact ⟨_, .invalid⟩
  | placeholder p =>
      by_cases h : p.LeftOut b
      · exact ⟨[], .leftOut h⟩
      · exact ⟨_, .shown h (Placeholder.writes_iff.2 rfl)⟩

theorem fits_of_ne_placeholder (h : ∀ p, n ≠ .placeholder p) : n.Fits b :=
  fun p hp => absurd hp (h p)

theorem fits_placeholder_iff {p : Placeholder} :
    (Node.placeholder p).Fits b ↔ (¬ p.LeftOut b → p.digits ≤ maxWidth) := by
  simp [Fits]

theorem shows_literal_iff {t : List Char} : (Node.literal t).Shows b l text ↔ text = t := by
  constructor
  · rintro ⟨⟩
    rfl
  · rintro rfl
    exact .literal text

theorem shows_invalid_iff : Node.invalid.Shows b l text ↔ text = ['?'] := by
  constructor
  · rintro ⟨⟩
    rfl
  · rintro rfl
    exact .invalid

theorem shows_placeholder_iff {p : Placeholder} :
    (Node.placeholder p).Shows b l text ↔
      (p.LeftOut b ∧ text = []) ∨ (¬ p.LeftOut b ∧ p.Writes b l text) := by
  constructor
  · intro h
    cases h with
    | leftOut h => exact .inl ⟨h, rfl⟩
    | shown h ht => exact .inr ⟨h, ht⟩
  · rintro (⟨h, rfl⟩ | ⟨h, ht⟩)
    · exact .leftOut h
    · exact .shown h ht

/-- A node is rendered exactly if it fits, and then to the text that it shows. -/
theorem render_eq_ok_iff : n.render b l = .ok text ↔ n.Fits b ∧ n.Shows b l text := by
  cases n with
  | literal t =>
      rw [render, Except.ok.injEq, shows_literal_iff, eq_comm]
      exact (and_iff_right (fits_of_ne_placeholder (by simp))).symm
  | invalid =>
      rw [render, Except.ok.injEq, shows_invalid_iff, eq_comm]
      exact (and_iff_right (fits_of_ne_placeholder (by simp))).symm
  | placeholder p =>
      rw [render, fits_placeholder_iff, shows_placeholder_iff]
      by_cases h : p.LeftOut b
      · rw [Placeholder.render_of_leftOut h]
        simp [h, eq_comm]
      · rw [Placeholder.render_eq_ok_iff h]
        simp [h]

/-- Nodes are rendered exactly if all of them fit, and then to their texts in a row. -/
theorem renderAll_eq_ok_iff : renderAll b l nodes = .ok text ↔
    (∀ n ∈ nodes, n.Fits b) ∧
      ∃ parts, List.Forall₂ (Shows b l) nodes parts ∧ text = parts.flatten := by
  simp only [renderAll_eq_concatM, concatM_eq_ok_iff, render_eq_ok_iff, List.forall₂_and_left]
  constructor
  · rintro ⟨parts, ⟨hfits, hparts⟩, rfl⟩
    exact ⟨hfits, parts, hparts, rfl⟩
  · rintro ⟨hfits, parts, hparts, rfl⟩
    exact ⟨parts, ⟨hfits, hparts⟩, rfl⟩

theorem exists_renderAll_eq_ok_iff :
    (∃ text, renderAll b l nodes = .ok text) ↔ ∀ n ∈ nodes, n.Fits b := by
  constructor
  · rintro ⟨text, h⟩
    exact (renderAll_eq_ok_iff.1 h).1
  · intro h
    refine exists_concatM_eq_ok fun n hn => ?_
    obtain ⟨text, htext⟩ := exists_shows b l n
    exact ⟨text, render_eq_ok_iff.2 ⟨h n hn, htext⟩⟩

/-- Nodes do not all fit if some placeholder is too wide and is not left out. -/
theorem not_forall_fits_iff :
    (¬ ∀ n ∈ nodes, n.Fits b) ↔
      ∃ p, .placeholder p ∈ nodes ∧ maxWidth < p.digits ∧ ¬ p.LeftOut b := by
  constructor
  · intro h
    simp only [Fits, not_forall] at h
    obtain ⟨n, hn, p, rfl, hshown, hwidth⟩ := h
    exact ⟨p, hn, Nat.lt_of_not_le hwidth, hshown⟩
  · rintro ⟨p, hp, hwidth, hshown⟩ h
    exact absurd (h _ hp p rfl hshown) (Nat.not_le.2 hwidth)

/-- **Nodes show their texts in a row, or nothing if one of them is too wide.**  Whatever the nodes,
the duration and the language: rendering fails exactly if some placeholder asks for more than 65535
digits and is not left out.  Otherwise there is a text, and it is made of one part for each node in
order, which is what that node shows. -/
theorem renderAll_shows (nodes : List Node) (b : Breakdown) (l : Localizer) :
    ((∃ e, renderAll b l nodes = .error e) ↔
      ∃ p, .placeholder p ∈ nodes ∧ 65535 < p.digits ∧
        ¬ (p.optional = true ∧ b.total.toNat < (b.resolve p.unit).seconds.toNat)) ∧
    ∀ text, renderAll b l nodes = .ok text ↔
      (¬ ∃ p, .placeholder p ∈ nodes ∧ 65535 < p.digits ∧
        ¬ (p.optional = true ∧ b.total.toNat < (b.resolve p.unit).seconds.toNat)) ∧
      ∃ parts, List.Forall₂ (Shows b l) nodes parts ∧ text = parts.flatten := by
  have hwide : (∃ p, .placeholder p ∈ nodes ∧ 65535 < p.digits ∧
      ¬ (p.optional = true ∧ b.total.toNat < (b.resolve p.unit).seconds.toNat)) ↔
      ¬ ∀ n ∈ nodes, n.Fits b := not_forall_fits_iff.symm
  refine ⟨?_, fun text => ?_⟩
  · rw [hwide, ← exists_renderAll_eq_ok_iff (l := l)]
    cases renderAll b l nodes with
    | error e => simp
    | ok text => simp
  · rw [hwide, not_not, renderAll_eq_ok_iff]

/-- Twenty-five hours: one of them is left of the day, and a week is left out, however wide. -/
example : renderAll ⟨90000⟩ ⟨fun _ => "h", fun _ _ => " w"⟩
    [.placeholder ⟨.fixed .hour, false, 2, .abbreviation, true, ['!']⟩, .invalid,
      .placeholder ⟨.fixed .week, false, 65536, .word, true, []⟩]
      = .ok ['0', '1', 'h', '!', '?'] := by
  decide +kernel

end Node

end Elapsed
