import Elapsed.Proofs.Template.Escaping
import Elapsed.Proofs.Template.Greatest

/-!
# Optional placeholders can be eliminated

A question mark makes a placeholder optional, and what is behind it is its tail.  In a given
duration the same can be said without question marks.

*Codes.*  `Placeholder.ofCode?_optional`: a question mark and a tail behind a code without a
question mark change these two things about the placeholder and nothing else.

*One placeholder.*  If the duration holds the unit, the tail is written behind what the placeholder
shows without it (`Placeholder.render_optional_of_le`); if not, nothing is shown
(`Placeholder.leftOut_optional_iff`).

*Templates.*  Inside the braces the tail stands as it is; outside, what would start a span or an
escape in it is protected (`Template.shield`).  `Template.format_optional_of_le` and
`Template.format_optional_of_lt` put this into a template.

So an optional placeholder is there for the whole duration to decide
(`Template.visible_optional_iff`), whatever number it would show.
-/

namespace Elapsed

namespace Placeholder

variable {code tail : List Char} {p : Placeholder} {b : Breakdown} {l : Localizer}

/-! ## Codes -/

theorem Spelling.Denotes.tail_eq_nil {a : Spelling} (ha : a.Denotes p) (hmark : '?' ∉ a.text) :
    a.tail = [] ∧ p.optional = false ∧ p.tail = [] := by
  rcases ha.tail with h | ⟨htail, -⟩
  · exact h
  · exact absurd (List.mem_append_right _ (by rw [htail]; exact List.mem_cons_self)) hmark

/-- A code without a question mark is that of a placeholder that is not optional, and it does not
close the span it stands in. -/
theorem plain_of_mark_not_mem (hmark : '?' ∉ code) (hcode : ofCode? code = some p) :
    p.optional = false ∧ p.tail = [] ∧ '}' ∉ code := by
  obtain ⟨a, rfl, ha⟩ := ofCode?_eq_some_iff.1 hcode
  obtain ⟨-, hoptional, htail⟩ := ha.tail_eq_nil hmark
  exact ⟨hoptional, htail, ha.brace_not_mem (by rw [htail]; exact List.not_mem_nil)⟩

/-- A question mark and a text behind a code make the placeholder optional and the text its tail. -/
theorem ofCode?_optional (hmark : '?' ∉ code) (hcode : ofCode? code = some p) (tail : List Char) :
    ofCode? (code ++ '?' :: tail) = some { p with optional := true, tail } := by
  obtain ⟨a, rfl, ha⟩ := ofCode?_eq_some_iff.1 hcode
  refine ofCode?_eq_some_iff.2 ⟨{ a with tail := '?' :: tail }, ?_, ?_⟩
  · rw [Spelling.text, Spelling.text, (ha.tail_eq_nil hmark).1, List.append_nil]
  · exact { ha with tail := .inr ⟨rfl, rfl⟩ }

/-- With such a tail, too, a code does not close the span if the tail does not. -/
theorem brace_not_mem_optional (hmark : '?' ∉ code) (hcode : ofCode? code = some p)
    (htail : '}' ∉ tail) : '}' ∉ code ++ '?' :: tail := by
  rw [List.mem_append, List.mem_cons]
  rintro (hmem | hmem | hmem)
  · exact (plain_of_mark_not_mem hmark hcode).2.2 hmem
  · exact absurd hmem (by decide)
  · exact htail hmem

/-! ## Rendering -/

theorem leftOut_optional_iff (p : Placeholder) (b : Breakdown) (tail : List Char) :
    { p with optional := true, tail }.LeftOut b ↔ b.total < (b.resolve p.unit).seconds := by
  rw [LeftOut, UInt64.lt_iff_toNat_lt]
  exact and_iff_right rfl

/-- An optional placeholder whose unit the duration holds has its tail behind what it would show
without. -/
theorem render_optional_of_le (hoptional : p.optional = false) (hnone : p.tail = [])
    (h : (b.resolve p.unit).seconds ≤ b.total) (tail : List Char) :
    { p with optional := true, tail }.render b l = do return (← p.render b l) ++ tail := by
  have hshown : { p with optional := true, tail }.hidden b = false := by
    rw [hidden_eq_false_iff, leftOut_optional_iff]
    exact UInt64.not_lt.2 h
  have hplain : p.hidden b = false := by
    rw [hidden, hoptional]
    rfl
  rw [render, render, hshown, hplain, hnone]
  show (do
      let number ← writePadded (p.value b) p.digits
      return number ++ p.suffix.text l (b.resolve p.unit) (p.value b) ++ tail) = _
  cases writePadded (p.value b) p.digits with
  | error e => rfl
  | ok number =>
      show Except.ok _ = Except.ok (number ++ p.suffix.text l (b.resolve p.unit) (p.value b) ++ []
        ++ tail)
      rw [List.append_nil]

end Placeholder

namespace Template

/-- A text with a backslash in front of each opening brace and each backslash. -/
def shield (text : List Char) : List Char :=
  text.flatMap fun c => if c = '{' ∨ c = '\\' then ['\\', c] else [c]

theorem quotes_shield (text : List Char) : Quotes (String.ofList (shield text)) text := by
  have hpieces : ∀ c ∈ text,
      Quotes (String.ofList (if c = '{' ∨ c = '\\' then ['\\', c] else [c])) [c] :=
    fun c _ => quotes_piece id
  have hall := quotes_flatMap hpieces
  rwa [List.flatMap_singleton'] at hall

/-- Whether a template shows any text for so many seconds. -/
def Visible (l : Localizer) (seconds : UInt64) (template : String) : Prop :=
  ∃ text, l.format seconds template = .ok text ∧ text ≠ ""

/-! ## Optional placeholders in templates -/

section Optional

variable {a : String} {code tail : List Char} {p : Placeholder} {l : Localizer} {seconds : UInt64}

/-- Where the duration holds the unit, the tail can as well stand behind the braces. -/
theorem format_optional_of_le (hmark : '?' ∉ code) (hcode : Placeholder.ofCode? code = some p)
    (htail : '}' ∉ tail) (ha : Closed a) (b : String)
    (h : ((Breakdown.mk seconds).resolve p.unit).seconds ≤ seconds) :
    l.format seconds (a ++ spanOf (code ++ '?' :: tail) ++ b)
      = l.format seconds (a ++ spanOf code ++ String.ofList (shield tail) ++ b) := by
  obtain ⟨hoptional, hnone, hbrace⟩ := Placeholder.plain_of_mark_not_mem hmark hcode
  have hbrace' := Placeholder.brace_not_mem_optional hmark hcode htail
  rw [format_between ha (closed_spanOf hbrace'),
    (quotes_shield tail).format_between (closed_append ha (closed_spanOf hbrace)),
    format_append ha, format_spanOf_of_some hbrace' (Placeholder.ofCode?_optional hmark hcode tail),
    Placeholder.render_optional_of_le hoptional hnone h, format_spanOf_of_some hbrace hcode]
  cases l.format seconds a with
  | error e => rfl
  | ok x =>
      cases p.render ⟨seconds⟩ l with
      | error e => rfl
      | ok y =>
          cases l.format seconds b with
          | error e => rfl
          | ok z =>
              show Except.ok (x ++ String.ofList (y ++ tail) ++ z)
                = Except.ok (x ++ String.ofList y ++ String.ofList tail ++ z)
              rw [String.ofList_append, ← String.append_assoc]

/-- Where the duration is shorter than the unit, the placeholder can as well be missing. -/
theorem format_optional_of_lt (hmark : '?' ∉ code) (hcode : Placeholder.ofCode? code = some p)
    (htail : '}' ∉ tail) (ha : Closed a) (b : String)
    (h : seconds < ((Breakdown.mk seconds).resolve p.unit).seconds) :
    l.format seconds (a ++ spanOf (code ++ '?' :: tail) ++ b) = l.format seconds (a ++ b) := by
  have hbrace' := Placeholder.brace_not_mem_optional hmark hcode htail
  have hempty : l.format seconds (spanOf (code ++ '?' :: tail)) = .ok "" := by
    rw [format_spanOf_eq_empty_iff hbrace' (Placeholder.ofCode?_optional hmark hcode tail),
      Placeholder.leftOut_optional_iff]
    exact h
  rw [format_between ha (closed_spanOf hbrace'), hempty, format_append ha]
  cases l.format seconds a with
  | error e => rfl
  | ok x =>
      cases l.format seconds b with
      | error e => rfl
      | ok y =>
          show Except.ok (x ++ "" ++ y) = Except.ok (x ++ y)
          rw [String.append_empty]

/-- Whether an optional placeholder is shown is a matter of the whole duration. -/
theorem visible_optional_iff (hmark : '?' ∉ code) (hcode : Placeholder.ofCode? code = some p)
    (hwidth : p.digits ≤ maxWidth) (htail : '}' ∉ tail) :
    Visible l seconds (spanOf (code ++ '?' :: tail)) ↔
      ((Breakdown.mk seconds).resolve p.unit).seconds ≤ seconds := by
  have hbrace' := Placeholder.brace_not_mem_optional hmark hcode htail
  have hcode' := Placeholder.ofCode?_optional hmark hcode tail
  obtain ⟨text, htext⟩ := exists_format_spanOf hbrace' hcode' hwidth l seconds
  have hempty := format_spanOf_eq_empty_iff hbrace' hcode' l seconds
  rw [htext, Except.ok.injEq, Placeholder.leftOut_optional_iff] at hempty
  rw [Visible, htext, ← UInt64.not_lt, ← hempty]
  simp

end Optional

/-- **Optional placeholders can be eliminated.**  Take a code without a question mark and a tail
that does not close the span.  In a duration that holds the unit, the optional placeholder is the
same as the one that is not optional, with the tail behind it, protected where need be; in a shorter
one it is the same as nothing.  So it is shown exactly if the whole duration holds its unit,
whatever count it asks for; it stays when the duration gets longer; and if its unit is fixed, it is
shown exactly if there is a duration and its unit is no longer than the greatest. -/
theorem optional_eliminated {code tail : List Char} {p : Placeholder} (hmark : '?' ∉ code)
    (hcode : Placeholder.ofCode? code = some p) (hwidth : p.digits ≤ 65535) (htail : '}' ∉ tail)
    (l : Localizer) :
    let optional := spanOf (code ++ '?' :: tail)
    (∀ (a b : String), Closed a → ∀ seconds : UInt64,
      let u := (Breakdown.mk seconds).resolve p.unit
      (u.seconds ≤ seconds → l.format seconds (a ++ optional ++ b)
        = l.format seconds (a ++ spanOf code ++ String.ofList (shield tail) ++ b)) ∧
      (seconds < u.seconds →
        l.format seconds (a ++ optional ++ b) = l.format seconds (a ++ b)) ∧
      ((∀ q ∈ (parse a).placeholders ++ (parse b).placeholders,
          q.hidden ⟨seconds⟩ = false → q.digits ≤ 65535) →
        ∃ text, l.format seconds (a ++ optional ++ b) = .ok text)) ∧
    (∀ seconds, Visible l seconds optional ↔
      ((Breakdown.mk seconds).resolve p.unit).seconds ≤ seconds) ∧
    (∀ seconds longer, seconds ≤ longer →
      Visible l seconds optional → Visible l longer optional) ∧
    ∀ u, p.unit = .fixed u → ∀ seconds, (Visible l seconds optional ↔
      0 < seconds ∧ u.seconds ≤ (Breakdown.mk seconds).greatest.seconds) := by
  intro optional
  have hvisible (seconds : UInt64) : Visible l seconds optional ↔
      ((Breakdown.mk seconds).resolve p.unit).seconds ≤ seconds :=
    visible_optional_iff hmark hcode hwidth htail
  refine ⟨fun a b ha seconds => ⟨format_optional_of_le hmark hcode htail ha b,
    format_optional_of_lt hmark hcode htail ha b, fun hothers => ?_⟩, hvisible, ?_, ?_⟩
  · have hbrace' := Placeholder.brace_not_mem_optional hmark hcode htail
    obtain ⟨x, y, hx, hy, -⟩ := (composes ha b).format_ok l seconds hothers
    obtain ⟨text, htext⟩ := exists_format_spanOf hbrace'
      (Placeholder.ofCode?_optional hmark hcode tail) hwidth l seconds
    exact ⟨x ++ text ++ y, by rw [format_between ha (closed_spanOf hbrace'), hx, htext, hy]; rfl⟩
  · intro seconds longer hle h
    rw [hvisible] at h ⊢
    exact @Breakdown.resolve_le_of_le ⟨seconds⟩ ⟨longer⟩ _ hle h
  · intro u hu seconds
    rw [hvisible, hu, UInt64.pos_iff_ne_zero]
    exact Breakdown.le_total_iff (b := ⟨seconds⟩)

/-- Hours within the day, with a tail that would open a span and escape its end if it stood outside:
they are shown in one whole day, of which no hour is left, and not in a second less than an hour. -/
theorem optional_eliminated_hours :
    let l : Localizer := ⟨fun _ => "h", fun _ _ => " hours"⟩
    let code := ['h', 'h']
    let tail := ['{', '?', '\\']
    let p : Placeholder := ⟨.fixed .hour, false, 2, .bare, false, []⟩
    '?' ∉ code ∧ Placeholder.ofCode? code = some p ∧ p.digits ≤ 65535 ∧ '}' ∉ tail ∧
      Closed (spanOf ['D']) ∧
      l.format 86400 (spanOf ['D'] ++ spanOf (code ++ '?' :: tail) ++ "!")
        = l.format 86400 (spanOf ['D'] ++ spanOf code
            ++ String.ofList ['\\', '{', '?', '\\', '\\'] ++ "!") ∧
      l.format 3599 (spanOf ['D'] ++ spanOf (code ++ '?' :: tail) ++ "!")
        = l.format 3599 (spanOf ['D'] ++ "!") ∧
      Visible l 90000 (spanOf (code ++ '?' :: tail)) := by
  intro l code tail p
  have hmark : '?' ∉ code := by decide
  have hcode : Placeholder.ofCode? code = some p := by decide +kernel
  have hwidth : p.digits ≤ 65535 := by decide
  have htail : '}' ∉ tail := by decide
  have hclosed : Closed (spanOf ['D']) := closed_spanOf (by decide)
  obtain ⟨htemplates, hvisible, hstays, -⟩ := optional_eliminated hmark hcode hwidth htail l
  have hday := htemplates (spanOf ['D']) "!" hclosed 86400
  have hless := htemplates (spanOf ['D']) "!" hclosed 3599
  exact ⟨hmark, hcode, hwidth, htail, hclosed, hday.1 (by decide), hless.2.1 (by decide),
    hstays 86400 90000 (by decide) ((hvisible 86400).2 (by decide))⟩

end Template

end Elapsed
