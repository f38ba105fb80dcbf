import Elapsed.Proofs.Template.Grammar
import Elapsed.Proofs.Template.Text

/-!
# The time of day repeats every day

A template that asks only for what is left of a day can be shown any number of days later.  The
remainders forget the days, and so does the word that fits them.  One thing does not: an optional
placeholder is left out by the whole duration.

*Placeholders.*  `Placeholder.WithinDay`: the letter is a lower-case `s`, `m` or `h`
(`Placeholder.withinDay_of_ofCode?`).  The number that is shown is the same a day later
(`Placeholder.WithinDay.value_eq`), so the text is, exactly if the placeholder is left out in both
durations or in neither (`Placeholder.WithinDay.render_eq_iff`).  In an hour or more none is left
out (`Placeholder.WithinDay.not_leftOut`).

*Templates.*  Where all placeholders show the same, so does the template
(`Template.repeats_every_day`).
-/

namespace Elapsed

namespace TimeUnit

/-- The units that a day leaves a remainder of: the parts of a day that are no day. -/
def withinDay : List TimeUnit :=
  [second, minute, hour]

variable {u : TimeUnit}

/-- What a day leaves of a unit does not depend on the days. -/
theorem countIn_congr (hu : u ∈ withinDay) {m n : Nat} (h : m % 86400 = n % 86400) :
    u.countIn false m = u.countIn false n := by
  have hminute : TimeUnit.minute.seconds.toNat = 60 := rfl
  have hhour : TimeUnit.hour.seconds.toNat = 3600 := rfl
  simp only [withinDay, List.mem_cons, List.not_mem_nil, or_false] at hu
  rcases hu with rfl | rfl | rfl
  · show m / 1 % 60 = n / 1 % 60
    omega
  · show m / TimeUnit.minute.seconds.toNat % 60 = n / TimeUnit.minute.seconds.toNat % 60
    rw [hminute]
    omega
  · show m / TimeUnit.hour.seconds.toNat % 24 = n / TimeUnit.hour.seconds.toNat % 24
    rw [hhour]
    omega

theorem le_hour (hu : u ∈ withinDay) : u.seconds ≤ 3600 := by
  have hall : ∀ u ∈ withinDay, u.seconds ≤ 3600 := by decide
  exact hall u hu

end TimeUnit

namespace Placeholder

/-! ## Placeholders -/

/-- Whether a placeholder asks for what a day leaves of a unit. -/
structure WithinDay (p : Placeholder) : Prop where
  exists_unit : ∃ u ∈ TimeUnit.withinDay, p.unit = .fixed u
  cumulative_eq : p.cumulative = false

/-- Such are the placeholders whose code starts with one of three lower-case letters. -/
theorem withinDay_of_ofCode? {code : List Char} {p : Placeholder} {c : Char}
    (h : ofCode? code = some p) (hhead : code.head? = some c) (hc : c ∈ ['s', 'm', 'h']) :
    p.WithinDay := by
  obtain ⟨a, rfl, ha⟩ := ofCode?_eq_some_iff.1 h
  have hletter : a.letter = c := by
    have hpos : a.count ≠ 0 := Nat.ne_of_gt ha.pos
    simpa [Spelling.text, List.head?_append, List.head?_replicate, hpos] using hhead
  have hunit := ha.letter
  have hupper := ha.cumulative
  rw [hletter] at hunit hupper
  -- the letter is that of one unit only, and not an upper-case one
  have hall : ∀ c ∈ ['s', 'm', 'h'], ∀ s : Selector, c = s.letter ∨ c = s.letter.toUpper →
      (∃ u ∈ TimeUnit.withinDay, s = .fixed u) ∧ c ≠ s.letter.toUpper := by
    intro c hc s hs
    simp only [List.mem_cons, List.not_mem_nil, or_false] at hc
    rcases s with u | _
    · cases u <;> rcases hc with rfl | rfl | rfl <;> revert hs <;> decide
    · rcases hc with rfl | rfl | rfl <;> revert hs <;> decide
  obtain ⟨hexists, hne⟩ := hall c hc p.unit hunit
  exact ⟨hexists, by simpa [hne] using hupper⟩

section

variable {p : Placeholder} {s t : UInt64}

theorem WithinDay.resolve_eq (h : p.WithinDay) (b b' : Breakdown) :
    b.resolve p.unit = b'.resolve p.unit := by
  obtain ⟨u, -, hu⟩ := h.exists_unit
  rw [hu]
  rfl

theorem WithinDay.resolve_mem (h : p.WithinDay) (b : Breakdown) :
    b.resolve p.unit ∈ TimeUnit.withinDay := by
  obtain ⟨u, hmem, hu⟩ := h.exists_unit
  rw [hu]
  exact hmem

/-- The number that is shown does not depend on the days. -/
theorem WithinDay.value_eq (h : p.WithinDay) (hmod : s % 86400 = t % 86400) :
    p.value ⟨s⟩ = p.value ⟨t⟩ := by
  have hmod' : s.toNat % 86400 = t.toNat % 86400 := by
    simpa using congrArg UInt64.toNat hmod
  rw [← UInt64.toNat_inj, toNat_value, toNat_value, h.cumulative_eq, h.resolve_eq ⟨s⟩ ⟨t⟩]
  exact TimeUnit.countIn_congr (h.resolve_mem ⟨t⟩) hmod'

/-- A placeholder shows the same some days later exactly if it is left out in both durations or in
neither. -/
theorem WithinDay.render_eq_iff (h : p.WithinDay) (hmod : s % 86400 = t % 86400) (l : Localizer) :
    p.render ⟨s⟩ l = p.render ⟨t⟩ l ↔ (p.LeftOut ⟨s⟩ ↔ p.LeftOut ⟨t⟩) := by
  constructor
  · intro heq
    rw [← render_eq_nil_iff (l := l), ← render_eq_nil_iff (l := l), heq]
  · intro hleft
    have hhidden : p.hidden ⟨s⟩ = p.hidden ⟨t⟩ := by
      rw [Bool.eq_iff_iff, hidden_iff, hidden_iff, hleft]
    rw [render, render, hhidden, h.value_eq hmod, h.resolve_eq ⟨s⟩ ⟨t⟩]

/-- In an hour or more there is one of each unit at least. -/
theorem WithinDay.not_leftOut (h : p.WithinDay) (hs : 3600 ≤ s) : ¬ p.LeftOut ⟨s⟩ := by
  rintro ⟨-, hlt⟩
  have hle := UInt64.le_trans (TimeUnit.le_hour (h.resolve_mem ⟨s⟩)) hs
  exact absurd (UInt64.lt_iff_toNat_lt.2 hlt) (UInt64.not_lt.2 hle)

/-- An optional placeholder that is left out is shown a day later. -/
theorem WithinDay.shown_next_day (h : p.WithinDay) (hleft : p.LeftOut ⟨s⟩) :
    ¬ p.LeftOut ⟨s + 86400⟩ := by
  have hlt : s.toNat < (Breakdown.resolve ⟨s⟩ p.unit).seconds.toNat := hleft.2
  have hle := UInt64.le_iff_toNat_le.1 (TimeUnit.le_hour (h.resolve_mem ⟨s⟩))
  refine h.not_leftOut ?_
  simp only [UInt64.le_iff_toNat_le, UInt64.toNat_add, UInt64.reduceToNat] at hle ⊢
  omega

end

end Placeholder

/-! ## Templates -/

namespace Template

/-- Whether every placeholder of a template starts with a lower-case `s`, `m` or `h`. -/
def IsTimeOfDay (template : String) : Prop :=
  ∀ code p, .span code ∈ Segment.split template.toList → Placeholder.ofCode? code = some p →
    ∃ c ∈ ['s', 'm', 'h'], code.head? = some c

/-- The placeholders of a template come from its spans. -/
theorem exists_span_of_mem {template : String} {p : Placeholder}
    (h : p ∈ (parse template).placeholders) :
    ∃ code, .span code ∈ Segment.split template.toList ∧ Placeholder.ofCode? code = some p := by
  obtain ⟨segment, hmem, hnode⟩ := List.mem_filterMap.1 (mem_placeholders_iff.1 h)
  cases segment with
  | span code =>
      refine ⟨code, hmem, ?_⟩
      rw [Segment.node?] at hnode
      cases hcode : Placeholder.ofCode? code with
      | none => simp [hcode] at hnode
      | some q => simpa [hcode] using hnode
  | run text => cases hnode
  | escape c => cases hnode
  | loneBackslash => cases hnode
  | openSpan code => cases hnode

theorem IsTimeOfDay.withinDay {template : String} (h : IsTimeOfDay template) {p : Placeholder}
    (hp : p ∈ (parse template).placeholders) : p.WithinDay := by
  obtain ⟨code, hspan, hcode⟩ := exists_span_of_mem hp
  obtain ⟨c, hc, hhead⟩ := h code p hspan hcode
  exact Placeholder.withinDay_of_ofCode? hcode hhead hc

/-- Where all placeholders show the same, so does the template. -/
theorem format_eq_of_render {template : String} {l : Localizer} {s t : UInt64}
    (h : ∀ p ∈ (parse template).placeholders, p.render ⟨s⟩ l = p.render ⟨t⟩ l) :
    l.format s template = l.format t template := by
  have hnodes : ∀ n ∈ (parse template).nodes, n.render ⟨s⟩ l = n.render ⟨t⟩ l := by
    intro n hn
    cases n with
    | literal text => rfl
    | placeholder p => exact h p (mem_placeholders_iff.2 hn)
    | invalid => rfl
  rw [Localizer.format, Localizer.format, render, render, Node.renderAll_eq_concatM,
    Node.renderAll_eq_concatM, concatM_congr hnodes]

/-- **The time of day repeats every day.**  Take a template whose placeholders all start with a
lower-case `s`, `m` or `h`, whatever else is in it, and two durations that differ by whole days.  It
shows the same for both in any language, if both are an hour or more, or if no placeholder is
optional; and it does show something, if no placeholder asks for more than 65535 digits.  Below an
hour the optional placeholders are all that can differ: each one shows the same for both durations
exactly if it is left out in both or in neither.  One that is left out is shown a day later. -/
theorem repeats_every_day (template : String) (h : IsTimeOfDay template) (l : Localizer) :
    (∀ s t : UInt64, s % 86400 = t % 86400 →
      ((3600 ≤ s ∧ 3600 ≤ t) ∨ ∀ p ∈ (parse template).placeholders, p.optional = false) →
      l.format s template = l.format t template ∧
        ((∀ p ∈ (parse template).placeholders, p.digits ≤ 65535) →
          ∃ text, l.format s template = .ok text ∧ l.format t template = .ok text)) ∧
    ∀ p ∈ (parse template).placeholders,
      (∀ s t : UInt64, s % 86400 = t % 86400 →
        (p.render ⟨s⟩ l = p.render ⟨t⟩ l ↔ (p.LeftOut ⟨s⟩ ↔ p.LeftOut ⟨t⟩))) ∧
      ∀ s : UInt64, p.optional = true → s < (Breakdown.resolve ⟨s⟩ p.unit).seconds →
        s < 3600 ∧ p.render ⟨s⟩ l = .ok [] ∧ p.render ⟨s + 86400⟩ l ≠ .ok [] := by
  refine ⟨fun s t hmod hshown => ?_, fun p hp => ⟨fun s t hmod => ?_, fun s hoptional hlt => ?_⟩⟩
  · have hleft : ∀ p ∈ (parse template).placeholders, p.LeftOut ⟨s⟩ ↔ p.LeftOut ⟨t⟩ := by
      intro p hp
      rcases hshown with ⟨hs, ht⟩ | hoptional
      · exact iff_of_false ((h.withinDay hp).not_leftOut hs) ((h.withinDay hp).not_leftOut ht)
      · have hnever (b : Breakdown) : ¬ p.LeftOut b := by
          rintro ⟨htrue, -⟩
          exact absurd ((hoptional p hp).symm.trans htrue) (by decide)
        exact iff_of_false (hnever _) (hnever _)
    have hsame : l.format s template = l.format t template :=
      format_eq_of_render fun p hp => ((h.withinDay hp).render_eq_iff hmod l).2 (hleft p hp)
    refine ⟨hsame, fun hwidth => ?_⟩
    obtain ⟨text, htext⟩ : ∃ text, l.format s template = .ok text :=
      Localizer.exists_format_eq_ok fun p hp _ => hwidth p hp
    exact ⟨text, htext, hsame ▸ htext⟩
  · exact (h.withinDay hp).render_eq_iff hmod l
  · have hleft : p.LeftOut ⟨s⟩ := ⟨hoptional, UInt64.lt_iff_toNat_lt.1 hlt⟩
    refine ⟨?_, Placeholder.render_of_leftOut hleft l, fun hnil => ?_⟩
    · exact UInt64.lt_of_lt_of_le hlt (TimeUnit.le_hour ((h.withinDay hp).resolve_mem ⟨s⟩))
    · exact (h.withinDay hp).shown_next_day hleft (Placeholder.render_eq_nil_iff.1 hnil)

/-- The longest duration there is and what a day leaves of it; and less than a minute, where the
minutes are left out, and a day more, where they are none. -/
theorem repeats_every_day_longest :
    let template := String.ofList ['{', 'h', 'h', '}', '{', 'm', 'i', 'n', 's', '}', '{', 'm',
      'i', 'n', 'u', 't', 'e', 's', '?', '!', '}', '{', 'D']
    let p : Placeholder := ⟨.fixed .minute, false, 1, .word, true, ['!']⟩
    IsTimeOfDay template ∧ p ∈ (parse template).placeholders ∧
      (18446744073709551615 : UInt64) % 86400 = 25215 % 86400 ∧
      ∀ l : Localizer,
        (∃ text, l.format 18446744073709551615 template = .ok text ∧
          l.format 25215 template = .ok text) ∧
        p.render ⟨59⟩ l = .ok [] ∧ p.render ⟨86459⟩ l ≠ .ok [] := by
  intro template p
  have hsplit : Segment.split template.toList = [.span ['h', 'h'], .span ['m', 'i', 'n', 's'],
      .span ['m', 'i', 'n', 'u', 't', 'e', 's', '?', '!'], .openSpan ['D']] := by
    decide +kernel
  have htime : IsTimeOfDay template := by
    intro code p hspan _
    rw [hsplit] at hspan
    simp only [List.mem_cons, Segment.span.injEq, List.not_mem_nil, or_false, reduceCtorEq] at hspan
    rcases hspan with rfl | rfl | rfl
    · exact ⟨'h', by decide, rfl⟩
    · exact ⟨'m', by decide, rfl⟩
    · exact ⟨'m', by decide, rfl⟩
  have hplaceholders : (parse template).placeholders
      = [⟨.fixed .hour, false, 2, .bare, false, []⟩, p] := by
    decide +kernel
  have hp : p ∈ (parse template).placeholders := by
    rw [hplaceholders]
    exact List.mem_cons_of_mem _ List.mem_cons_self
  refine ⟨htime, hp, by decide, fun l => ?_⟩
  obtain ⟨hrepeats, hoptional⟩ := repeats_every_day template htime l
  obtain ⟨-, hhidden, hshown⟩ := (hoptional p hp).2 59 rfl (by decide)
  obtain ⟨-, hwritten⟩ :=
    hrepeats 18446744073709551615 25215 (by decide) (.inl ⟨by decide, by decide⟩)
  refine ⟨hwritten ?_, hhidden, hshown⟩
  rw [hplaceholders]
  decide

end Template

end Elapsed
