import Elapsed.Proofs.GreatestUnit
import Elapsed.Proofs.Template.Composition
import Elapsed.Proofs.Template.Printing
import Elapsed.Proofs.Template.Text

/-!
# Placeholders for the greatest unit

A placeholder can leave the choice of the unit to the duration.  It then says what a placeholder for
the chosen unit says, and it does not matter which of the two counts it asks for.

*Placeholders.*  `Placeholder.render_of_resolve`: all that is asked of a selector is the unit it
stands for, and both counts of the greatest unit are the same.

*Codes.*  `Placeholder.Spelling.Denotes.respell`: in a code the letters can be those of any
selector, and the word its word.  So every code for the greatest unit can be written for the unit
itself, in lower case or in upper case (`Placeholder.StandsFor`).

*Nothing.*  `Template.format_spanOf_eq_empty_iff`: a placeholder in braces shows nothing exactly if
it is left out, and the greatest unit is left out only where there is nothing to show.
-/

namespace Elapsed

namespace Placeholder

/-! ## Rendering -/

section Rendering

variable {p : Placeholder} {b : Breakdown} {s : Selector}

/-- A placeholder for the greatest unit can ask for it by any selector that stands for it, and for
either count. -/
theorem render_of_resolve (hunit : b.resolve p.unit = b.greatest) (hs : b.resolve s = b.greatest)
    (cumulative : Bool) (l : Localizer) :
    { p with unit := s, cumulative }.render b l = p.render b l := by
  have hhidden : { p with unit := s, cumulative }.hidden b = p.hidden b := by
    rw [hidden, hidden, hs, hunit]
  have hvalue : { p with unit := s, cumulative }.value b = p.value b := by
    rw [value, value, hs, hunit, Breakdown.count_greatest, Breakdown.count_greatest]
  rw [render, render, hhidden, hvalue, hs, hunit]

theorem leftOut_greatest_iff (hunit : b.resolve p.unit = b.greatest) :
    p.LeftOut b ↔ p.optional = true ∧ b.total = 0 := by
  rw [LeftOut, hunit, ← Breakdown.cumulative_eq_zero_iff,
    Breakdown.cumulative_greatest_eq_zero_iff]

end Rendering

/-! ## Codes -/

/-- The letters of a code can be those of another selector, and its body can spell the same suffix
for that selector. -/
theorem Spelling.Denotes.respell {a : Spelling} {p : Placeholder} (h : a.Denotes p)
    {s : Selector} {letter : Char} {body : List Char}
    (hletter : letter = s.letter ∨ letter = s.letter.toUpper) (hbody : p.suffix.Spelled s body) :
    { a with letter, body }.Denotes { p with unit := s, cumulative := letter.isUpper } where
  letter := hletter
  cumulative := isUpper_iff ((toLower_eq_iff s.letter_not_isUpper).2 hletter)
  pos := h.pos
  digits := h.digits
  body := hbody
  tail := h.tail

/-- Whether a code can stand for another one in a duration: in braces it says the same in every
language, alone and at every place of a template. -/
structure StandsFor (seconds : UInt64) (code code' : List Char) : Prop where
  alone : ∀ l : Localizer,
    l.format seconds (Template.spanOf code') = l.format seconds (Template.spanOf code)
  between : ∀ (l : Localizer) (front back : String), Template.Closed front →
    l.format seconds (front ++ Template.spanOf code' ++ back)
      = l.format seconds (front ++ Template.spanOf code ++ back)

/-- Codes of placeholders that are rendered alike can stand for each other. -/
theorem standsFor_of_render_eq {seconds : UInt64} {code code' : List Char} {p p' : Placeholder}
    (hbrace : '}' ∉ code) (hbrace' : '}' ∉ code') (hcode : ofCode? code = some p)
    (hcode' : ofCode? code' = some p')
    (hrender : ∀ l, p'.render ⟨seconds⟩ l = p.render ⟨seconds⟩ l) :
    StandsFor seconds code code' := by
  have halone (l : Localizer) :
      l.format seconds (Template.spanOf code') = l.format seconds (Template.spanOf code) := by
    rw [Template.format_spanOf_of_some hbrace' hcode', Template.format_spanOf_of_some hbrace hcode,
      hrender]
  refine ⟨halone, fun l front back hfront => ?_⟩
  rw [Template.format_between hfront (Template.closed_spanOf hbrace'),
    Template.format_between hfront (Template.closed_spanOf hbrace), halone]

end Placeholder

namespace Template

variable {code : List Char} {p : Placeholder}

/-- A placeholder in braces shows nothing exactly if it is left out. -/
theorem format_spanOf_eq_empty_iff (hbrace : '}' ∉ code)
    (hcode : Placeholder.ofCode? code = some p) (l : Localizer) (seconds : UInt64) :
    l.format seconds (spanOf code) = .ok "" ↔ p.LeftOut ⟨seconds⟩ := by
  rw [format_spanOf_of_some hbrace hcode, ← Placeholder.render_eq_nil_iff (l := l)]
  cases p.render ⟨seconds⟩ l with
  | error e => simp [Except.map]
  | ok text =>
      rw [Except.map, Except.ok.injEq, Except.ok.injEq]
      exact String.ofList_eq_empty_iff

theorem exists_format_spanOf (hbrace : '}' ∉ code) (hcode : Placeholder.ofCode? code = some p)
    (hwidth : p.digits ≤ maxWidth) (l : Localizer) (seconds : UInt64) :
    ∃ text, l.format seconds (spanOf code) = .ok text := by
  obtain ⟨text, htext⟩ :=
    Placeholder.exists_render_eq_ok (b := ⟨seconds⟩) (l := l) fun _ => hwidth
  exact ⟨String.ofList text, by rw [format_spanOf_of_some hbrace hcode, htext]; rfl⟩

/-- **The greatest unit can be asked for by its own name.**  It is the only unit that the duration
holds without holding the next longer one, it never gets shorter as the duration gets longer, and
its two counts are the same.  So a code for the greatest unit shows a text, unless it is too wide,
and the same text if it has as many letters of that unit instead, in either case, and a word of that
unit for a word; or letters for the greatest unit again, in the other case.  Where it is optional,
it shows nothing exactly if the duration is nothing. -/
theorem greatest_interchangeable (seconds : UInt64) :
    let b : Breakdown := ⟨seconds⟩
    let u := b.greatest
    (∀ v, v.IsGreatestOf seconds ↔ v = u) ∧
    (∀ longer : UInt64, seconds ≤ longer → u.seconds ≤ (Breakdown.mk longer).greatest.seconds) ∧
    b.remainder u = b.cumulative u ∧
    ∀ code p, '}' ∉ code → Placeholder.ofCode? code = some p → p.unit = .greatest →
      (p.digits ≤ 65535 →
        ∀ l : Localizer, ∃ text, l.format seconds (spanOf code) = .ok text) ∧
      (p.optional = true →
        ∀ l : Localizer, (l.format seconds (spanOf code) = .ok "" ↔ seconds = 0)) ∧
      (∃ a : Placeholder.Spelling, a.text = code ∧ a.Denotes p) ∧
      ∀ a : Placeholder.Spelling, a.text = code → a.Denotes p →
        ∀ (s : Selector) (letter : Char) (body : List Char),
          s = .fixed u ∨ s = .greatest →
          letter = s.letter ∨ letter = s.letter.toUpper →
          p.suffix.Spelled s body →
            '}' ∉ { a with letter, body }.text ∧
            Placeholder.ofCode? { a with letter, body }.text
              = some { p with unit := s, cumulative := letter.isUpper } ∧
            Placeholder.StandsFor seconds code { a with letter, body }.text := by
  intro b u
  refine ⟨fun v => Breakdown.isGreatestOf_iff (b := b), fun longer => Breakdown.greatest_mono,
    b.remainder_greatest, fun code p hbrace hcode hunit => ?_⟩
  have hresolve : b.resolve p.unit = b.greatest := by rw [hunit]; rfl
  refine ⟨fun hwidth l => exists_format_spanOf hbrace hcode hwidth l seconds,
    fun hoptional l => ?_, Placeholder.ofCode?_eq_some_iff.1 hcode, ?_⟩
  · rw [format_spanOf_eq_empty_iff hbrace hcode, Placeholder.leftOut_greatest_iff hresolve]
    exact and_iff_right hoptional
  · intro a htext ha s letter body hs hletter hbody
    have hdenotes := ha.respell hletter hbody
    have htail : '}' ∉ p.tail :=
      (Placeholder.expressible_of_ofCode? hbrace hcode).2.1
    have hbrace' := hdenotes.brace_not_mem htail
    have hcode' := Placeholder.ofCode?_eq_some_iff.2 ⟨_, rfl, hdenotes⟩
    have hs' : b.resolve s = b.greatest := by
      rcases hs with rfl | rfl
      · rfl
      · rfl
    exact ⟨hbrace', hcode', Placeholder.standsFor_of_render_eq hbrace hbrace' hcode hcode'
      (Placeholder.render_of_resolve hresolve hs' _)⟩

/-- Two digits and the word of the greatest unit in ninety minutes: hours, in lower case, though the
other code asks for the cumulative count. -/
theorem greatest_interchangeable_hours :
    let code := ['G', 'G', 'r', 'e', 'a', 't', 'e', 's', 't', 'S', '?', '!']
    let p : Placeholder := ⟨.greatest, true, 2, .word, true, ['!']⟩
    '}' ∉ code ∧ Placeholder.ofCode? code = some p ∧ p.unit = .greatest ∧
      (∀ l : Localizer, ∃ text, l.format 5400 (spanOf code) = .ok text) ∧
      TimeUnit.hour.IsGreatestOf 5400 ∧
      Placeholder.StandsFor 5400 code ['h', 'h', 'O', 'U', 'R', '?', '!'] := by
  intro code p
  have hbrace : '}' ∉ code := by decide
  have hcode : Placeholder.ofCode? code = some p := by decide +kernel
  obtain ⟨hgreatest, -, -, hcodes⟩ := greatest_interchangeable 5400
  obtain ⟨htext, -, -, hrespell⟩ := hcodes code p hbrace hcode rfl
  have hbody : Suffix.Spelled .greatest .word (['r', 'e', 'a', 't', 'e', 's', 't'] ++ ['S']) :=
    .plural (by decide) (.inr rfl)
  have hdenotes : Placeholder.Spelling.Denotes
      ⟨'G', 2, ['r', 'e', 'a', 't', 'e', 's', 't', 'S'], ['?', '!']⟩ p :=
    { letter := .inr (by decide)
      cumulative := by decide
      pos := by decide
      digits := rfl
      body := hbody
      tail := .inr ⟨rfl, rfl⟩ }
  have hword : Suffix.Spelled (.fixed .hour) .word ['O', 'U', 'R'] := .singular (by decide)
  exact ⟨hbrace, hcode, rfl, htext (by decide), (hgreatest .hour).2 (by decide),
    (hrespell _ rfl hdenotes (.fixed .hour) 'h' _ (.inl rfl) (.inl rfl) hword).2.2⟩

end Template

end Elapsed
