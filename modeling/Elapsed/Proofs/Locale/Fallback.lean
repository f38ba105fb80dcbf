import Elapsed.Proofs.Locale.Sharing
import Elapsed.Proofs.Template.Rendering

/-!
# Strict and lenient formatting

There are two ways to show a duration in the shared locale.  The strict one wants the selected
identifier to be registered; the lenient one falls back on the baseline.

*One registry.*  With a table for the selected identifier both ways format with this table
(`Registry.serve_format_of_some`); without one, the strict way gives up before it looks at the
template, and the lenient way warns and formats with the table of the baseline
(`Registry.serve_format_of_none`).  Neither changes anything.

*Whatever was asked before.*  The table of the baseline is the last one registered under its
identifier, or else the built-in one (`Registry.get?_baseline_after`).

So the two ways agree wherever the strict one succeeds, and where it fails the lenient one does what
it is documented to do (`Shared.format_agrees`).
-/

namespace Elapsed.Locale

/-! ## One registry -/

namespace Registry

variable {r : Registry} {t : Table}

/-- With a table for the selected identifier, both ways format with it. -/
theorem serve_format_of_some (h : r.get? r.current = some t) (seconds : UInt64)
    (template : String) :
    let response : Response Registry :=
      ⟨.text (.ok (t.localizer.format seconds template)), Template.diagnostics template, r⟩
    r.serve (.formatStrict seconds template) = response ∧
      r.serve (.format seconds template) = response := by
  intro response
  constructor
  · rw [serve, selected_of_some h]
  · rw [serve, effective, selected_of_some h]
    rfl

/-- Without one, the strict way fails at once, and the lenient way takes the baseline. -/
theorem serve_format_of_none (h : r.get? r.current = none) (seconds : UInt64)
    (template : String) :
    r.serve (.formatStrict seconds template)
        = ⟨.text (.error (.unknownLocale r.current)), [], r⟩ ∧
      r.serve (.format seconds template)
        = ⟨.text (.ok (r.baseline.localizer.format seconds template)),
            .baselineUsed (Error.unknownLocale r.current).message baselineId
              :: Template.diagnostics template, r⟩ := by
  constructor
  · rw [serve, selected_of_none h]
  · rw [serve, effective, selected_of_none h]
    rfl

/-- The table of the baseline is the last one registered in its place. -/
theorem get?_baseline_after (requests : List Request) :
    (Registry.serve.after .initial requests).get? baselineId
      = some ((latest ((requests.filterMap Request.operation?).flatMap Operation.tables)
          baselineId).getD Builtin.enUS) := by
  rw [after_eq_run, get?_run, get?_initial]
  exact Option.or_some

end Registry

/-! ## The shared locale -/

namespace Shared

/-- Whether both ways to show a duration show it in the language of a table: the text is the same,
and nothing is reported but what there is to report of the template. -/
def ShowsIn (s : Shared) (t : Table) (seconds : UInt64) (template : String) : Prop :=
  ∃ text, t.localizer.format seconds template = .ok text ∧
    s.serve (.formatStrict seconds template)
      = ⟨.text (.ok (.ok text)), Template.diagnostics template, s⟩ ∧
    s.serve (.format seconds template)
      = ⟨.text (.ok (.ok text)), Template.diagnostics template, s⟩

/-- Whether the strict way fails for want of the selected locale, without a look at the template,
while the lenient way shows the duration in the language of a table, and warns of it before anything
is reported of the template. -/
def FallsBackOn (s : Shared) (t : Table) (seconds : UInt64) (template : String) : Prop :=
  s.serve (.formatStrict seconds template)
      = ⟨.text (.error (.unknownLocale s.current)), [], s⟩ ∧
    ∃ text warning, t.localizer.format seconds template = .ok text ∧
      warning = .baselineUsed ("unknown locale '" ++ s.current ++ "'") "en_US" ∧
      warning.level = .warn ∧ warning.message = "using baseline locale" ∧
      s.serve (.format seconds template)
        = ⟨.text (.ok (.ok text)), warning :: Template.diagnostics template, s⟩

variable {s : Shared} {t : Table} {seconds : UInt64} {template text : String}

theorem showsIn_of_some (h : s.registry.get? s.current = some t)
    (htext : t.localizer.format seconds template = .ok text) : s.ShowsIn t seconds template := by
  obtain ⟨hstrict, hlenient⟩ := Registry.serve_format_of_some h seconds template
  refine ⟨text, htext, ?_, ?_⟩
  · rw [serve_of_not_select s rfl, hstrict, htext]
  · rw [serve_of_not_select s rfl, hlenient, htext]

theorem fallsBackOn_of_none (h : s.registry.get? s.current = none)
    (ht : s.registry.get? baselineId = some t)
    (htext : t.localizer.format seconds template = .ok text) :
    s.FallsBackOn t seconds template := by
  obtain ⟨hstrict, hlenient⟩ := Registry.serve_format_of_none h seconds template
  have hbaseline : s.registry.baseline = t := Option.some.inj ht
  refine ⟨?_, text, _, htext, rfl, rfl, rfl, ?_⟩
  · rw [serve_of_not_select s rfl, hstrict]
    rfl
  · rw [serve_of_not_select s rfl, hlenient, hbaseline, htext]
    rfl

/-- **Strict and lenient formatting agree.**  Whatever was asked of the shared locale before, if no
number that is shown is too wide: with a table for the selected identifier both ways show the
duration in its language; without one the strict way fails and the lenient way falls back on the
last table registered for the baseline, or on the built-in one.  Either way the shared locale stays
as it is. -/
theorem format_agrees (requests : List Request) (seconds : UInt64) (template : String)
    (hwidth : ∀ p ∈ (Template.parse template).placeholders,
      p.hidden ⟨seconds⟩ = false → p.digits ≤ maxWidth) :
    let s := Shared.serve.after .initial requests
    let baseline := (latest ((requests.filterMap Request.operation?).flatMap Operation.tables)
      baselineId).getD Builtin.enUS
    (∀ t, s.registry.get? s.current = some t → s.ShowsIn t seconds template) ∧
    (s.registry.get? s.current = none → s.registry.get? baselineId = some baseline ∧
      s.FallsBackOn baseline seconds template) := by
  intro s baseline
  have hbaseline : s.registry.get? baselineId = some baseline := by
    rw [registry_after]
    exact Registry.get?_baseline_after requests
  refine ⟨fun t ht => ?_, fun hnone => ⟨hbaseline, ?_⟩⟩
  · obtain ⟨text, htext⟩ := Localizer.exists_format_eq_ok (l := t.localizer) hwidth
    exact showsIn_of_some ht htext
  · obtain ⟨text, htext⟩ := Localizer.exists_format_eq_ok (l := baseline.localizer) hwidth
    exact fallsBackOn_of_none hnone hbaseline htext

/-- French in the place of the baseline: what is shown while an unknown locale is selected, and what
is shown when the baseline itself is.  The second placeholder is faulty. -/
theorem format_agrees_replaced_baseline :
    let template := String.ofList ['{', 'H', 'H', 'o', 'u', 'r', 's', '}', '{', 'x', '}']
    let french := { Builtin.frFR with id := "en_US" }
    let requests : List Request := [.select "tlh", .register french, .snapshot]
    let lost := Shared.serve.after .initial requests
    let found := Shared.serve.after .initial (requests ++ [.select "en_US"])
    (lost.registry.get? lost.current = none ∧ lost.FallsBackOn french 7200 template) ∧
      found.registry.get? found.current = some french ∧ found.ShowsIn french 7200 template := by
  intro template french requests lost found
  have hwidth : ∀ p ∈ (Template.parse template).placeholders,
      p.hidden ⟨7200⟩ = false → p.digits ≤ maxWidth := by
    decide +kernel
  have hlost : lost.registry.get? lost.current = none := by decide +kernel
  have hfound : found.registry.get? found.current = some french := by rfl
  exact ⟨⟨hlost, ((format_agrees requests 7200 template hwidth).2 hlost).2⟩, hfound,
    (format_agrees (requests ++ [.select "en_US"]) 7200 template hwidth).1 french hfound⟩

end Shared

end Elapsed.Locale
