import Elapsed.Proofs.Locale.Completeness
import Elapsed.Proofs.Locale.Loading
import Elapsed.Proofs.Template.Composition

/-!
# What a document says is what is shown

A text written into a locale file goes a long way before anyone sees it: it is filed under the unit
its name denotes, checked, registered, selected, picked by a number and put behind that number.  On
this way nothing is swapped, dropped or made up.

*The definition.*  `Definition.Says` is what a definition has for a unit: the texts under the only
name that denotes it.  `Definition.suffix?` is what it puts behind a number, by its own plural rule
or that of its identifier.  `Definition.says_of_toTable` and `Definition.text_localizer`: the table
of a definition has these texts and puts just this behind a number.

*The registry.*  `Registry.get?_run_of_kept`: an identifier keeps its table as long as none is
registered under it.

So a placeholder shows what the definition says (`Registry.shows_what_is_defined`).
-/

namespace Elapsed.Locale

/-! ## The definition -/

namespace Definition

/-- Whether a definition has given texts for a unit: they stand under a name of the unit, and no
other name in the definition denotes it. -/
def Says (d : Definition) (u : TimeUnit) (f : Forms) : Prop :=
  ∃ name, TimeUnit.ofName? name = some u ∧ d.units.get? name = some f ∧
    ∀ other ∈ d.units.keys, TimeUnit.ofName? other = some u → other = name

/-- What a definition with these texts puts behind a number, as a suffix asks for it: nothing, the
abbreviation, or the separator and the word that the plural rule picks. -/
def suffix? (d : Definition) (id : String) (f : Forms) (value : UInt64) : Suffix → Option String
  | .bare => some ""
  | .abbreviation => some f.abbreviation
  | .word =>
    (f.words[(d.plural.getD (PluralRule.ofLocale id)).pick value.toNat]?).map (d.separator ++ ·)

variable {d : Definition} {id : String} {t : Table} {u : TimeUnit} {f : Forms}

/-- What is filed under a unit stands under the only name that denotes it. -/
theorem says_of_textsOf? (hf : textsOf? d.units.toList u = some f)
    (hdistinct : d.units.toList.Pairwise fun a b => TimeUnit.ofName? a.1 ≠ TimeUnit.ofName? b.1) :
    d.Says u f := by
  obtain ⟨⟨name, f'⟩, hfind, rfl⟩ := Option.map_eq_some_iff.1 hf
  have hmem := List.mem_of_find?_eq_some hfind
  have hfound := List.find?_some hfind
  have hname : TimeUnit.ofName? name = some u := beq_iff_eq.1 hfound
  refine ⟨name, hname, Entries.mem_toList_iff.1 hmem, fun other hother hu => ?_⟩
  obtain ⟨⟨other, g⟩, hmem', rfl⟩ := List.mem_map.1 hother
  have hnodup : (d.units.toList.map fun e => TimeUnit.ofName? e.1).Nodup :=
    List.pairwise_map.2 hdistinct
  have he := List.inj_on_of_nodup_map hnodup hmem' hmem (hu.trans hname.symm)
  exact congrArg Prod.fst he

/-- The table of a definition answers with what the definition says. -/
theorem says_of_toTable (h : d.toTable id = .ok t) (u : TimeUnit) :
    ∃ f, d.Says u f ∧ t.AnswersWith u f := by
  obtain ⟨forms, hforms, rfl, hcomplete⟩ := toTable_eq_ok_iff.1 h
  obtain ⟨-, hdistinct, rfl⟩ := collect_eq_ok_iff.1 hforms
  obtain ⟨f, hf⟩ := Table.complete_iff.1 hcomplete u
  have htexts : (textsOf? d.units.toList u).or none = some f := hf.forms?
  rw [Option.or_none] at htexts
  exact ⟨f, says_of_textsOf? htexts hdistinct, hf⟩

/-- The table of a definition puts behind a number what the definition does. -/
theorem text_localizer (h : d.toTable id = .ok t) (hf : t.AnswersWith u f) (value : UInt64)
    (x : Suffix) :
    ∃ text, d.suffix? id f value x = some text ∧ x.text t.localizer u value = text.toList := by
  obtain ⟨forms, -, rfl, -⟩ := toTable_eq_ok_iff.1 h
  cases x with
  | bare => exact ⟨"", rfl, rfl⟩
  | abbreviation => exact ⟨f.abbreviation, rfl, congrArg String.toList hf.abbreviation⟩
  | word =>
      obtain ⟨w, hw, -, hword⟩ := hf.picked value
      refine ⟨d.separator ++ w, ?_, congrArg String.toList hword⟩
      have hpicked : f.words[(d.plural.getD (PluralRule.ofLocale id)).pick value.toNat]? = some w :=
        hw
      rw [suffix?, hpicked]
      rfl

end Definition

/-! ## The registry -/

namespace Registry

variable {ops : List Operation} {id : String}

/-- An identifier keeps its table as long as none is registered under it. -/
theorem get?_run_of_kept (h : ∀ op ∈ ops, ∀ t ∈ op.tables, t.id ≠ id) (r : Registry) :
    (r.run ops).get? id = r.get? id := by
  have hnew : id ∉ (ops.flatMap Operation.tables).map Table.id := by
    intro hid
    obtain ⟨t, ht, he⟩ := List.mem_map.1 hid
    obtain ⟨op, hop, ht⟩ := List.mem_flatMap.1 ht
    exact h op hop t ht he
  rw [get?_run, latest_eq_none hnew, Option.none_or]

/-- The table of the identifier that was selected last is the selected one. -/
theorem selected_run (h : (ops.filterMap Operation.selected?).getLast? = some id) {r : Registry}
    {t : Table} (ht : (r.run ops).get? id = some t) : (r.run ops).selected = .ok t := by
  have hcurrent : (r.run ops).current = id := by
    rw [current_run, h]
    rfl
  exact selected_of_some (by rw [hcurrent, ht])

variable {r : Registry} {decode : Decoder} {order : EntryOrder} {format : Format}
variable {content : String} {n : Nat} {c : Catalogue} {d : Definition}
variable {code : List Char} {p : Placeholder} {seconds : UInt64}

/-- **What a document says is what is shown.**  Whenever a document was loaded, whatever it was
decoded to, and whatever was done to the registry behind that, if an identifier of the document is
selected and no other table was registered under it, then a placeholder that is shown shows its
number with zeros in front, what the definition of this identifier says, and its tail. -/
theorem shows_what_is_defined
    (hload : (r.loadText decode order format content).result = .ok n)
    (hdecode : decode format content = .ok c) (hdefined : c.locales.get? id = some d)
    (hselected : (ops.filterMap Operation.selected?).getLast? = some id)
    (hkept : ∀ op ∈ ops, ∀ t ∈ op.tables, t.id ≠ id)
    (hclosed : '}' ∉ code) (hcode : Placeholder.ofCode? code = some p)
    (hshown : p.hidden ⟨seconds⟩ = false) (hwidth : p.digits ≤ maxWidth) :
    ∃ t f text, ((r.loadText decode order format content).registry.run ops).selected = .ok t ∧
      d.Says (Breakdown.resolve ⟨seconds⟩ p.unit) f ∧
      d.suffix? id f (p.value ⟨seconds⟩) p.suffix = some text ∧
      t.localizer.format seconds (Template.spanOf code)
        = .ok (String.ofList ((Nat.toDigits 10 (p.value ⟨seconds⟩).toNat).leftpad p.digits '0'
            ++ text.toList ++ p.tail)) := by
  obtain ⟨c', hdecode', hdone⟩ := registers_of_result_ok hload
  cases hdecode.symm.trans hdecode'
  obtain ⟨t, htable, hget⟩ := hdone.defined id d hdefined
  have hget' : ((r.loadText decode order format content).registry.run ops).get? id = some t := by
    rw [get?_run_of_kept hkept, hget]
  obtain ⟨f, hsays, hanswers⟩ :=
    Definition.says_of_toTable htable (Breakdown.resolve ⟨seconds⟩ p.unit)
  obtain ⟨text, hsuffix, htext⟩ :=
    Definition.text_localizer htable hanswers (p.value ⟨seconds⟩) p.suffix
  refine ⟨t, f, text, selected_run hselected hget', hsays, hsuffix, ?_⟩
  rw [Template.format_spanOf_of_some hclosed hcode, Placeholder.render_of_shown _ hshown hwidth,
    htext, Decimal.pad_eq_leftpad]
  rfl

/-- Three days in a baseline that was replaced, and what is done behind it changes nothing: another
table is registered, and a load fails. -/
theorem shows_what_is_defined_baseline :
    let d := baselineDefinition
    let code := ['D', 'D', 'a', 'y', 's', '?', '!']
    let ops : List Operation := [.register { Builtin.frFR with id := "fr_BE" }, .select "en_US",
      .loadText .terse .given .toml "[locale.nl_NL]"]
    let first := initial.loadText .terse .given .json baselineDocument
    let after := first.registry.run ops
    first.result = .ok 1 ∧ Decoder.terse .json baselineDocument = .ok ⟨.ofList [("en_US", d)]⟩ ∧
      ∃ t f text, after.selected = .ok t ∧ d.Says .day f ∧
        d.suffix? "en_US" f 3 .word = some text ∧
        t.localizer.format 259200 (Template.spanOf code)
          = .ok (String.ofList (['0', '3'] ++ text.toList ++ ['!'])) := by
  intro d code ops first after
  have hresult : first.result = .ok 1 := result_baselineDocument .given initial
  have hkept : ∀ op ∈ ops, ∀ t ∈ op.tables, t.id ≠ "en_US" := by decide +kernel
  let p : Placeholder := ⟨.fixed .day, true, 2, .word, true, ['!']⟩
  have hcode : Placeholder.ofCode? code = some p := by decide +kernel
  have hshown : p.hidden ⟨259200⟩ = false := by decide
  have hwidth : p.digits ≤ maxWidth := by decide
  have hvalue : p.value ⟨259200⟩ = 3 := by decide
  have hnumber : (Nat.toDigits 10 (3 : UInt64).toNat).leftpad p.digits '0' = ['0', '3'] := by decide
  obtain ⟨t, f, text, hselected, hsays, hsuffix, htext⟩ :=
    shows_what_is_defined hresult decode_baselineDocument (d := d) rfl rfl hkept (by decide) hcode
      hshown hwidth
  rw [hvalue] at hsuffix htext
  rw [hnumber] at htext
  exact ⟨hresult, decode_baselineDocument, t, f, text, hselected, hsays, hsuffix, htext⟩

end Registry

end Elapsed.Locale
