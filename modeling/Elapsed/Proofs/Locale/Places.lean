import Mathlib.Data.List.GetD
import Elapsed.Proofs.Locale.Records

/-!
# What the values of a document are there for

A document of a locale file has a map in a record in a map in a record, and below that another
record.  Which of them a value is, is a matter of where it stands (`Place`): a name leads from a
place to the next one (`Place.under`), and so does a place in a list (`Place.item`).

*Names that are data.*  In a map no name is that of a field, whatever the name is.
`Catalogue.ofDocument?_definitions_iff` and `Definition.ofDocument?_units_iff` say what is read from
the two maps.

*Names of one field.*  A record that gives a field twice is none, be it under one name or under
two, and no more is the file with it (`GivesTwice.rejects`).
-/

namespace Elapsed.Locale

open Elapsed.Document

/-! ## Places -/

/-- What a value in a document is there for. -/
inductive Place where
  /-- All of the file. -/
  | file
  /-- Definitions under their identifiers. -/
  | definitions
  /-- A definition. -/
  | definition
  /-- Texts under the names of units. -/
  | units
  /-- The texts of a unit. -/
  | forms
  /-- Anything else: a rule, a text, texts in a list, or what is passed over. -/
  | value

namespace Place

variable {p : Place} {name : String} {i : Nat}

/-- The names of the fields of the record at a place.  Where there are none, there is no record. -/
def fieldNames : Place → List (List String)
  | file => Catalogue.fieldNames
  | definition => Definition.fieldNames
  | forms => Forms.fieldNames
  | _ => []

/-- What the fields of a record are there for. -/
def item : Place → Nat → Place
  | file, 0 => definitions
  | definition, 2 => units
  | _, _ => value

/-- What the values of a table are there for. -/
def under (name : String) : Place → Place
  | definitions => definition
  | units => forms
  | p => p.item (p.fieldNames.findIdx (·.contains name))

theorem under_eq_item (hrecord : p.fieldNames ≠ []) :
    p.under name = p.item (p.fieldNames.findIdx (·.contains name)) := by
  cases p with
  | definitions => exact absurd rfl hrecord
  | units => exact absurd rfl hrecord
  | _ => rfl

theorem exists_getElem_of_mem (h : name ∈ p.fieldNames.getD i []) :
    ∃ hi : i < p.fieldNames.length, name ∈ p.fieldNames[i] := by
  by_cases hi : i < p.fieldNames.length
  · exact ⟨hi, List.getD_eq_getElem _ _ hi ▸ h⟩
  · rw [List.getD_eq_default _ _ (not_lt.1 hi)] at h
    exact absurd h List.not_mem_nil

/-- No name is that of two fields. -/
theorem findIdx_fieldNames (h : name ∈ p.fieldNames.getD i []) :
    p.fieldNames.findIdx (·.contains name) = i := by
  have hnodup : p.fieldNames.flatten.Nodup := by
    cases p <;> decide
  obtain ⟨hi, h⟩ := exists_getElem_of_mem h
  refine (List.findIdx_eq hi).2 ⟨List.contains_iff_mem.2 h, fun j hj => ?_⟩
  have hdisjoint := List.pairwise_iff_getElem.1 (List.nodup_flatten.1 hnodup).2 j i
    (hj.trans hi) hi hj
  rw [Bool.eq_false_iff, ne_eq, List.contains_iff_mem]
  exact fun hmem => hdisjoint hmem h

theorem under_eq (h : name ∈ p.fieldNames.getD i []) : p.under name = p.item i := by
  obtain ⟨hi, -⟩ := exists_getElem_of_mem h
  rw [under_eq_item (List.ne_nil_of_length_pos (Nat.zero_lt_of_lt hi)), findIdx_fieldNames h]

theorem mem_fieldNames_iff {names : List String} {a b : String} (hnames : names ∈ p.fieldNames)
    (ha : a ∈ names) (hb : b ∈ names) (i : Nat) :
    a ∈ p.fieldNames.getD i [] ↔ b ∈ p.fieldNames.getD i [] := by
  obtain ⟨j, hj, rfl⟩ := List.getElem_of_mem hnames
  rw [← List.getD_eq_getElem _ [] hj] at ha hb
  constructor
  · intro h
    rwa [← findIdx_fieldNames h, findIdx_fieldNames ha]
  · intro h
    rwa [← findIdx_fieldNames h, findIdx_fieldNames hb]

end Place

variable {p : Place} {name : String} {i : Nat} {v : Tree}
variable {front back : List (String × Tree)} {before after : List Tree}

/-- An entry under a name of a field gives the value of that field, and of no other. -/
theorem recordField?_given (p : Place) (i : Nat) (hname : name ∈ p.fieldNames.getD i [])
    (h : ∀ e ∈ front ++ back, e.1 ∉ p.fieldNames.getD i []) (v : Tree) :
    recordField? p.fieldNames i (.table (front ++ (name, v) :: back)) = some (some v) ∧
      recordField? p.fieldNames i (.table (front ++ back)) = some none ∧
      ∀ j, j ≠ i → recordField? p.fieldNames j (.table (front ++ (name, v) :: back))
        = recordField? p.fieldNames j (.table (front ++ back)) := by
  refine ⟨?_, field?_missing h, fun j hj => field?_skip fun hmem => hj ?_⟩
  · rw [recordField?, field?_named_append_cons, if_pos hname, if_pos h]
  · rw [← Place.findIdx_fieldNames hmem, Place.findIdx_fieldNames hname]

/-! ## Names that are data -/

/-- Identifiers are data.  A file is read exactly if each of its definitions is, under whatever
identifiers, and each identifier has its own definition. -/
theorem Catalogue.ofDocument?_definitions_iff {defs : List (String × Tree)} {c : Catalogue}
    (hname : name ∈ ["locales", "locale"])
    (hothers : ∀ e ∈ front ++ back, e.1 ∉ ["locales", "locale"])
    (hnodup : (defs.map Prod.fst).Nodup) :
    ofDocument? jsonConventions (.table (front ++ (name, .table defs) :: back)) = some c ↔
      c.locales.Lists (Definition.ofDocument? jsonConventions) defs := by
  have hgiven := (recordField?_given .file 0 hname hothers (.table defs)).1
  rw [Place.fieldNames] at hgiven
  rw [ofDocument?_eq, hgiven, ← mapOf?_eq_some_iff hnodup]
  simp only [Option.bind_eq_bind, Option.bind_some, Option.elim_some]
  constructor
  · intro h
    obtain ⟨m, hm, h⟩ := Option.bind_eq_some_iff.1 h
    cases h
    exact hm
  · intro h
    exact Option.bind_eq_some_iff.2 ⟨c.locales, h, rfl⟩

/-- Names of units are data.  A definition is read exactly if its other fields are and the texts
under each name are, whatever the names, and each name has its own texts. -/
theorem Definition.ofDocument?_units_iff {units : List (String × Tree)} {d : Definition}
    (hname : name ∈ ["units", "unit"]) (hothers : ∀ e ∈ front ++ back, e.1 ∉ ["units", "unit"])
    (hnodup : (units.map Prod.fst).Nodup) :
    ofDocument? jsonConventions (.table (front ++ (name, .table units) :: back)) = some d ↔
      d.units.Lists (Forms.ofDocument? jsonConventions) units ∧
        ofDocument? jsonConventions (.table (front ++ back)) = some { d with units := .empty } := by
  obtain ⟨hgiven, hmissing, hsame⟩ := recordField?_given .definition 2 hname hothers (.table units)
  rw [Place.fieldNames] at hgiven hmissing hsame
  rw [ofDocument?_eq_some_iff, ofDocument?_eq_some_iff, hgiven, hmissing, hsame 0 (by decide),
    hsame 1 (by decide), ← mapOf?_eq_some_iff hnodup]
  constructor
  · rintro ⟨plural, separator, given, hplural, hseparator, hunits, hrule, htext, hm⟩
    cases hunits
    exact ⟨hm, plural, separator, none, hplural, hseparator, rfl, hrule, htext, rfl⟩
  · rintro ⟨hm, plural, separator, given, hplural, hseparator, -, hrule, htext, -⟩
    exact ⟨plural, separator, _, hplural, hseparator, rfl, hrule, htext, hm⟩

/-! ## Names of one field -/

/-- Whether a record gives a field twice, be it under one name or under two. -/
inductive GivesTwice : Place → Tree → Prop where
  /-- The record itself does. -/
  | here {p : Place} {front middle back : List (String × Tree)} {names : List String}
      {a b : String} {v w : Tree} (hnames : names ∈ p.fieldNames) (ha : a ∈ names)
      (hb : b ∈ names) :
      GivesTwice p (.table (front ++ (a, v) :: (middle ++ (b, w) :: back)))
  /-- A value in a table does. -/
  | under {p : Place} {front back : List (String × Tree)} {name : String} {v : Tree}
      (h : GivesTwice (p.under name) v) : GivesTwice p (.table (front ++ (name, v) :: back))
  /-- A value in a list does. -/
  | item {p : Place} {before after : List Tree} {v : Tree}
      (h : GivesTwice (p.item before.length) v) : GivesTwice p (.list (before ++ v :: after))

/-- Whether a value at a place cannot be read; where nothing depends on it, it always can. -/
def Place.Rejects : Place → Tree → Prop
  | file, v => Catalogue.ofDocument? jsonConventions v = none
  | definitions, v => mapOf? jsonConventions (Definition.ofDocument? jsonConventions) v = none
  | definition, v => Definition.ofDocument? jsonConventions v = none
  | units, v => mapOf? jsonConventions (Forms.ofDocument? jsonConventions) v = none
  | forms, v => Forms.ofDocument? jsonConventions v = none
  | value, _ => False

/-- A record cannot be read if one of its fields cannot. -/
theorem rejects_of_field (hi : i < p.fieldNames.length)
    (h : ∀ t, recordField? p.fieldNames i v = some t → ∃ w, t = some w ∧ (p.item i).Rejects w) :
    p.Rejects v := by
  cases p with
  | file =>
      rw [Place.Rejects, Catalogue.ofDocument?_eq]
      refine Option.bind_eq_none_iff.2 fun locales hlocales => ?_
      rcases i with _ | i
      · obtain ⟨w, rfl, hw⟩ := h locales hlocales
        rw [Option.elim_some, show mapOf? _ _ w = none from hw]
        rfl
      · have hi : i + 1 < 1 := hi
        omega
  | definition =>
      rw [Place.Rejects, Definition.ofDocument?_eq]
      refine Option.bind_eq_none_iff.2 fun plural hplural => ?_
      refine Option.bind_eq_none_iff.2 fun separator hseparator => ?_
      refine Option.bind_eq_none_iff.2 fun units hunits => ?_
      rcases i with _ | _ | _ | i
      · obtain ⟨w, -, hw⟩ := h plural hplural
        exact hw.elim
      · obtain ⟨w, -, hw⟩ := h separator hseparator
        exact hw.elim
      · obtain ⟨w, rfl, hw⟩ := h units hunits
        rw [Option.elim_some, show mapOf? _ _ w = none from hw]
        simp
      · have hi : i + 3 < 3 := hi
        omega
  | forms =>
      rw [Place.Rejects, Forms.ofDocument?_eq]
      refine Option.bind_eq_none_iff.2 fun abbreviation habbreviation => ?_
      refine Option.bind_eq_none_iff.2 fun words hwords => ?_
      rcases i with _ | _ | i
      · obtain ⟨w, -, hw⟩ := h abbreviation habbreviation
        exact hw.elim
      · obtain ⟨w, -, hw⟩ := h words hwords
        exact hw.elim
      · have hi : i + 2 < 2 := hi
        omega
  | _ => exact absurd hi (Nat.not_lt_zero i)

/-- Nothing depends on what is behind the fields. -/
theorem not_rejects_of_le (hi : p.fieldNames.length ≤ i) : ¬ (p.item i).Rejects v := by
  cases p with
  | file =>
      obtain ⟨j, rfl⟩ := Nat.exists_eq_add_of_le' hi
      exact id
  | definition =>
      obtain ⟨j, rfl⟩ := Nat.exists_eq_add_of_le' hi
      exact id
  | _ => exact id

theorem rejects_under (hrecord : p.fieldNames ≠ []) (h : (p.under name).Rejects v) :
    p.Rejects (.table (front ++ (name, v) :: back)) := by
  rw [Place.under_eq_item hrecord] at h
  rcases lt_or_ge (p.fieldNames.findIdx (·.contains name)) p.fieldNames.length with hi | hi
  · have hname : name ∈ p.fieldNames.getD (p.fieldNames.findIdx (·.contains name)) [] := by
      rw [List.getD_eq_getElem _ _ hi, ← List.contains_iff_mem]
      exact List.findIdx_getElem (w := hi)
    refine rejects_of_field hi fun t ht => ?_
    rw [recordField?, field?_named_append_cons, if_pos hname] at ht
    split_ifs at ht
    exact ⟨v, (Option.some.inj ht).symm, h⟩
  · exact absurd h (not_rejects_of_le hi)

theorem rejects_item (h : (p.item before.length).Rejects v) :
    p.Rejects (.list (before ++ v :: after)) := by
  rcases lt_or_ge before.length p.fieldNames.length with hi | hi
  · refine rejects_of_field hi fun t ht => ?_
    rw [recordField?] at ht
    split_ifs at ht
    rw [List.getElem?_append_right le_rfl, Nat.sub_self] at ht
    exact ⟨v, (Option.some.inj ht).symm, h⟩
  · exact absurd h (not_rejects_of_le hi)

/-- What gives a field twice cannot be read. -/
theorem GivesTwice.rejects (h : GivesTwice p v) : p.Rejects v := by
  induction h with
  | @here p front middle back names a b v w hnames ha hb =>
      obtain ⟨i, hi, rfl⟩ := List.getElem_of_mem hnames
      rw [← List.getD_eq_getElem _ [] hi] at ha hb
      refine rejects_of_field hi fun t ht => ?_
      rw [recordField?, field?_twice ha hb] at ht
      cases ht
  | @under p front back name v h ih =>
      cases p with
      | definitions => exact mapOf?_eq_none ih
      | units => exact mapOf?_eq_none ih
      | value => exact ih.elim
      | _ => exact rejects_under (by decide) ih
  | item h ih => exact rejects_item ih

end Elapsed.Locale
