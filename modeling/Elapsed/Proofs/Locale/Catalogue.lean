import Mathlib.Data.String.Basic
import Elapsed.Locale.Load
import Elapsed.Proofs.Computation

/-!
# The tables of a catalogue

A catalogue is checked definition by definition, in ascending order of the identifiers.  What comes
out of a successful check is fixed by what went in:

* `Definition.collect_eq_ok_iff` — the texts of a definition: every name denotes a unit, and each
  unit has the texts under its only name;
* `Definition.toTable_eq_ok_iff` — one definition: the table has the identifier it is defined under
  and is complete;
* `Catalogue.map_id_toTables` — all definitions: one table each, in the order of the identifiers;
* `Catalogue.sorted_ascending` — and this order is strict, for a catalogue has no name twice.

Whatever a document or a file defines therefore comes as `Table.Loadable` tables: complete ones, in
strictly ascending order.
-/

namespace Elapsed

/-! ## Sorting -/

theorem pairwise_mergeSort_le {α : Type} (name : α → String) (items : List α) :
    (items.mergeSort fun a b => name a ≤ name b).Pairwise fun a b => name a ≤ name b := by
  have hle : (items.mergeSort fun a b => name a ≤ name b).Pairwise
      fun a b => decide (name a ≤ name b) = true := by
    refine List.pairwise_mergeSort ?_ ?_ items
    · intro a b c hab hbc
      rw [decide_eq_true_eq] at *
      exact le_trans hab hbc
    · intro a b
      rw [Bool.or_eq_true, decide_eq_true_eq, decide_eq_true_eq]
      exact le_total _ _
  exact hle.imp fun h => of_decide_eq_true h

/-- Items under distinct names are sorted by name in strictly ascending order. -/
theorem pairwise_mergeSort_lt {α : Type} {name : α → String} {items : List α}
    (h : (items.map name).Nodup) :
    (items.mergeSort fun a b => name a ≤ name b).Pairwise fun a b => name a < name b := by
  have hne : (items.mergeSort fun a b => name a ≤ name b).Pairwise fun a b => name a ≠ name b :=
    List.pairwise_map.1 (((List.mergeSort_perm _ _).map name).nodup_iff.2 h)
  exact (pairwise_mergeSort_le name items).imp₂ (fun _ _ hle hne => lt_of_le_of_ne hle hne) hne

namespace Locale

/-! ## Named texts -/

/-- The texts that named entries give a unit: those of the first entry whose name denotes it. -/
def textsOf? (entries : List (String × Forms)) (u : TimeUnit) : Option Forms :=
  (entries.find? fun e => TimeUnit.ofName? e.1 == some u).map Prod.snd

section Texts

variable {entries rest : List (String × Forms)} {e : String × Forms} {u : TimeUnit}

theorem textsOf?_cons (e : String × Forms) (rest : List (String × Forms)) (u : TimeUnit) :
    textsOf? (e :: rest) u
      = if TimeUnit.ofName? e.1 = some u then some e.2 else textsOf? rest u := by
  rw [textsOf?, List.find?_cons]
  by_cases h : TimeUnit.ofName? e.1 = some u
  · simp [h]
  · have hne : (TimeUnit.ofName? e.1 == some u) = false := beq_eq_false_iff_ne.2 h
    rw [hne, if_neg h]
    rfl

theorem textsOf?_eq_none (h : ∀ e ∈ rest, TimeUnit.ofName? e.1 ≠ some u) :
    textsOf? rest u = none := by
  rw [textsOf?, Option.map_eq_none_iff, List.find?_eq_none]
  intro e he
  simp [h e he]

/-- Where no unit is named twice, an entry can as well be filed before those behind it. -/
theorem textsOf?_cons_or (hu : TimeUnit.ofName? e.1 = some u)
    (hapart : ∀ e' ∈ rest, TimeUnit.ofName? e'.1 ≠ some u) (filed : TimeUnit → Option Forms) :
    (fun v => (textsOf? (e :: rest) v).or (filed v))
      = fun v => (textsOf? rest v).or (if v = u then some e.2 else filed v) := by
  funext v
  rw [textsOf?_cons, hu]
  by_cases hvu : v = u
  · rw [if_pos hvu, hvu, textsOf?_eq_none hapart, if_pos rfl]
    rfl
  · rw [if_neg hvu, if_neg fun h => hvu (Option.some.inj h).symm]

end Texts

namespace Definition

variable {id : String} {entries rest : List (String × Forms)} {e : String × Forms}
variable {filed forms : TimeUnit → Option Forms}

/-- An entry is filed if its name denotes a unit that has no texts yet. -/
theorem collect_cons_eq_ok_iff : collect id filed (e :: rest) = .ok forms ↔
    ∃ u, TimeUnit.ofName? e.1 = some u ∧ filed u = none ∧
      collect id (fun v => if v = u then some e.2 else filed v) rest = .ok forms := by
  rw [collect, TimeUnit.ofName]
  cases TimeUnit.ofName? e.1 with
  | none => simp
  | some u =>
      cases hu : filed u with
      | none => simp [hu]
      | some f => simp [hu]

/-- Entries are filed if their names denote different units that have no texts yet.  Then every unit
has the texts of its entry, or else those it had. -/
theorem collect_eq_ok_iff : collect id filed entries = .ok forms ↔
    (∀ e ∈ entries, ∃ u, TimeUnit.ofName? e.1 = some u ∧ filed u = none) ∧
    (entries.Pairwise fun a b => TimeUnit.ofName? a.1 ≠ TimeUnit.ofName? b.1) ∧
    forms = fun u => (textsOf? entries u).or (filed u) := by
  induction entries generalizing filed with
  | nil => simp [collect, textsOf?, eq_comm]
  | cons e rest ih =>
      rw [collect_cons_eq_ok_iff, List.forall_mem_cons, List.pairwise_cons]
      constructor
      · rintro ⟨u, hu, hfree, h⟩
        obtain ⟨hnamed, hdistinct, rfl⟩ := ih.1 h
        -- the place of `u` is taken, so the entries behind are of other units
        have hother : ∀ e' ∈ rest,
            ∃ v, TimeUnit.ofName? e'.1 = some v ∧ v ≠ u ∧ filed v = none := by
          intro e' he'
          obtain ⟨v, hv, hfree'⟩ := hnamed e' he'
          by_cases hvu : v = u
          · rw [if_pos hvu] at hfree'
            cases hfree'
          · rw [if_neg hvu] at hfree'
            exact ⟨v, hv, hvu, hfree'⟩
        have hapart : ∀ e' ∈ rest, TimeUnit.ofName? e'.1 ≠ some u := by
          intro e' he' he
          obtain ⟨v, hv, hvu, -⟩ := hother e' he'
          exact hvu (Option.some.inj (hv.symm.trans he))
        refine ⟨⟨⟨u, hu, hfree⟩, fun e' he' => ?_⟩, ⟨fun e' he' => ?_, hdistinct⟩, ?_⟩
        · obtain ⟨v, hv, -, hfree'⟩ := hother e' he'
          exact ⟨v, hv, hfree'⟩
        · rw [hu]
          exact (hapart e' he').symm
        · exact (textsOf?_cons_or hu hapart filed).symm
      · rintro ⟨⟨⟨u, hu, hfree⟩, hnamed⟩, ⟨hdifferent, hdistinct⟩, rfl⟩
        have hapart : ∀ e' ∈ rest, TimeUnit.ofName? e'.1 ≠ some u := fun e' he' he =>
          hdifferent e' he' (hu.trans he.symm)
        refine ⟨u, hu, hfree, ih.2 ⟨fun e' he' => ?_, hdistinct, textsOf?_cons_or hu hapart filed⟩⟩
        obtain ⟨v, hv, hfree'⟩ := hnamed e' he'
        have hvu : v ≠ u := by
          rintro rfl
          exact hapart e' he' hv
        exact ⟨v, hv, by rw [if_neg hvu, hfree']⟩

end Definition

/-! ## One definition -/

/-- A definition has a table exactly if its units can be filed and the table is complete; that
table has the identifier it is defined under. -/
theorem Definition.toTable_eq_ok_iff {d : Definition} {id : String} {t : Table} :
    d.toTable id = .ok t ↔ ∃ forms, collect id (fun _ => none) d.units.toList = .ok forms ∧
      t = ⟨id, d.rule id, d.separator, forms⟩ ∧ t.Complete := by
  unfold toTable
  rw [bind_eq_ok_iff]
  constructor
  · rintro ⟨forms, hforms, ht⟩
    obtain ⟨rfl, hcomplete⟩ := Table.validate_eq_ok_iff.1 ht
    exact ⟨forms, hforms, rfl, hcomplete⟩
  · rintro ⟨forms, hforms, rfl, hcomplete⟩
    exact ⟨forms, hforms, Table.validate_eq_ok_iff.2 ⟨rfl, hcomplete⟩⟩

theorem Definition.id_of_toTable {d : Definition} {id : String} {t : Table}
    (h : d.toTable id = .ok t) : t.id = id := by
  obtain ⟨forms, -, rfl, -⟩ := toTable_eq_ok_iff.1 h
  rfl

theorem Definition.complete_of_toTable {d : Definition} {id : String} {t : Table}
    (h : d.toTable id = .ok t) : t.Complete := by
  obtain ⟨forms, -, -, hcomplete⟩ := toTable_eq_ok_iff.1 h
  exact hcomplete

/-! ## All definitions -/

namespace Catalogue

variable {c : Catalogue} {tables : List Table}

/-- The definitions come in strictly ascending order of their identifiers. -/
theorem sorted_ascending (c : Catalogue) : c.sorted.Pairwise fun a b => a.1 < b.1 :=
  pairwise_mergeSort_lt c.locales.nodup

/-- There is one table for each definition, in the order of the definitions. -/
theorem forall₂_toTables (h : c.toTables = .ok tables) :
    List.Forall₂ (fun e t => e.2.toTable e.1 = .ok t) c.sorted tables :=
  mapM_eq_ok_iff.1 h

theorem map_id_toTables (h : c.toTables = .ok tables) :
    tables.map Table.id = c.sorted.map Prod.fst := by
  have hids : List.Forall₂ (fun e t => t.id = e.1) c.sorted tables :=
    (forall₂_toTables h).imp fun _ _ => Definition.id_of_toTable
  rw [← List.forall₂_eq_eq_eq, List.forall₂_map_left_iff, List.forall₂_map_right_iff]
  exact hids.flip

theorem mem_sorted_iff {id : String} {d : Definition} :
    (id, d) ∈ c.sorted ↔ c.locales.get? id = some d := by
  rw [sorted, List.mem_mergeSort, Entries.mem_toList_iff]

theorem ids_perm_keys (h : c.toTables = .ok tables) :
    (tables.map Table.id).Perm c.locales.keys := by
  rw [map_id_toTables h]
  exact (List.mergeSort_perm _ _).map Prod.fst

/-- A catalogue has its tables exactly if each definition has its own. -/
theorem exists_toTables_iff : (∃ tables, c.toTables = .ok tables) ↔
    ∀ id d, c.locales.get? id = some d → ∃ t, d.toTable id = .ok t := by
  rw [toTables, exists_mapM_eq_ok_iff]
  constructor
  · exact fun h id d hd => h (id, d) (mem_sorted_iff.2 hd)
  · exact fun h e he => h e.1 e.2 (mem_sorted_iff.1 he)

/-- The table of a definition is among the tables of its catalogue. -/
theorem mem_toTables (h : c.toTables = .ok tables) {id : String} {d : Definition}
    (hd : c.locales.get? id = some d) : ∃ t ∈ tables, d.toTable id = .ok t :=
  exists_mem_of_forall₂ (forall₂_toTables h) (mem_sorted_iff.2 hd)

end Catalogue

/-! ## Loading -/

/-- What a document or a file defines: complete tables in strictly ascending order of their
identifiers. -/
structure Table.Loadable (tables : List Table) : Prop where
  ascending : tables.Pairwise fun a b => a.id < b.id
  complete : ∀ t ∈ tables, t.Complete

theorem Catalogue.loadable_toTables {c : Catalogue} {tables : List Table}
    (h : c.toTables = .ok tables) : Table.Loadable tables where
  ascending := by
    have hids : (tables.map Table.id).Pairwise (· < ·) := by
      rw [map_id_toTables h]
      exact List.pairwise_map.2 c.sorted_ascending
    exact List.pairwise_map.1 hids
  complete := by
    have hboth : List.Forall₂ (fun t e => t.Complete ∧ e.2.toTable e.1 = .ok t) tables c.sorted :=
      ((forall₂_toTables h).imp fun _ _ he => ⟨Definition.complete_of_toTable he, he⟩).flip
    exact (List.forall₂_and_left _ _).1 hboth |>.1

namespace Table

variable {decode : Decoder} {order : EntryOrder} {format : Format} {content : String}
variable {read : Reader} {path : String} {tables : List Table}

/-- A document that cannot be decoded has no tables. -/
theorem parseAll_of_error {message : String} (h : decode format content = .error message)
    (order : EntryOrder) :
    parseAll decode order format content = .error (.malformed format message) := by
  rw [parseAll, Catalogue.parse, h]
  rfl

/-- The tables of a document are those of what it is decoded to, in some order. -/
theorem parseAll_of_ok {c : Catalogue} (h : decode format content = .ok c) (order : EntryOrder) :
    parseAll decode order format content = (order.arrange c).toTables := by
  rw [parseAll, Catalogue.parse, h]
  rfl

theorem loadable_parseAll (h : parseAll decode order format content = .ok tables) :
    Loadable tables := by
  cases hdecode : decode format content with
  | error message => cases (parseAll_of_error hdecode order).symm.trans h
  | ok c => exact Catalogue.loadable_toTables ((parseAll_of_ok hdecode order).symm.trans h)

theorem loadable_readAll (h : readAll decode order read path = .ok tables) : Loadable tables := by
  unfold readAll at h
  split at h
  · cases h
  · split at h
    · cases h
    · exact loadable_parseAll h

end Table

end Locale

end Elapsed
