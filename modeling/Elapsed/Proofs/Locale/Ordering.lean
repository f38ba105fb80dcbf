import Mathlib.Data.List.Sort
import Elapsed.Proofs.Locale.Checking

/-!
# The tables of a catalogue in any order

A catalogue is a map: its definitions, and the units in each, come in no order of their own.  The
tables are made in the order of the identifiers, so an order of the entries hardly shows.

* `Catalogue.toTables_eq_ok` — the tables are those of all definitions, in ascending order;
* `Catalogue.toTables_eq_error` — or the error of the least identifier whose definition has none
  (`Catalogue.FirstRejected`).

Both speak of what is under an identifier only.  So in every order (`Catalogue.Reorders`) there are
the same tables, and if there are none, the same definition is the first one that has none, and
what is wrong is something that it can be refused for (`Catalogue.Reorders.toTables_eq_ok_iff`,
`Catalogue.Reorders.firstRejected`, `Catalogue.Reorders.exists_refuses`).
-/

namespace Elapsed.Locale.Catalogue

variable {c c' : Catalogue} {tables : List Table} {e e' : Error}

/-- Whether an identifier is the least one whose definition has no table. -/
structure FirstRejected (c : Catalogue) (id : String) (d : Definition) : Prop where
  get?_eq : c.locales.get? id = some d
  rejected : ∀ t, d.toTable id ≠ .ok t
  least : ∀ id' d', c.locales.get? id' = some d' → id' < id → ∃ t, d'.toTable id' = .ok t

/-! ## What is under an identifier -/

/-- Tables in strictly ascending order are told apart by what is among them. -/
theorem eq_of_ascending {tables tables' : List Table}
    (h : tables.Pairwise fun s t => s.id < t.id) (h' : tables'.Pairwise fun s t => s.id < t.id)
    (hmem : ∀ t, t ∈ tables ↔ t ∈ tables') : tables = tables' := by
  have : Std.Irrefl fun s t : Table => s.id < t.id := ⟨fun s => lt_irrefl s.id⟩
  have : Std.Antisymm fun s t : Table => s.id < t.id :=
    ⟨fun s t hst hts => absurd hts (lt_asymm hst)⟩
  exact h.eq_of_mem_iff h' hmem

theorem mem_toTables_iff (h : c.toTables = .ok tables) {t : Table} :
    t ∈ tables ↔ ∃ id d, c.locales.get? id = some d ∧ d.toTable id = .ok t := by
  constructor
  · intro ht
    obtain ⟨x, hx, htable⟩ := exists_mem_of_forall₂ (forall₂_toTables h).flip ht
    exact ⟨x.1, x.2, mem_sorted_iff.1 hx, htable⟩
  · rintro ⟨id, d, hd, htable⟩
    obtain ⟨t', ht', htable'⟩ := mem_toTables h hd
    cases htable.symm.trans htable'
    exact ht'

/-- The tables are those of all definitions, in ascending order of their identifiers. -/
theorem toTables_eq_ok : c.toTables = .ok tables ↔
    (∀ id d, c.locales.get? id = some d → ∃ t, d.toTable id = .ok t) ∧
      (tables.Pairwise fun s t => s.id < t.id) ∧
      ∀ t, t ∈ tables ↔ ∃ id d, c.locales.get? id = some d ∧ d.toTable id = .ok t := by
  constructor
  · intro h
    exact ⟨exists_toTables_iff.1 ⟨tables, h⟩, (loadable_toTables h).ascending,
      fun t => mem_toTables_iff h⟩
  · rintro ⟨hall, hascending, hmem⟩
    obtain ⟨tables', h⟩ := exists_toTables_iff.2 hall
    have hsame : tables = tables' :=
      eq_of_ascending hascending (loadable_toTables h).ascending
        fun t => (hmem t).trans (mem_toTables_iff h).symm
    rw [hsame, h]

/-- Without tables for all definitions, the error is that of the first one that has none. -/
theorem toTables_eq_error :
    c.toTables = .error e ↔ ∃ id d, c.FirstRejected id d ∧ d.toTable id = .error e := by
  rw [toTables, mapM_eq_error_iff]
  constructor
  · rintro ⟨front, x, back, hsorted, hfront, hx⟩
    have hmem : x ∈ c.sorted := by rw [hsorted]; simp
    refine ⟨x.1, x.2, ⟨mem_sorted_iff.1 hmem, fun t ht => ?_, fun id' d' hd' hlt => ?_⟩, hx⟩
    · cases hx.symm.trans ht
    -- a lesser identifier stands in front, for those behind are greater
    have hascending := c.sorted_ascending
    have hmem' := mem_sorted_iff.2 hd'
    rw [hsorted, List.pairwise_append, List.pairwise_cons] at hascending
    rw [hsorted, List.mem_append, List.mem_cons] at hmem'
    rcases hmem' with hmem' | rfl | hmem'
    · exact hfront _ hmem'
    · exact absurd hlt (lt_irrefl _)
    · exact absurd hlt (lt_asymm (hascending.2.1.1 _ hmem'))
  · rintro ⟨id, d, ⟨hd, -, hleast⟩, he⟩
    obtain ⟨front, back, hsorted⟩ := List.append_of_mem (mem_sorted_iff.2 hd)
    refine ⟨front, (id, d), back, hsorted, fun x hx => ?_, he⟩
    have hascending := c.sorted_ascending
    rw [hsorted, List.pairwise_append] at hascending
    have hmem : x ∈ c.sorted := by rw [hsorted]; exact List.mem_append_left _ hx
    exact hleast x.1 x.2 (mem_sorted_iff.1 hmem)
      (hascending.2.2 x hx (id, d) List.mem_cons_self)

/-- There is one such identifier at most, for of two the lesser one would have a table. -/
theorem FirstRejected.unique {id id' : String} {d d' : Definition} (h : c.FirstRejected id d)
    (h' : c.FirstRejected id' d') : id = id' ∧ d = d' := by
  have hsame : id = id' := by
    rcases lt_trichotomy id id' with hlt | heq | hlt
    · obtain ⟨t, ht⟩ := h'.least id d h.get?_eq hlt
      exact absurd ht (h.rejected t)
    · exact heq
    · obtain ⟨t, ht⟩ := h.least id' d' h'.get?_eq hlt
      exact absurd ht (h'.rejected t)
  subst hsame
  exact ⟨rfl, Option.some.inj (h.get?_eq.symm.trans h'.get?_eq)⟩

/-! ## Orders -/

namespace Reorders

theorem symm (h : c.Reorders c') : c'.Reorders c where
  exists_right := by
    intro id d hd
    obtain ⟨d', hd', hreorders⟩ := h.exists_left id d hd
    exact ⟨d', hd', hreorders.symm⟩
  exists_left := by
    intro id d hd
    obtain ⟨d', hd', hreorders⟩ := h.exists_right id d hd
    exact ⟨d', hd', hreorders.symm⟩

theorem trans {c'' : Catalogue} (h : c.Reorders c') (h' : c'.Reorders c'') : c.Reorders c'' := by
  refine ⟨fun id d hd => ?_, fun id d hd => ?_⟩
  · obtain ⟨d', hd', hfirst⟩ := h.exists_right id d hd
    obtain ⟨d'', hd'', hsecond⟩ := h'.exists_right id d' hd'
    exact ⟨d'', hd'', hfirst.trans hsecond⟩
  · obtain ⟨d', hd', hsecond⟩ := h'.exists_left id d hd
    obtain ⟨d'', hd'', hfirst⟩ := h.exists_left id d' hd'
    exact ⟨d'', hd'', hfirst.trans hsecond⟩

theorem exists_toTable_of (h : c.Reorders c') {t : Table}
    (ht : ∃ id d, c.locales.get? id = some d ∧ d.toTable id = .ok t) :
    ∃ id d, c'.locales.get? id = some d ∧ d.toTable id = .ok t := by
  obtain ⟨id, d, hd, htable⟩ := ht
  obtain ⟨d', hd', hreorders⟩ := h.exists_right id d hd
  exact ⟨id, d', hd', hreorders.toTable_eq_ok_iff.2 htable⟩

theorem toTables_eq_ok_of (h : c.Reorders c') (htables : c.toTables = .ok tables) :
    c'.toTables = .ok tables := by
  obtain ⟨hall, hascending, hmem⟩ := toTables_eq_ok.1 htables
  refine toTables_eq_ok.2 ⟨fun id d' hd' => ?_, hascending, fun t => (hmem t).trans ⟨?_, ?_⟩⟩
  · obtain ⟨d, hd, hreorders⟩ := h.exists_left id d' hd'
    obtain ⟨t, ht⟩ := hall id d hd
    exact ⟨t, hreorders.toTable_eq_ok_iff.2 ht⟩
  · exact h.exists_toTable_of
  · exact h.symm.exists_toTable_of

/-- A catalogue has the same tables in every order. -/
theorem toTables_eq_ok_iff (h : c.Reorders c') :
    c'.toTables = .ok tables ↔ c.toTables = .ok tables :=
  ⟨h.symm.toTables_eq_ok_of, h.toTables_eq_ok_of⟩

/-- In every order the same definition is the first one that has no table. -/
theorem firstRejected (h : c.Reorders c') {id : String} {d : Definition}
    (hfirst : c.FirstRejected id d) : ∃ d', c'.FirstRejected id d' ∧ d.Reorders d' := by
  obtain ⟨d', hd', hreorders⟩ := h.exists_right id d hfirst.get?_eq
  refine ⟨d', ⟨hd', fun t ht => ?_, fun id' d₁' hd₁' hlt => ?_⟩, hreorders⟩
  · exact hfirst.rejected t (hreorders.toTable_eq_ok_iff.1 ht)
  · obtain ⟨d₁, hd₁, hreorders₁⟩ := h.exists_left id' d₁' hd₁'
    obtain ⟨t, ht⟩ := hfirst.least id' d₁ hd₁ hlt
    exact ⟨t, hreorders₁.toTable_eq_ok_iff.2 ht⟩

/-- What is wrong in some order is wrong with the first definition that has no table. -/
theorem exists_refuses_of (h : c.Reorders c') (he' : c'.toTables = .error e') :
    ∃ id d, c.FirstRejected id d ∧ d.Refuses id e' := by
  obtain ⟨id, d', hfirst', hd'⟩ := toTables_eq_error.1 he'
  obtain ⟨d, hfirst, hreorders⟩ := h.symm.firstRejected hfirst'
  exact ⟨id, d, hfirst, hreorders.refuses (Definition.refuses_of_toTable hd')⟩

/-- What is wrong in one order and in another is wrong with the same definition. -/
theorem exists_refuses {c₁ c₂ : Catalogue} (h₁ : c.Reorders c₁) (h₂ : c.Reorders c₂)
    (he : c₁.toTables = .error e) (he' : c₂.toTables = .error e') :
    ∃ id d, c.FirstRejected id d ∧ d.Refuses id e ∧ d.Refuses id e' := by
  obtain ⟨id, d, hfirst, hrefuses⟩ := h₁.exists_refuses_of he
  obtain ⟨id', d', hfirst', hrefuses'⟩ := h₂.exists_refuses_of he'
  obtain ⟨rfl, rfl⟩ := hfirst.unique hfirst'
  exact ⟨id, d, hfirst, hrefuses, hrefuses'⟩

end Reorders

/-- A definition of a catalogue can come in any order of its entries. -/
theorem reorders_insert {id : String} {d d' : Definition} (hd : c.locales.get? id = some d)
    (h : d.Reorders d') : c.Reorders ⟨c.locales.insert id d'⟩ := by
  have hget (other : String) : (c.locales.insert id d').get? other
      = if id = other then some d' else c.locales.get? other := Entries.get?_insert ..
  refine ⟨fun other x hx => ?_, fun other x hx => ?_⟩
  · by_cases hid : id = other
    · subst hid
      cases hd.symm.trans hx
      exact ⟨d', by rw [hget, if_pos rfl], h⟩
    · exact ⟨x, by rw [hget, if_neg hid, hx], .refl x⟩
  · rw [hget] at hx
    by_cases hid : id = other
    · subst hid
      rw [if_pos rfl] at hx
      cases hx
      exact ⟨d, hd, h⟩
    · rw [if_neg hid] at hx
      exact ⟨x, hx, .refl x⟩

/-- The errors in all orders are those that the first definition without a table can be refused
for. -/
theorem exists_reorders_toTables_iff :
    (∃ c', c.Reorders c' ∧ c'.toTables = .error e) ↔
      ∃ id d, c.FirstRejected id d ∧ d.Refuses id e := by
  constructor
  · rintro ⟨c', h, he⟩
    exact h.exists_refuses_of he
  · rintro ⟨id, d, hfirst, hrefuses⟩
    obtain ⟨d', hd', he⟩ := Definition.exists_reorders_of_refuses hrefuses
    have h := reorders_insert hfirst.get?_eq hd'
    obtain ⟨x, hx, -⟩ := h.firstRejected hfirst
    have hinsert : (c.locales.insert id d').get? id = some d' := by
      rw [Entries.get?_insert, if_pos rfl]
    cases hx.get?_eq.symm.trans hinsert
    exact ⟨_, h, toTables_eq_error.2 ⟨id, d', hx, he⟩⟩

end Elapsed.Locale.Catalogue
