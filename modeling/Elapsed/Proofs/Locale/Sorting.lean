import Elapsed.Proofs.Locale.Ordering
import Elapsed.Proofs.Utf8

/-!
# The tables of a catalogue are sorted

The definitions of a catalogue are checked in the order of their identifiers, and the first one that
has no table decides.  In what order they came does not matter.

*Success.*  There are tables exactly if each definition has its own; they are in the order of the
bytes of their identifiers (`utf8`), which is that of the characters.

*Failure.*  `Catalogue.FirstRejected`: the least identifier whose definition has no table, however
bad the definitions of greater ones are.  The error is one of this definition
(`Catalogue.toTables_eq_error`), and it is about this identifier
(`Definition.locale?_of_toTable`).

*Order.*  The definitions in another order are the same once they are sorted
(`Catalogue.sorted_eq_of_perm`).  If what is in them comes in another order as well, the same
definition is the first one that has no table (`Catalogue.Reorders.firstRejected`).
-/

namespace Elapsed.Locale

/-- The identifier of the locale that an error is about, if it is about one. -/
def Error.locale? : Error → Option String
  | unknownLocale id => some id
  | unknownUnit id _ => some id
  | duplicateUnit id _ => some id
  | missingUnit id _ => some id
  | wordCount id _ _ _ => some id
  | unknownFormat _ => none
  | unreadable _ _ => none
  | malformed _ _ => none

/-- A definition is refused under its own identifier. -/
theorem Definition.locale?_of_toTable {d : Definition} {id : String} {e : Error}
    (h : d.toTable id = .error e) : e.locale? = some id := by
  rcases refuses_of_toTable h with hname | ⟨-, _, u, _, -, -, htext⟩
  · cases hname with
    | unknown => rfl
    | duplicate => rfl
  · cases htext with
    | missing => rfl
    | wordCount => rfl

namespace Catalogue

variable {c c' : Catalogue}

/-- Sorted, the definitions are the same in whatever order they came. -/
theorem sorted_eq_of_perm (h : c'.locales.toList.Perm c.locales.toList) : c'.sorted = c.sorted := by
  refine List.Perm.eq_of_pairwise ?_ c'.sorted_ascending c.sorted_ascending ?_
  · exact fun a b _ _ hab hba => absurd hba (lt_asymm hab)
  · exact (List.mergeSort_perm _ _).trans (h.trans (List.mergeSort_perm _ _).symm)

/-- **The tables of a catalogue are sorted and complete, or the first bad definition is reported.**
There are tables exactly if each definition has its own.  Then there is one for each identifier, in
strictly ascending order of their bytes, which is the order of their characters, and each is the
table of the definition under its identifier.  Otherwise the error is that of the first definition
that has no table, and it is about its identifier.  In any order of the definitions the answer is
the same; if each of them comes in any order too, the tables are the same, and the error is one that
the same definition can be refused for. -/
theorem toTables_sorted (c : Catalogue) :
    ((∃ tables, c.toTables = .ok tables) ↔
      ∀ id d, c.locales.get? id = some d → ∃ t, d.toTable id = .ok t) ∧
    (∀ tables, c.toTables = .ok tables →
      (tables.map Table.id).Perm c.locales.keys ∧
      (tables.Pairwise fun s t => utf8 s.id < utf8 t.id) ∧
      ∀ t ∈ tables, ∃ d, c.locales.get? t.id = some d ∧ d.toTable t.id = .ok t) ∧
    (∀ s t : String, utf8 s < utf8 t ↔ s.toList < t.toList) ∧
    (∀ e, c.toTables = .error e ↔ ∃ id d, c.FirstRejected id d ∧ d.toTable id = .error e) ∧
    (∀ id d e, c.FirstRejected id d → d.toTable id = .error e → e.locale? = some id) ∧
    (∀ c' : Catalogue, c'.locales.toList.Perm c.locales.toList → c'.toTables = c.toTables) ∧
    ∀ c', c.Reorders c' →
      (∀ tables, c'.toTables = .ok tables ↔ c.toTables = .ok tables) ∧
      ∀ e e', c.toTables = .error e → c'.toTables = .error e' →
        ∃ id d, c.FirstRejected id d ∧ d.Refuses id e ∧ d.Refuses id e' := by
  refine ⟨exists_toTables_iff, fun tables htables => ⟨ids_perm_keys htables, ?_, ?_⟩, ?_,
    fun e => toTables_eq_error, fun id d e _ => Definition.locale?_of_toTable, ?_, ?_⟩
  · exact (toTables_eq_ok.1 htables).2.1.imp utf8_lt_iff.2
  · intro t ht
    obtain ⟨id, d, hd, htable⟩ := (mem_toTables_iff htables).1 ht
    rw [Definition.id_of_toTable htable]
    exact ⟨d, hd, htable⟩
  · exact fun s t => utf8_lt_iff.trans String.lt_iff_toList_lt
  · intro c' hperm
    rw [toTables, toTables, sorted_eq_of_perm hperm]
  · exact fun c' hreorders => ⟨fun tables => hreorders.toTables_eq_ok_iff,
      fun e e' he he' => (Reorders.refl c).exists_refuses hreorders he he'⟩

/-- Two bad definitions in two orders.  The one whose identifier has the greater first byte comes
first in one of them, and names a unit that is none; the other one is reported. -/
theorem toTables_sorted_rejected :
    let unknown : Definition := ⟨none, "", .ofList [("x", ⟨"", []⟩)]⟩
    let c : Catalogue := ⟨.ofList [("é", unknown), ("b", {})]⟩
    let c' : Catalogue := ⟨.ofList [("b", {}), ("é", unknown)]⟩
    c.FirstRejected "b" {} ∧ c.toTables = .error (.missingUnit "b" .week) ∧
      c'.toTables = c.toTables ∧ (Error.missingUnit "b" .week).locale? = some "b" := by
  intro unknown c c'
  obtain ⟨-, -, -, herror, hlocale, hperm, -⟩ := toTables_sorted c
  have hb : Definition.toTable {} "b" = .error (.missingUnit "b" .week) := rfl
  have hentries : c.locales.toList = [("é", unknown), ("b", {})] := by decide +kernel
  have hfirst : c.FirstRejected "b" {} := by
    refine ⟨by decide +kernel, fun t ht => ?_, fun id d hd hlt => ?_⟩
    · cases hb.symm.trans ht
    · have hmem := Entries.mem_toList_iff.2 hd
      rw [hentries, List.mem_cons, List.mem_singleton] at hmem
      rcases hmem with hmem | hmem
      · cases hmem
        exact absurd hlt (by decide +kernel)
      · cases hmem
        exact absurd hlt (lt_irrefl _)
  have horder : c'.locales.toList.Perm c.locales.toList := by decide +kernel
  exact ⟨hfirst, (herror _).2 ⟨"b", {}, hfirst, hb⟩, hperm c' horder, hlocale "b" {} _ hfirst hb⟩

end Catalogue

end Elapsed.Locale
