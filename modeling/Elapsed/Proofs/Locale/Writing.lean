import Elapsed.Locale.Load
import Elapsed.Proofs.Document.Json
import Elapsed.Proofs.Locale.Ordering

/-!
# A written catalogue is read back

Writing a catalogue and reading it are not each other's mirror: a field is written under one name
and read under several, a rule that is missing is written as null and read whether it is null or not
there, and names of fields stand beside names that are data.

* `mapOf?_mapTree` — a map is read back whatever its names are, for none of them is looked at;
* `Forms.ofDocument?_toTree`, `Definition.ofDocument?_toTree`, `Catalogue.ofDocument?_toTree` — a
  record is read back if the value of each of its fields is.

Together with `Json.read_write` for the text, `Catalogue.parse_write`: the catalogue that is read is
the one that was written, and it has the same tables, or the same faults.
-/

namespace Elapsed

theorem PluralRule.ofName?_name (rule : PluralRule) : ofName? rule.name = some rule := by
  cases rule <;> decide +kernel

namespace Locale

open Elapsed.Document

/-! ## Maps -/

/-- A list is read back if each of its items is. -/
theorem listOf?_map {α : Type} {read : Tree → Option α} {write : α → Tree} {items : List α}
    (h : ∀ a ∈ items, read (write a) = some a) :
    listOf? jsonConventions read (.list (items.map write)) = some items :=
  mapM_map_eq_some h

/-- A map is read back if each of its values is, whatever its names are. -/
theorem mapOf?_mapTree {α : Type} {read : Tree → Option α} {write : α → Tree} (m : Entries α)
    (h : ∀ a, read (write a) = some a) :
    mapOf? jsonConventions read (mapTree write m) = some m := by
  have hentries : (m.toList.map fun e => (Name.text e.1, write e.2)).mapM (entryOf? read)
      = some m.toList := by
    refine mapM_map_eq_some fun e _ => ?_
    rw [entryOf?, h]
    rfl
  have hshape : jsonConventions.shape (mapTree write m)
      = .table (m.toList.map fun e => (Name.text e.1, write e.2)) := by
    simp [jsonConventions, mapTree, Tree.shape, Function.comp_def]
  rw [mapOf?, hshape]
  simp only [hentries, Option.map_some, Entries.ofList_toList]

/-! ## Records -/

theorem Forms.ofDocument?_toTree (f : Forms) :
    Forms.ofDocument? jsonConventions f.toTree = some f := by
  have hfields : fields? jsonConventions [["abbreviation"], ["words"]] f.toTree
      = some [some (.text f.abbreviation), some (.list (f.words.map .text))] := by
    simp [fields?, field?, isFieldName, jsonConventions, Tree.shape, Forms.toTree]
  have habbreviation : jsonConventions.text? (.text f.abbreviation) = some f.abbreviation := rfl
  have hwords : listOf? jsonConventions jsonConventions.text? (.list (f.words.map .text))
      = some f.words := listOf?_map fun _ _ => rfl
  rw [ofDocument?, hfields]
  simp [habbreviation, hwords]

/-- A rule is read back, and so is that there is none. -/
theorem pluralOf?_written (plural : Option PluralRule) :
    pluralOf? jsonConventions (plural.elim .null fun rule => .text rule.name) = some plural := by
  cases plural with
  | none => rfl
  | some rule =>
      have hshape : jsonConventions.shape (.text rule.name) = .text rule.name := rfl
      rw [Option.elim_some, pluralOf?, hshape]
      simp only [PluralRule.ofName?_name, Option.map_some]

theorem Definition.ofDocument?_toTree (d : Definition) :
    Definition.ofDocument? jsonConventions d.toTree = some d := by
  have hfields : fields? jsonConventions [["plural"], ["separator"], ["units", "unit"]] d.toTree
      = some [some (d.plural.elim .null fun rule => .text rule.name), some (.text d.separator),
        some (mapTree Forms.toTree d.units)] := by
    simp [fields?, field?, isFieldName, jsonConventions, Tree.shape, Definition.toTree]
  have hseparator : jsonConventions.text? (.text d.separator) = some d.separator := rfl
  have hunits := mapOf?_mapTree d.units Forms.ofDocument?_toTree
  rw [ofDocument?, hfields]
  simp [pluralOf?_written, hseparator, hunits]

theorem Catalogue.ofDocument?_toTree (c : Catalogue) :
    Catalogue.ofDocument? jsonConventions c.toTree = some c := by
  have hfields : fields? jsonConventions [["locales", "locale"]] c.toTree
      = some [some (mapTree Definition.toTree c.locales)] := by
    simp [fields?, field?, isFieldName, jsonConventions, Tree.shape, Catalogue.toTree]
  have hlocales := mapOf?_mapTree c.locales Definition.ofDocument?_toTree
  rw [ofDocument?, hfields]
  simp [hlocales]

/-! ## Documents -/

namespace Catalogue

variable {c : Catalogue} {content : String} {explain : Format → String → String}

/-- Whatever text the tree of a catalogue is written in, the catalogue is read from it. -/
theorem standard_of_read (h : Json.read content.toList = some c.toTree) :
    Decoder.standard explain .json content = .ok c := by
  have htext : ofText? .json content.toList = some c := by
    rw [ofText?, h]
    exact ofDocument?_toTree c
  rw [Decoder.standard, htext]

theorem parse_of_read (h : Json.read content.toList = some c.toTree) :
    Catalogue.parse (.standard explain) .json content = .ok c := by
  rw [parse, standard_of_read h]

/-- **A written catalogue is read back.**  From its JSON text, or any other JSON text of the same
tree, the catalogue is read that was written, whatever its names and texts are, so the tables are
those of the catalogue, in whatever order its entries are met.  If the entries come in another order
than they were in, they still are; and if there are none, what is wrong is something that the same
definition can be refused for. -/
theorem parse_write (c : Catalogue) (explain : Format → String → String) (order : EntryOrder) :
    let text := String.ofList (Json.write c.toTree)
    (Catalogue.parse (.standard explain) .json text = .ok c ∧
      Table.parseAll (.standard explain) order .json text = (order.arrange c).toTables) ∧
    (∀ content : String, Json.read content.toList = some c.toTree →
      Catalogue.parse (.standard explain) .json content = .ok c ∧
        Table.parseAll (.standard explain) order .json content = (order.arrange c).toTables) ∧
    ∀ c', c.Reorders c' →
      (∀ tables, Table.parseAll (.standard explain) order .json text = .ok tables ↔
        c'.toTables = .ok tables) ∧
      ∀ e', c'.toTables = .error e' →
        ∃ e id d, Table.parseAll (.standard explain) order .json text = .error e ∧
          c.locales.get? id = some d ∧ d.Refuses id e ∧ d.Refuses id e' := by
  intro text
  have hread : Json.read text.toList = some c.toTree := by
    rw [String.toList_ofList]
    exact Json.read_write c.toTree
  have htables {content : String} (h : Json.read content.toList = some c.toTree) :
      Table.parseAll (.standard explain) order .json content = (order.arrange c).toTables :=
    Table.parseAll_of_ok (standard_of_read h) order
  refine ⟨⟨parse_of_read hread, htables hread⟩,
    fun content h => ⟨parse_of_read h, htables h⟩, fun c' h => ⟨fun tables => ?_, ?_⟩⟩
  · rw [htables hread, (order.reorders c).toTables_eq_ok_iff, h.toTables_eq_ok_iff]
  · intro e' he'
    rw [htables hread]
    cases he : (order.arrange c).toTables with
    | ok tables =>
        have hok := h.toTables_eq_ok_of ((order.reorders c).toTables_eq_ok_iff.1 he)
        cases hok.symm.trans he'
    | error e =>
        obtain ⟨id, d, hfirst, hrefuses, hrefuses'⟩ := (order.reorders c).exists_refuses h he he'
        exact ⟨e, id, d, rfl, hfirst.get?_eq, hrefuses, hrefuses'⟩

/-- Names that are no units in two orders, one of them that of a field, under an identifier that is
the name of a field too. -/
theorem parse_write_reserved_names :
    let f : Forms := ⟨"é", ["\\", "\"", "\n"]⟩
    let d : Definition := ⟨none, "", .ofList [("units", f), ("", f)]⟩
    let d' : Definition := ⟨none, "", .ofList [("", f), ("units", f)]⟩
    let c : Catalogue := ⟨.ofList [("locale", d)]⟩
    let c' : Catalogue := ⟨.ofList [("locale", d')]⟩
    let content := String.ofList ('\n' :: Json.write c.toTree)
    (Json.read content.toList = some c.toTree ∧ Catalogue.parse .terse .json content = .ok c) ∧
      c.Reorders c' ∧ c'.toTables = .error (.unknownUnit "locale" ⟨""⟩) ∧
      ∃ e id d,
        Table.parseAll .terse .given .json (String.ofList (Json.write c.toTree)) = .error e ∧
        c.locales.get? id = some d ∧ d.Refuses id e ∧
        d.Refuses id (.unknownUnit "locale" ⟨""⟩) := by
  intro f d d' c c' content
  have hblank : Json.read content.toList = some c.toTree := by
    rw [String.toList_ofList, Json.read, Json.lex, if_pos (by decide)]
    exact Json.read_write c.toTree
  have hunits : d'.units.toList.Perm d.units.toList := by decide +kernel
  have hinsert : (⟨c.locales.insert "locale" d'⟩ : Catalogue) = c' := by decide +kernel
  have horder : c.Reorders c' := by
    rw [← hinsert]
    exact reorders_insert rfl ⟨rfl, rfl, hunits⟩
  have herror : c'.toTables = .error (.unknownUnit "locale" ⟨""⟩) := by
    have hmap : c'.toTables.map (fun _ => ()) = .error (.unknownUnit "locale" ⟨""⟩) := by
      decide +kernel
    cases htables : c'.toTables with
    | ok tables =>
        rw [htables] at hmap
        cases hmap
    | error e =>
        rw [htables] at hmap
        cases hmap
        rfl
  obtain ⟨-, hread, hany⟩ := parse_write c (fun _ _ => "") .given
  exact ⟨⟨hblank, (hread content hblank).1⟩, horder, herror, (hany c' horder).2 _ herror⟩

end Catalogue

end Locale

end Elapsed
