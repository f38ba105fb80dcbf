import Elapsed.Proofs.Locale.Ordering
import Elapsed.Proofs.Locale.Run

/-!
# Two loads of one document

A load walks through the maps of a decoded document, and they come in another order every time.  If
several names of a definition are at fault, the one that is met first is reported.  So two loads of
one document may report different errors; in all else they agree.

*Results.*  `Table.parseAll_eq_ok_iff`: the tables of a document are a matter of what it is decoded
to.  `Table.exists_parseAll_eq_error_iff`: without tables, the decoder's message is reported, or
what the first definition without a table can be refused for.  `ResultsAgree` is what this leaves of
two results.

*Loads.*  `Outcome.Agrees`: if the results of two loads agree, the registries they leave are the
same, and so are the events (`Registry.agrees_loadText`, `Registry.agrees_loadFile`).

*Operations.*  `Operation.inOrder` is an operation with its maps in another order.  It registers the
same tables, so it leaves the very same registry (`Operation.apply_inOrder`).
-/

namespace Elapsed.Locale

/-! ## Results -/

/-- Whether two results of loading what is decoded to a catalogue agree: they are the same, or each
is something that the first definition without a table can be refused for. -/
inductive ResultsAgree {α : Type} (Decodes : Catalogue → Prop) :
    Except Error α → Except Error α → Prop where
  | same (x : Except Error α) : ResultsAgree Decodes x x
  | refused {c : Catalogue} {id : String} {d : Definition} {e e' : Error} (hc : Decodes c)
      (hfirst : c.FirstRejected id d) (he : d.Refuses id e) (he' : d.Refuses id e') :
      ResultsAgree Decodes (.error e) (.error e')

namespace ResultsAgree

variable {α β : Type} {Decodes Decodes' : Catalogue → Prop} {x y : Except Error α}

theorem map (h : ResultsAgree Decodes x y) (f : α → β) :
    ResultsAgree Decodes (x.map f) (y.map f) := by
  cases h with
  | same x => exact .same _
  | refused hc hfirst he he' => exact .refused hc hfirst he he'

theorem imp (h : ResultsAgree Decodes x y) (himp : ∀ c, Decodes c → Decodes' c) :
    ResultsAgree Decodes' x y := by
  cases h with
  | same x => exact .same x
  | refused hc hfirst he he' => exact .refused (himp _ hc) hfirst he he'

/-- Of results that agree, both are successes or none is. -/
theorem eq_ok_iff (h : ResultsAgree Decodes x y) {a : α} : x = .ok a ↔ y = .ok a := by
  cases h with
  | same x => exact Iff.rfl
  | refused => simp

/-- The tables of a catalogue in one order and in another. -/
theorem toTables {c c₁ c₂ : Catalogue} (hc : Decodes c) (h₁ : c.Reorders c₁)
    (h₂ : c.Reorders c₂) : ResultsAgree Decodes c₁.toTables c₂.toTables := by
  cases he₁ : c₁.toTables with
  | ok tables =>
      rw [h₂.toTables_eq_ok_of (h₁.toTables_eq_ok_iff.1 he₁)]
      exact .same _
  | error e =>
      cases he₂ : c₂.toTables with
      | ok tables => cases he₁.symm.trans (h₁.toTables_eq_ok_of (h₂.toTables_eq_ok_iff.1 he₂))
      | error e' =>
          obtain ⟨id, d, hfirst, he, he'⟩ := h₁.exists_refuses h₂ he₁ he₂
          exact .refused hc hfirst he he'

end ResultsAgree

/-! ## Documents -/

/-- The order in which the entries were put into the maps, but for those of one catalogue, which
come in another one. -/
def EntryOrder.instead {c c' : Catalogue} (h : c.Reorders c') : EntryOrder where
  arrange x := if x = c then c' else x
  reorders x := by
    split
    · rename_i hx
      exact hx ▸ h
    · exact .refl x

theorem EntryOrder.arrange_instead {c c' : Catalogue} (h : c.Reorders c') :
    (instead h).arrange c = c' :=
  if_pos rfl

namespace Table

variable {decode : Decoder} {order : EntryOrder} {format : Format} {content : String}
variable {tables : List Table} {e : Error}

/-- The tables of a document are those of what it is decoded to, whatever the order. -/
theorem parseAll_eq_ok_iff : parseAll decode order format content = .ok tables ↔
    ∃ c, decode format content = .ok c ∧ c.toTables = .ok tables := by
  cases hdecode : decode format content with
  | error message => simp [parseAll_of_error hdecode]
  | ok c => simp [parseAll_of_ok hdecode, (order.reorders c).toTables_eq_ok_iff]

/-- Without tables, it is the decoder that fails, or the first definition that has none; and
whatever this can be refused for, it is refused for in some order. -/
theorem exists_parseAll_eq_error_iff :
    (∃ order, parseAll decode order format content = .error e) ↔
      (∃ message, decode format content = .error message ∧ e = .malformed format message) ∨
        ∃ c id d, decode format content = .ok c ∧ c.FirstRejected id d ∧ d.Refuses id e := by
  constructor
  · rintro ⟨order, h⟩
    cases hdecode : decode format content with
    | error message =>
        cases (parseAll_of_error hdecode order).symm.trans h
        exact .inl ⟨message, rfl, rfl⟩
    | ok c =>
        rw [parseAll_of_ok hdecode] at h
        obtain ⟨id, d, hfirst, hrefuses⟩ := (order.reorders c).exists_refuses_of h
        exact .inr ⟨c, id, d, rfl, hfirst, hrefuses⟩
  · rintro (⟨message, hdecode, rfl⟩ | ⟨c, id, d, hdecode, hfirst, hrefuses⟩)
    · exact ⟨.given, parseAll_of_error hdecode .given⟩
    · obtain ⟨c', hreorders, he⟩ :=
        Catalogue.exists_reorders_toTables_iff.2 ⟨id, d, hfirst, hrefuses⟩
      refine ⟨.instead hreorders, ?_⟩
      rw [parseAll_of_ok hdecode, EntryOrder.arrange_instead, he]

theorem resultsAgree_parseAll (decode : Decoder) (order order' : EntryOrder) (format : Format)
    (content : String) : ResultsAgree (decode format content = .ok ·)
      (parseAll decode order format content) (parseAll decode order' format content) := by
  cases hdecode : decode format content with
  | error message =>
      rw [parseAll_of_error hdecode, parseAll_of_error hdecode]
      exact .same _
  | ok c =>
      rw [parseAll_of_ok hdecode, parseAll_of_ok hdecode]
      exact .toTables rfl (order.reorders c) (order'.reorders c)

end Table

/-- Whether a file is decoded to a catalogue. -/
def Decoder.DecodesFile (decode : Decoder) (read : Reader) (path : String) (c : Catalogue) : Prop :=
  ∃ format content, Format.ofPath? path = some format ∧ read path = .ok content ∧
    decode format content = .ok c

theorem Table.resultsAgree_readAll (decode : Decoder) (order order' : EntryOrder) (read : Reader)
    (path : String) : ResultsAgree (decode.DecodesFile read path)
      (readAll decode order read path) (readAll decode order' read path) := by
  rw [readAll, readAll]
  cases hformat : Format.ofPath? path with
  | none => exact .same _
  | some format =>
      cases hread : read path with
      | error cause => exact .same _
      | ok content =>
          exact (resultsAgree_parseAll decode order order' format content).imp fun c hc =>
            ⟨format, content, hformat, hread, hc⟩

/-! ## Loads -/

/-- Whether two loads agree: in their results up to the order of the maps, in all else entirely. -/
structure Outcome.Agrees (Decodes : Catalogue → Prop) (done done' : Outcome Nat) : Prop where
  result : ResultsAgree Decodes done.result done'.result
  registry : done.registry = done'.registry
  events : done.events = done'.events

namespace Registry

theorem agrees_loadText (r : Registry) (decode : Decoder) (order order' : EntryOrder)
    (format : Format) (content : String) : Outcome.Agrees (decode format content = .ok ·)
      (r.loadText decode order format content) (r.loadText decode order' format content) := by
  have h := Table.resultsAgree_parseAll decode order order' format content
  rw [loadText, loadText]
  generalize Table.parseAll decode order format content = x,
    Table.parseAll decode order' format content = y at h
  cases h with
  | same x => exact ⟨.same _, rfl, rfl⟩
  | refused hc hfirst he he' => exact ⟨.refused hc hfirst he he', rfl, rfl⟩

theorem agrees_loadFile (r : Registry) (decode : Decoder) (order order' : EntryOrder)
    (read : Reader) (path : String) : Outcome.Agrees (decode.DecodesFile read path)
      (r.loadFile decode order read path) (r.loadFile decode order' read path) := by
  have h := Table.resultsAgree_readAll decode order order' read path
  rw [loadFile, loadFile]
  generalize Table.readAll decode order read path = x,
    Table.readAll decode order' read path = y at h
  cases h with
  | same x => exact ⟨.same _, rfl, rfl⟩
  | refused hc hfirst he he' => exact ⟨.refused hc hfirst he he', rfl, rfl⟩

/-- A document with a locale of which two units have names that are none. -/
def faultyDocument : String :=
  "[locale.nl_NL.unit]\na = [\"\", []]\nb = [\"\", []]"

/-- Either name is reported, if it is met first. -/
example :
    let units : List (String × Forms) := [("a", ⟨"", []⟩), ("b", ⟨"", []⟩)]
    let c : Catalogue := ⟨.ofList [("nl_NL", { units := .ofList units })]⟩
    let d : Definition := { units := .ofList units.reverse }
    (initial.loadText .terse .given .toml faultyDocument).result
        = .error (.unknownUnit "nl_NL" ⟨"a"⟩) ∧
      ∃ h : c.Reorders ⟨c.locales.insert "nl_NL" d⟩,
        (initial.loadText .terse (.instead h) .toml faultyDocument).result
          = .error (.unknownUnit "nl_NL" ⟨"b"⟩) := by
  intro units c d
  exact ⟨by decide +kernel, Catalogue.reorders_insert rfl ⟨rfl, rfl, by decide +kernel⟩,
    by decide +kernel⟩

end Registry

/-! ## Operations -/

namespace Operation

/-- Whether an operation loads what is decoded to a catalogue. -/
def Decodes : Operation → Catalogue → Prop
  | loadText decode _ format content, c => decode format content = .ok c
  | loadFile decode _ read path, c => decode.DecodesFile read path c
  | _, _ => False

/-- The same operation with the maps it meets in another order. -/
def inOrder (order : EntryOrder) : Operation → Operation
  | loadText decode _ format content => loadText decode order format content
  | loadFile decode _ read path => loadFile decode order read path
  | op => op

variable (order : EntryOrder) (op : Operation)

theorem apply_inOrder (r : Registry) : (op.inOrder order).apply r = op.apply r := by
  cases op with
  | loadText decode order' format content =>
      exact (r.agrees_loadText decode order order' format content).registry
  | loadFile decode order' read path =>
      exact (r.agrees_loadFile decode order order' read path).registry
  | _ => rfl

end Operation

end Elapsed.Locale
