import Elapsed.Document.Tree
import Elapsed.Locale.Definition

/-!
# The layout of a locale file

How a catalogue of locale definitions is laid out in a document: `Catalogue.ofDocument?` reads the
value of a document of any format, and `Catalogue.toTree` writes a tree. The file, a definition and
the texts of a unit are *records*: their fields have fixed names, some of them two names, and
unknown fields are passed over. Definitions by identifier and texts by unit name are *maps*: every
name in them is data.
-/

namespace Elapsed.Locale

open Elapsed.Document

/-- What the values of a format of documents are to a locale file. -/
structure Conventions (α : Type) where
  /-- The shape of a value. -/
  shape : α → Shape α
  /-- The text that a value stands for where a text is wanted. -/
  text? : α → Option String
  /-- Whether a value says that a name has no content. -/
  isVoid : α → Bool
  /-- Whether a record written as a list may hold more items than the record has fields. -/
  surplusItems : Bool
  /-- Whether a name without content may have other names behind it, which do not count. -/
  surplusNames : Bool

/-! ## Reading -/

section Reading

variable {α : Type} (conv : Conventions α)

/-- The items of a list, each read in the same way. -/
def listOf? {β : Type} (item : α → Option β) (v : α) : Option (List β) :=
  match conv.shape v with
  | .list items => items.mapM item
  | _ => none

/-- An entry of a map. Only texts are names in it. -/
def entryOf? {β : Type} (value : α → Option β) (e : Name × α) : Option (String × β) :=
  match e.1 with
  | .text name => (value e.2).map fun v => (name, v)
  | _ => none

/-- The entries of a map, each value read in the same way. The last value under a name stays, but
all of them have to be readable. -/
def mapOf? {β : Type} (value : α → Option β) (v : α) : Option (Entries β) :=
  match conv.shape v with
  | .table entries => (entries.mapM (entryOf? value)).map Entries.ofList
  | _ => none

/-- Whether something names the field of a record at a place: by one of its names, or by the
place. -/
def isFieldName (names : List String) (place : Nat) : Name → Bool
  | .text name => names.contains name
  | .place n => n == place
  | .other => false

/-- The value of a field among entries, under any of its names. Giving it twice is an error. -/
def field? (names : List String) (place : Nat) (entries : List (Name × α)) : Option (Option α) :=
  match entries.filter fun e => isFieldName names place e.1 with
  | [] => some none
  | [e] => some (some e.2)
  | _ => none

/-- The values of the fields of a record in order, each of them missing or given. A record is a
table, or a list of its fields from the first on. -/
def fields? (fields : List (List String)) (v : α) : Option (List (Option α)) :=
  match conv.shape v with
  | .table entries =>
    if entries.any (·.1 == .other) then none
    else fields.zipIdx.mapM fun f => field? f.1 f.2 entries
  | .list items =>
    if items.length ≤ fields.length || conv.surplusItems then
      some ((List.range fields.length).map (items[·]?))
    else none
  | _ => none

/-- The plural rule that something names: by the rule's name, or by its place among all rules. -/
def ruleOf? : Name → Option PluralRule
  | .text name => PluralRule.ofName? name
  | .place n => PluralRule.all[n]?
  | .other => none

/-- The plural rule of a definition: nothing, a name, or a name without content. -/
def pluralOf? (v : α) : Option (Option PluralRule) :=
  match conv.shape v with
  | .null => some none
  | .text s => (PluralRule.ofName? s).map some
  | .table ((name, content) :: rest) =>
    if conv.isVoid content && (rest.isEmpty || conv.surplusNames) then (ruleOf? name).map some
    else none
  | _ => none

/-- The texts of a unit; both fields are needed. -/
def Forms.ofDocument? (v : α) : Option Forms := do
  match ← fields? conv [["abbreviation"], ["words"]] v with
  | [some abbreviation, some words] =>
    return {
      abbreviation := ← conv.text? abbreviation
      words := ← listOf? conv conv.text? words }
  | _ => none

/-- A definition; every field may be missing. -/
def Definition.ofDocument? (v : α) : Option Definition := do
  match ← fields? conv [["plural"], ["separator"], ["units", "unit"]] v with
  | [plural, separator, units] =>
    return {
      plural := ← plural.elim (some none) (pluralOf? conv)
      separator := ← separator.elim (some " ") conv.text?
      units := ← units.elim (some .empty) (mapOf? conv (Forms.ofDocument? conv)) }
  | _ => none

/-- A catalogue; its only field may be missing. -/
def Catalogue.ofDocument? (v : α) : Option Catalogue := do
  match ← fields? conv [["locales", "locale"]] v with
  | [locales] =>
    return {
      locales := ← locales.elim (some .empty) (mapOf? conv (Definition.ofDocument? conv)) }
  | _ => none

end Reading

/-! ## Writing -/

/-- A map of values that are each written in the same way. -/
def mapTree {α : Type} (value : α → Tree) (m : Entries α) : Tree :=
  .table (m.toList.map fun e => (e.1, value e.2))

/-- The tree of a unit's texts. -/
def Forms.toTree (f : Forms) : Tree :=
  .table [("abbreviation", .text f.abbreviation), ("words", .list (f.words.map .text))]

/-- The tree of a definition. -/
def Definition.toTree (d : Definition) : Tree :=
  .table [
    ("plural", d.plural.elim .null fun rule => .text rule.name),
    ("separator", .text d.separator),
    ("units", mapTree Forms.toTree d.units)]

/-- The tree of a catalogue. -/
def Catalogue.toTree (c : Catalogue) : Tree :=
  .table [("locales", mapTree Definition.toTree c.locales)]

end Elapsed.Locale
