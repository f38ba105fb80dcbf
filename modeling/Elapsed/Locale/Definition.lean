import Elapsed.Entries
import Elapsed.Locale.Table

/-!
# Locale definitions

What a locale file says, before it is checked: definitions under their identifiers, and in each
definition the texts of units under the names the file gives them. `Definition.toTable` checks one
definition, `Catalogue.toTables` all of them in the order of their identifiers.

Definitions and texts are kept in maps, whose entries come in no order of their own. A walk through
them meets them in some order (`EntryOrder`), and the next walk perhaps in another.
-/

namespace Elapsed.Locale

/-- A locale as a file defines it. -/
structure Definition where
  /-- The plural rule; left to the identifier if it is missing. -/
  plural : Option PluralRule := none
  /-- The text between a number and a word. -/
  separator : String := " "
  /-- The texts of units, under the names the file gives them. -/
  units : Entries Forms := .empty
  deriving DecidableEq

/-- All that a locale file defines. -/
structure Catalogue where
  /-- The definitions under their identifiers. -/
  locales : Entries Definition := .empty
  deriving DecidableEq

namespace Definition

/-- The plural rule of a definition under its identifier. -/
def rule (d : Definition) (id : String) : PluralRule :=
  d.plural.getD (PluralRule.ofLocale id)

/-- Files the texts of named units under their units, beside those filed before. -/
def collect (id : String) (filed : TimeUnit → Option Forms) :
    List (String × Forms) → Except Error (TimeUnit → Option Forms)
  | [] => .ok filed
  | (name, forms) :: rest =>
    match TimeUnit.ofName name with
    | .error cause => .error (.unknownUnit id cause)
    | .ok u =>
      if (filed u).isSome then .error (.duplicateUnit id u)
      else collect id (fun v => if v = u then some forms else filed v) rest

/-- The table of a definition: every name has to name a unit, no unit may be named twice, and the
table has to be complete. -/
def toTable (d : Definition) (id : String) : Except Error Table := do
  let forms ← collect id (fun _ => none) d.units.toList
  Table.validate ⟨id, d.rule id, d.separator, forms⟩

end Definition

namespace Catalogue

/-- The definitions in ascending order of their identifiers. -/
def sorted (c : Catalogue) : List (String × Definition) :=
  c.locales.toList.mergeSort fun a b => a.1 ≤ b.1

/-- The tables of all definitions in ascending order of their identifiers, or what is wrong with
the first definition in that order that has no table. -/
def toTables (c : Catalogue) : Except Error (List Table) :=
  c.sorted.mapM fun e => e.2.toTable e.1

end Catalogue

/-! ## Orders -/

/-- Whether a definition has the entries of another one in some order, and all else alike. -/
structure Definition.Reorders (d d' : Definition) : Prop where
  plural : d'.plural = d.plural
  separator : d'.separator = d.separator
  units : d'.units.toList.Perm d.units.toList

theorem Definition.Reorders.refl (d : Definition) : d.Reorders d :=
  ⟨rfl, rfl, .rfl⟩

/-- Whether two catalogues have the same definitions in some order, and each of them has its
entries in some order. -/
structure Catalogue.Reorders (c c' : Catalogue) : Prop where
  exists_right : ∀ id d, c.locales.get? id = some d →
    ∃ d', c'.locales.get? id = some d' ∧ d.Reorders d'
  exists_left : ∀ id d', c'.locales.get? id = some d' →
    ∃ d, c.locales.get? id = some d ∧ d.Reorders d'

theorem Catalogue.Reorders.refl (c : Catalogue) : c.Reorders c :=
  ⟨fun _ d hd => ⟨d, hd, .refl d⟩, fun _ d hd => ⟨d, hd, .refl d⟩⟩

/-- An order in which the entries of maps are met. -/
structure EntryOrder where
  /-- A catalogue with its entries, and those of its definitions, in this order. -/
  arrange : Catalogue → Catalogue
  reorders : ∀ c : Catalogue, c.Reorders (arrange c)

/-- The order in which the entries were put into the maps. -/
def EntryOrder.given : EntryOrder where
  arrange c := c
  reorders := .refl

end Elapsed.Locale
