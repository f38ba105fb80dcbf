import Elapsed.Locale.Error

/-!
# Locale tables

The words of a language for the units of time. A table that went through `Table.validate` is
complete (`Table.Complete`): it has forms for every unit, as many words as its plural rule picks
from. Looking up a word in a table that is not complete still gives a text.
-/

namespace Elapsed.Locale

/-- The texts of a language for one unit. -/
structure Forms where
  /-- The short mark of the unit. -/
  abbreviation : String
  /-- The forms of the word, in the order in which plural rules count them. -/
  words : List String
  deriving DecidableEq

/-- The texts of a language for all units. -/
structure Table where
  /-- The identifier of the locale. -/
  id : String
  /-- The rule that picks the form of a word. -/
  rule : PluralRule
  /-- The text between a number and a word. -/
  separator : String
  /-- The texts of each unit. -/
  forms? : TimeUnit → Option Forms

namespace Table

/-! ## Validation -/

/-- Whether a table has forms for every unit, as many words as its rule picks from. -/
def Complete (t : Table) : Prop :=
  ∀ u, ∃ f, t.forms? u = some f ∧ f.words.length = t.rule.arity

/-- What is wrong with a unit of a table. -/
def fault? (t : Table) (u : TimeUnit) : Option Error :=
  match t.forms? u with
  | none => some (.missingUnit t.id u)
  | some f =>
    if f.words.length = t.rule.arity then none
    else some (.wordCount t.id u t.rule f.words.length)

/-- The table itself if it is complete, else what is wrong with its longest faulty unit. -/
def validate (t : Table) : Except Error Table :=
  match TimeUnit.all.findSome? t.fault? with
  | some e => .error e
  | none => .ok t

theorem fault?_eq_none_iff {t : Table} {u : TimeUnit} :
    t.fault? u = none ↔ ∃ f, t.forms? u = some f ∧ f.words.length = t.rule.arity := by
  unfold fault?
  cases t.forms? u with
  | none => simp
  | some f => simp

/-- Validation lets complete tables pass as they are, and no others. -/
theorem validate_eq_ok_iff {t t' : Table} : t.validate = .ok t' ↔ t' = t ∧ t.Complete := by
  have hnone : TimeUnit.all.findSome? t.fault? = none ↔ t.Complete := by
    simp only [List.findSome?_eq_none_iff, fault?_eq_none_iff]
    exact ⟨fun h u => h u (TimeUnit.mem_all u), fun h u _ => h u⟩
  unfold validate
  cases h : TimeUnit.all.findSome? t.fault? with
  | none => simp [hnone.1 h, eq_comm]
  | some e =>
    have : ¬ t.Complete := fun hc => by simp [hnone.2 hc] at h
    simp [this]

/-! ## Looking up texts -/

/-- The form of a unit's word that a number takes, without the separator. -/
def form (t : Table) (u : TimeUnit) (value : UInt64) : String :=
  match t.forms? u with
  | none => ""
  | some f => ((f.words[t.rule.pick value.toNat]?).or f.words.getLast?).getD ""

/-- The short mark of a unit. -/
def abbreviation (t : Table) (u : TimeUnit) : String :=
  (t.forms? u).elim "" Forms.abbreviation

/-- The separator and the form of a unit's word that a number takes. -/
def word (t : Table) (u : TimeUnit) (value : UInt64) : String :=
  t.separator ++ t.form u value

/-- A table as the language of a renderer. -/
def localizer (t : Table) : Localizer where
  abbreviation := t.abbreviation
  word := t.word

/-- The units a table has texts for with these texts, the longest unit first. -/
def units (t : Table) : List (TimeUnit × Forms) :=
  TimeUnit.all.filterMap fun u => (t.forms? u).map fun f => (u, f)

end Table

end Elapsed.Locale
