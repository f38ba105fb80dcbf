import Elapsed.Proofs.Locale.Checking
import Elapsed.Proofs.Template.Composition

/-!
# Names of units

The name of a unit is read in two places.  A locale file has its texts under such names, and a
template can spell a unit out between two braces.  The one reader takes an `s` off the end and
compares whole names; the other one starts from a letter and compares what is behind it.

*One spelling.*  `TimeUnit.SpelledBy` says what both of them are after: the name, singular or
plural, in any ASCII case.  No name ends in `s` itself, so the `s` that is taken off was put there
for the plural (`TimeUnit.ofName?_eq_some_iff`).  Every name is the letter of the unit with the stem
of its selector behind it, so a code with one letter and a word is such a name, and the other way
round (`Placeholder.namesUnit_iff`).

So a text is the name of a unit for both readers or for neither (`TimeUnit.recognisers_agree`).
-/

namespace Elapsed

/-! ## Spellings -/

namespace TimeUnit

/-- Whether a text spells the name of a unit: singular or plural, in any ASCII case. -/
def SpelledBy (u : TimeUnit) (text : List Char) : Prop :=
  lowerCase text = u.name.toList ∨ lowerCase text = u.name.toList ++ ['s']

theorem toList_name (u : TimeUnit) : u.name.toList = u.letter :: (Selector.fixed u).stem := by
  cases u <;> decide

theorem getLast?_name (u : TimeUnit) : u.name.toList.getLast? ≠ some 's' := by
  cases u <;> decide

theorem not_spelledBy_nil (u : TimeUnit) : ¬ u.SpelledBy [] := by
  cases u <;> simp [SpelledBy, lowerCase, name]

end TimeUnit

theorem Suffix.spelled_word_iff {s : Selector} {word : List Char} :
    Spelled s .word word ↔ lowerCase word = s.stem ∨ lowerCase word = s.stem ++ ['s'] := by
  rw [← Selector.completes_iff, Selector.completes, Bool.or_eq_true, beq_iff_eq, beq_iff_eq]

/-- A name is a letter of the unit, in either case, and a word that completes it. -/
theorem TimeUnit.spelledBy_cons_iff {u : TimeUnit} {c : Char} {rest : List Char} :
    u.SpelledBy (c :: rest) ↔ c.toLower = u.letter ∧ Suffix.Spelled (.fixed u) .word rest := by
  rw [SpelledBy, toList_name, List.cons_append, lowerCase, List.map_cons, List.cons.injEq,
    List.cons.injEq, ← and_or_left, Suffix.spelled_word_iff, lowerCase]

/-! ## Keys -/

/-- A plural `s` is taken off a word, if what is left of it does not end in `s` itself. -/
theorem singular_eq_iff {word name : List Char} (h : name.getLast? ≠ some 's') :
    singular word = name ↔ word = name ∨ word = name ++ ['s'] := by
  unfold singular
  by_cases hs : word.getLast? = some 's'
  · obtain ⟨front, rfl⟩ := List.getLast?_eq_some_iff.1 hs
    have hne : front ++ ['s'] ≠ name := fun he => h (he ▸ hs)
    rw [if_pos hs, List.dropLast_concat, List.append_left_inj]
    exact (or_iff_right hne).symm
  · have hne : word ≠ name ++ ['s'] := by
      rintro rfl
      exact hs List.getLast?_concat
    rw [if_neg hs]
    exact (or_iff_left hne).symm

namespace TimeUnit

variable {text : String} {u : TimeUnit}

theorem ofName?_eq_some_iff : ofName? text = some u ↔ u.SpelledBy text.toList := by
  rw [SpelledBy, ← singular_eq_iff u.getLast?_name]
  constructor
  · intro h
    have hfound := List.find?_some h
    exact (beq_iff_eq.1 hfound).symm
  · intro h
    rw [ofName?, h]
    cases u <;> rfl

theorem ofName_eq_ok_iff : ofName text = .ok u ↔ u.SpelledBy text.toList := by
  rw [← ofName?_eq_some_iff, ofName]
  cases ofName? text with
  | none => simp
  | some v => simp

/-- A text that spells no unit is given back as it is. -/
theorem ofName_eq_error_iff {e : UnknownUnit} :
    ofName text = .error e ↔ e = ⟨text⟩ ∧ ∀ v : TimeUnit, ¬ v.SpelledBy text.toList := by
  simp only [← ofName?_eq_some_iff]
  rw [ofName]
  cases ofName? text with
  | none => simp [eq_comm]
  | some v => simp

end TimeUnit

/-! ## Codes -/

namespace Placeholder

/-- Whether a code asks for a unit by its name and for nothing else: it is read as a placeholder
for this unit, with a word, one digit, and no question mark. -/
def NamesUnit (code : List Char) (u : TimeUnit) : Prop :=
  ∃ p, ofCode? code = some p ∧ p.unit = .fixed u ∧ p.suffix = .word ∧ p.digits = 1 ∧
    p.optional = false

variable {code : List Char} {u : TimeUnit}

/-- Without a question mark there is no text behind it either. -/
theorem Spelling.Denotes.tails_eq_nil {a : Spelling} {p : Placeholder} (ha : a.Denotes p)
    (h : p.optional = false) : a.tail = [] ∧ p.tail = [] := by
  rcases ha.tail with ⟨htail, -, htail'⟩ | ⟨-, htrue⟩
  · exact ⟨htail, htail'⟩
  · exact absurd (h.symm.trans htrue) (by decide)

/-- One letter and a word are read as a placeholder for the unit. -/
theorem ofCode?_of_spelled {c : Char} {word : List Char} (hc : c.toLower = u.letter)
    (hword : Suffix.Spelled (.fixed u) .word word) :
    ofCode? (c :: word) = some ⟨.fixed u, c.isUpper, 1, .word, false, []⟩ := by
  refine ofCode?_eq_some_iff.2 ⟨⟨c, 1, word, []⟩, by simp [Spelling.text], ?_⟩
  exact {
    letter := (toLower_eq_iff (Selector.fixed u).letter_not_isUpper).1 hc
    cumulative := Spelling.isUpper_iff (s := .fixed u) hc
    pos := Nat.le_refl 1
    digits := rfl
    body := hword
    tail := .inl ⟨rfl, rfl, rfl⟩ }

theorem namesUnit_iff : NamesUnit code u ↔ u.SpelledBy code := by
  constructor
  · rintro ⟨p, hcode, hunit, hsuffix, hdigits, hoptional⟩
    obtain ⟨a, rfl, ha⟩ := ofCode?_eq_some_iff.1 hcode
    have htext : a.text = a.letter :: a.body := by
      rw [Spelling.text, ← ha.digits, hdigits, (ha.tails_eq_nil hoptional).1, List.append_nil]
      rfl
    have hletter := (toLower_eq_iff p.unit.letter_not_isUpper).2 ha.letter
    have hbody := ha.body
    rw [hunit] at hletter hbody
    rw [hsuffix] at hbody
    rw [htext]
    exact TimeUnit.spelledBy_cons_iff.2 ⟨hletter, hbody⟩
  · intro h
    cases code with
    | nil => exact absurd h u.not_spelledBy_nil
    | cons c word =>
        obtain ⟨hc, hword⟩ := TimeUnit.spelledBy_cons_iff.1 h
        exact ⟨_, ofCode?_of_spelled hc hword, rfl, rfl, rfl, rfl⟩

/-- Between two braces, the name of a unit is a placeholder for the unit. -/
theorem NamesUnit.nodes_spanOf (h : NamesUnit code u) :
    ∃ p, (Template.parse (Template.spanOf code)).nodes = [.placeholder p] ∧
      p.unit = .fixed u ∧ p.suffix = .word := by
  obtain ⟨p, hcode, hunit, hsuffix, -, hoptional⟩ := h
  obtain ⟨a, rfl, ha⟩ := ofCode?_eq_some_iff.1 hcode
  have hbrace : '}' ∉ a.text := by
    refine ha.brace_not_mem ?_
    rw [(ha.tails_eq_nil hoptional).2]
    exact List.not_mem_nil
  refine ⟨p, ?_, hunit, hsuffix⟩
  rw [Template.nodes_spanOf hbrace, hcode]
  rfl

end Placeholder

namespace Locale.Definition

variable {d : Definition} {id name : String}

/-- Every key of an accepted definition is the name of a unit. -/
theorem exists_spelledBy_of_toTable {t : Table} (h : d.toTable id = .ok t)
    (hname : name ∈ d.units.keys) : ∃ u : TimeUnit, u.SpelledBy name.toList := by
  obtain ⟨u, hu⟩ := (toTable_eq_ok.1 h).1.named name hname
  exact ⟨u, TimeUnit.ofName?_eq_some_iff.1 hu⟩

/-- A key that a definition is refused for as unknown is the name of no unit. -/
theorem not_spelledBy_of_toTable (h : d.toTable id = .error (.unknownUnit id ⟨name⟩)) :
    name ∈ d.units.keys ∧ ∀ u : TimeUnit, ¬ u.SpelledBy name.toList := by
  rcases refuses_of_toTable h with hfault | ⟨-, -, u, -, -, -, hfault⟩
  · cases hfault with
    | unknown hname hnone =>
        refine ⟨hname, fun u hu => ?_⟩
        cases hnone.symm.trans (TimeUnit.ofName?_eq_some_iff.2 hu)
  · cases hfault

end Locale.Definition

/-- **A text is the name of a unit for both readers or for neither.**  It is read as a unit exactly
if, as the code of a placeholder, it asks for this unit by a word and for nothing else; both are the
case exactly if it spells the name of the unit.  Every other text is given back unchanged.  So a
text that can stand for a word of a unit in a template is never refused as a key of a locale file,
and every key of an accepted one can stand in a template. -/
theorem TimeUnit.recognisers_agree (text : String) :
    (∀ u, ofName text = .ok u ↔ Placeholder.NamesUnit text.toList u) ∧
    (∀ u, ofName text = .ok u ↔ u.SpelledBy text.toList) ∧
    (∀ e, ofName text = .error e ↔
      e = ⟨text⟩ ∧ ∀ u, ¬ Placeholder.NamesUnit text.toList u) ∧
    (∀ u, Placeholder.NamesUnit text.toList u →
      ∃ p, (Template.parse (Template.spanOf text.toList)).nodes = [.placeholder p] ∧
        p.unit = .fixed u ∧ p.suffix = .word) ∧
    ∀ (d : Locale.Definition) (id : String),
      (∀ t, d.toTable id = .ok t → text ∈ d.units.keys →
        ∃ u, Placeholder.NamesUnit text.toList u) ∧
      (d.toTable id = .error (.unknownUnit id ⟨text⟩) →
        text ∈ d.units.keys ∧ ∀ u, ¬ Placeholder.NamesUnit text.toList u) := by
  simp only [Placeholder.namesUnit_iff]
  refine ⟨fun u => ofName_eq_ok_iff, fun u => ofName_eq_ok_iff, fun e => ofName_eq_error_iff,
    fun u hu => (Placeholder.namesUnit_iff.2 hu).nodes_spanOf,
    fun d id => ⟨fun t ht hmem => ?_, ?_⟩⟩
  · exact Locale.Definition.exists_spelledBy_of_toTable ht hmem
  · exact Locale.Definition.not_spelledBy_of_toTable

/-- A plural in mixed case.  With its first letter twice it asks for two digits, and names no
unit. -/
theorem TimeUnit.recognisers_agree_days :
    Placeholder.NamesUnit "dAYS".toList .day ∧ ofName "dAYS" = .ok .day ∧
      ofName "ddays" = .error ⟨"ddays"⟩ ∧ ∀ u, ¬ Placeholder.NamesUnit "ddays".toList u := by
  have hcode : Placeholder.ofCode? "dAYS".toList
      = some ⟨.fixed .day, false, 1, .word, false, []⟩ := by decide +kernel
  have hnames : Placeholder.NamesUnit "dAYS".toList .day := ⟨_, hcode, rfl, rfl, rfl, rfl⟩
  have herror : ofName "ddays" = .error ⟨"ddays"⟩ := by decide +kernel
  exact ⟨hnames, ((recognisers_agree "dAYS").1 .day).2 hnames, herror,
    (((recognisers_agree "ddays").2.2.1 _).1 herror).2⟩

end Elapsed
