import Elapsed.Proofs.Locale.Catalogue
import Elapsed.Proofs.Template.Grammar

/-!
# Which definitions are accepted

The units of a definition come in any order, under names of which several may denote one unit.  A
definition is checked entry by entry, and then unit by unit.  This file says what comes out of it
without any order.

*Acceptance.*  `Definition.Accepts`: every name denotes a unit, no two of them the same one, every
unit is named, and there are as many words for it as the plural rule picks from.  The table is then
the one that `Definition.Describes` says (`Definition.toTable_eq_ok`).

*Refusal.*  `Definition.Refuses`: a name that denotes no unit or a unit that is named twice,
whatever else is wrong; otherwise what is wrong with the longest unit that is missing or has the
wrong number of words (`Definition.refuses_of_toTable`).

*Orders.*  Neither depends on the order of the entries (`Definition.Reorders`), and of several
faulty names each comes first in some order (`Definition.exists_reorders_of_refuses`).  So these are
all the answers there are in any order (`Definition.toTable_decides`).
-/

namespace Elapsed

/-! ## The language of an identifier -/

namespace PluralRule

/-- Whether a text is what stands in an identifier before its first `_`, `-` or `.`. -/
def IsFront (id : String) (front : List Char) : Prop :=
  ∃ rest, id.toList = front ++ rest ∧ (∀ c ∈ front, c ∉ ['_', '-', '.']) ∧
    ∀ c ∈ rest.head?, c ∈ ['_', '-', '.']

variable {id id' : String} {front front' : List Char}

theorem language_eq (h : IsFront id front) : language id = String.ofList (lowerCase front) := by
  obtain ⟨rest, hid, hfront, hrest⟩ := h
  have hmark (c : Char) : (!(c == '_' || c == '-' || c == '.')) = true ↔ c ∉ ['_', '-', '.'] := by
    simp [and_assoc]
  rw [language, hid, takeWhile_append_eq]
  · exact fun c hc => (hmark c).2 (hfront c hc)
  · exact fun c hc hc' => (hmark c).1 hc' (hrest c hc)

/-- The rule to expect depends on the language of an identifier, in either case, and on nothing
else. -/
theorem ofLocale_congr (h : IsFront id front) (h' : IsFront id' front')
    (hcase : lowerCase front = lowerCase front') : ofLocale id = ofLocale id' := by
  rw [ofLocale, ofLocale, language_eq h, language_eq h', hcase]

end PluralRule

namespace Locale

namespace Definition

/-! ## Accepted and refused definitions -/

/-- Whether a definition under an identifier is complete, and nothing in it is of no use. -/
structure Accepts (d : Definition) (id : String) : Prop where
  /-- Every name denotes a unit. -/
  named : ∀ name ∈ d.units.keys, ∃ u, TimeUnit.ofName? name = some u
  /-- No two names denote the same unit. -/
  distinct : ∀ name ∈ d.units.keys, ∀ other ∈ d.units.keys, ∀ u,
    TimeUnit.ofName? name = some u → TimeUnit.ofName? other = some u → name = other
  /-- Every unit is named. -/
  complete : ∀ u, ∃ name ∈ d.units.keys, TimeUnit.ofName? name = some u
  /-- There are as many words for each unit as the plural rule picks from. -/
  counted : ∀ name f, d.units.get? name = some f → f.words.length = (d.rule id).arity

/-- Whether a table is that of a definition under an identifier. -/
structure Describes (d : Definition) (id : String) (t : Table) : Prop where
  id_eq : t.id = id
  rule_eq : t.rule = d.plural.getD (PluralRule.ofLocale id)
  separator_eq : t.separator = d.separator
  /-- The table has for a unit what the definition has under a name of it. -/
  forms_iff : ∀ u f, t.forms? u = some f ↔
    ∃ name, TimeUnit.ofName? name = some u ∧ d.units.get? name = some f

/-- What can be wrong with the names of a definition. -/
inductive NameFault (d : Definition) (id : String) : Error → Prop where
  /-- A name denotes no unit. -/
  | unknown {name : String} (hname : name ∈ d.units.keys) (h : TimeUnit.ofName? name = none) :
      NameFault d id (.unknownUnit id ⟨name⟩)
  /-- Two names denote the same unit. -/
  | duplicate {name other : String} {u : TimeUnit} (hname : name ∈ d.units.keys)
      (hother : other ∈ d.units.keys) (hne : name ≠ other)
      (h : TimeUnit.ofName? name = some u) (h' : TimeUnit.ofName? other = some u) :
      NameFault d id (.duplicateUnit id u)

/-- What can be wrong with the texts of a unit. -/
inductive TextFault (d : Definition) (id : String) (u : TimeUnit) : Error → Prop where
  /-- No name denotes the unit. -/
  | missing (h : ∀ name ∈ d.units.keys, TimeUnit.ofName? name ≠ some u) :
      TextFault d id u (.missingUnit id u)
  /-- There are more or fewer words than the plural rule picks from. -/
  | wordCount {name : String} {f : Forms} (hname : TimeUnit.ofName? name = some u)
      (hf : d.units.get? name = some f) (hcount : f.words.length ≠ (d.rule id).arity) :
      TextFault d id u (.wordCount id u (d.rule id) f.words.length)

/-- What a definition under an identifier can be refused for: any faulty name; if there is none, the
texts of the first faulty unit, the longest first. -/
def Refuses (d : Definition) (id : String) (e : Error) : Prop :=
  d.NameFault id e ∨
    ((∀ e', ¬ d.NameFault id e') ∧
      ∃ longer u shorter,
        [TimeUnit.week, .day, .hour, .minute, .second] = longer ++ u :: shorter ∧
        (∀ v ∈ longer, ∀ e', ¬ d.TextFault id v e') ∧ d.TextFault id u e)

/-! ## Filing texts -/

section Filing

variable {id : String} {entries : List (String × Forms)} {filed : TimeUnit → Option Forms}
variable {e : Error}

/-- Filing stops at an entry whose name denotes no unit, or a unit that has texts already: from
before, or from an entry in front of it. -/
theorem collect_eq_error (h : collect id filed entries = .error e) :
    ∃ front x rest, entries = front ++ x :: rest ∧
      ((TimeUnit.ofName? x.1 = none ∧ e = .unknownUnit id ⟨x.1⟩) ∨
        ∃ u, TimeUnit.ofName? x.1 = some u ∧ e = .duplicateUnit id u ∧
          ((filed u).isSome ∨ ∃ y ∈ front, TimeUnit.ofName? y.1 = some u)) := by
  induction entries generalizing filed with
  | nil => cases h
  | cons x rest ih =>
      rw [collect, TimeUnit.ofName] at h
      cases hx : TimeUnit.ofName? x.1 with
      | none =>
          rw [hx] at h
          cases h
          exact ⟨[], x, rest, rfl, .inl ⟨hx, rfl⟩⟩
      | some u =>
          simp only [hx] at h
          by_cases hfiled : (filed u).isSome
          · rw [if_pos hfiled] at h
            cases h
            exact ⟨[], x, rest, rfl, .inr ⟨u, hx, rfl, .inl hfiled⟩⟩
          · rw [if_neg hfiled] at h
            obtain ⟨front, y, rest', rfl, hy⟩ := ih h
            refine ⟨x :: front, y, rest', rfl, ?_⟩
            rcases hy with hy | ⟨v, hv, rfl, htaken⟩
            · exact .inl hy
            · refine .inr ⟨v, hv, rfl, ?_⟩
              by_cases hvu : v = u
              · exact .inr ⟨x, List.mem_cons_self, hvu ▸ hx⟩
              · rw [if_neg hvu] at htaken
                rcases htaken with htaken | ⟨z, hz, hzv⟩
                · exact .inl htaken
                · exact .inr ⟨z, List.mem_cons_of_mem x hz, hzv⟩

end Filing

variable {d d' : Definition} {id : String} {e : Error} {u : TimeUnit} {f : Forms} {t : Table}

theorem mem_keys_of_mem {x : String × Forms} (h : x ∈ d.units.toList) : x.1 ∈ d.units.keys :=
  List.mem_map_of_mem h

theorem exists_mem_of_mem_keys {name : String} (h : name ∈ d.units.keys) :
    ∃ f, (name, f) ∈ d.units.toList := by
  obtain ⟨⟨_, f⟩, hmem, rfl⟩ := List.mem_map.1 h
  exact ⟨f, hmem⟩

/-- If the texts cannot be filed, a name is at fault. -/
theorem nameFault_of_collect (h : collect id (fun _ => none) d.units.toList = .error e) :
    d.NameFault id e := by
  obtain ⟨front, x, rest, hentries, hx⟩ := collect_eq_error h
  have hmem : x ∈ d.units.toList := by rw [hentries]; simp
  rcases hx with ⟨hx, rfl⟩ | ⟨u, hu, rfl, hfiled | ⟨y, hy, hyu⟩⟩
  · exact .unknown (mem_keys_of_mem hmem) hx
  · cases hfiled
  · have hmem' : y ∈ d.units.toList := by rw [hentries]; simp [hy]
    have hne : y.1 ≠ x.1 := by
      have hnodup := d.units.nodup
      rw [hentries, List.map_append, List.nodup_append] at hnodup
      exact hnodup.2.2 y.1 (List.mem_map_of_mem hy) x.1 (by simp)
    exact .duplicate (mem_keys_of_mem hmem') (mem_keys_of_mem hmem) hne hyu hu

/-- No name is at fault if each denotes a unit, and no two of them the same one. -/
theorem forall_not_nameFault_iff : (∀ e, ¬ d.NameFault id e) ↔
    (∀ name ∈ d.units.keys, ∃ u, TimeUnit.ofName? name = some u) ∧
      ∀ name ∈ d.units.keys, ∀ other ∈ d.units.keys, ∀ u,
        TimeUnit.ofName? name = some u → TimeUnit.ofName? other = some u → name = other := by
  constructor
  · intro h
    refine ⟨fun name hname => ?_, fun name hname other hother u hu hu' => ?_⟩
    · by_contra hcon
      refine h _ (.unknown hname ?_)
      exact Option.eq_none_iff_forall_ne_some.2 fun u hu => hcon ⟨u, hu⟩
    · by_contra hne
      exact h _ (.duplicate hname hother hne hu hu')
  · rintro ⟨hnamed, hdistinct⟩ e he
    cases he with
    | unknown hname hnone =>
        obtain ⟨u, hu⟩ := hnamed _ hname
        cases hnone.symm.trans hu
    | duplicate hname hother hne hu hu' => exact hne (hdistinct _ hname _ hother _ hu hu')

theorem distinct_units_iff :
    (d.units.toList.Pairwise fun a b => TimeUnit.ofName? a.1 ≠ TimeUnit.ofName? b.1) ↔
      ∀ x ∈ d.units.toList, ∀ y ∈ d.units.toList,
        TimeUnit.ofName? x.1 = TimeUnit.ofName? y.1 → x.1 = y.1 := by
  have hkeys := List.pairwise_map.1 d.units.nodup
  constructor
  · intro h x hx y hy heq
    exact congrArg Prod.fst (List.inj_on_of_nodup_map (List.pairwise_map.2 h) hx hy heq)
  · intro h
    exact hkeys.imp_of_mem fun hx hy hne heq => hne (h _ hx _ hy heq)

/-- The texts can be filed if no name is at fault. -/
theorem collect_units_eq_ok_iff {forms : TimeUnit → Option Forms} :
    collect id (fun _ => none) d.units.toList = .ok forms ↔
      (∀ e, ¬ d.NameFault id e) ∧ forms = textsOf? d.units.toList := by
  rw [collect_eq_ok_iff, distinct_units_iff, forall_not_nameFault_iff]
  simp only [Option.or_none, and_true]
  constructor
  · rintro ⟨hnamed, hdistinct, hforms⟩
    refine ⟨⟨fun name hname => ?_, fun name hname other hother u hu hu' => ?_⟩, hforms⟩
    · obtain ⟨f, hf⟩ := exists_mem_of_mem_keys hname
      exact hnamed (name, f) hf
    · obtain ⟨f, hf⟩ := exists_mem_of_mem_keys hname
      obtain ⟨g, hg⟩ := exists_mem_of_mem_keys hother
      exact hdistinct (name, f) hf (other, g) hg (hu.trans hu'.symm)
  · rintro ⟨⟨hnamed, hdistinct⟩, hforms⟩
    refine ⟨fun x hx => hnamed x.1 (mem_keys_of_mem hx), fun x hx y hy heq => ?_, hforms⟩
    obtain ⟨u, hu⟩ := hnamed x.1 (mem_keys_of_mem hx)
    exact hdistinct x.1 (mem_keys_of_mem hx) y.1 (mem_keys_of_mem hy) u hu (heq.symm.trans hu)

/-- Where no name is at fault, a unit has the texts under its name. -/
theorem textsOf?_units_eq_some_iff (h : ∀ e, ¬ d.NameFault id e) :
    textsOf? d.units.toList u = some f ↔
      ∃ name, TimeUnit.ofName? name = some u ∧ d.units.get? name = some f := by
  have hfound {x : String × Forms} (hx : d.units.toList.find?
      (fun x => TimeUnit.ofName? x.1 == some u) = some x) :
      TimeUnit.ofName? x.1 = some u ∧ d.units.get? x.1 = some x.2 :=
    ⟨by simpa using List.find?_some hx, Entries.mem_toList_iff.1 (List.mem_of_find?_eq_some hx)⟩
  constructor
  · intro hf
    obtain ⟨x, hx, rfl⟩ := Option.map_eq_some_iff.1 hf
    exact ⟨x.1, hfound hx⟩
  · rintro ⟨name, hname, hf⟩
    have hmem : (name, f) ∈ d.units.toList := Entries.mem_toList_iff.2 hf
    rw [textsOf?]
    cases hx : d.units.toList.find? fun x => TimeUnit.ofName? x.1 == some u with
    | none => exact absurd hname (by simpa using List.find?_eq_none.1 hx _ hmem)
    | some x =>
        -- the entry that was found has the same name, for the unit is not named twice
        have hsame : x.1 = name := (forall_not_nameFault_iff.1 h).2 x.1
          (mem_keys_of_mem (List.mem_of_find?_eq_some hx)) name (mem_keys_of_mem hmem) u
          (hfound hx).1 hname
        have hget := (hfound hx).2
        rw [hsame, hf] at hget
        exact hget.symm

theorem textsOf?_units_eq_none_iff :
    textsOf? d.units.toList u = none ↔ ∀ name ∈ d.units.keys, TimeUnit.ofName? name ≠ some u := by
  rw [textsOf?, Option.map_eq_none_iff, List.find?_eq_none]
  constructor
  · intro h name hname
    obtain ⟨f, hf⟩ := exists_mem_of_mem_keys hname
    simpa using h _ hf
  · intro h x hx
    simpa using h x.1 (mem_keys_of_mem hx)

/-! ## The table of a definition -/

/-- The table that is checked, once the texts are filed. -/
def table (d : Definition) (id : String) : Table :=
  ⟨id, d.rule id, d.separator, textsOf? d.units.toList⟩

theorem fault?_table_iff (h : ∀ e, ¬ d.NameFault id e) :
    (d.table id).fault? u = some e ↔ d.TextFault id u e := by
  have hforms : (d.table id).forms? u = textsOf? d.units.toList u := rfl
  rw [Table.fault?, hforms]
  cases htexts : textsOf? d.units.toList u with
  | none =>
      have hnone := textsOf?_units_eq_none_iff.1 htexts
      constructor
      · rintro ⟨⟩
        exact .missing hnone
      · intro he
        cases he with
        | missing => rfl
        | wordCount hname hf =>
            exact absurd hname (hnone _ (Entries.mem_keys_iff.2 (Option.isSome_of_mem hf)))
  | some f =>
      obtain ⟨name, hname, hf⟩ := (textsOf?_units_eq_some_iff h).1 htexts
      have hkey : name ∈ d.units.keys := Entries.mem_keys_iff.2 (Option.isSome_of_mem hf)
      constructor
      · intro he
        dsimp only at he
        split at he
        · cases he
        · cases he
          exact .wordCount hname hf ‹_›
      · intro he
        cases he with
        | missing hnone => exact absurd hname (hnone name hkey)
        | @wordCount other g hother hg hcount =>
            have hsame : textsOf? d.units.toList u = some g :=
              (textsOf?_units_eq_some_iff h).2 ⟨other, hother, hg⟩
            rw [htexts, Option.some.injEq] at hsame
            subst hsame
            exact if_neg hcount

/-- A table is that of a definition without faulty names exactly if it is the one that is
checked. -/
theorem describes_iff (h : ∀ e, ¬ d.NameFault id e) : d.Describes id t ↔ t = d.table id := by
  constructor
  · intro ht
    have hforms : t.forms? = textsOf? d.units.toList := by
      funext u
      apply Option.ext
      intro f
      rw [ht.forms_iff, textsOf?_units_eq_some_iff h]
    calc t = ⟨t.id, t.rule, t.separator, t.forms?⟩ := rfl
      _ = d.table id := by rw [ht.id_eq, ht.rule_eq, ht.separator_eq, hforms]; rfl
  · rintro rfl
    exact ⟨rfl, rfl, rfl, fun u f => textsOf?_units_eq_some_iff h⟩

/-- A definition is accepted if nothing is wrong with it. -/
theorem accepts_iff :
    d.Accepts id ↔ (∀ e, ¬ d.NameFault id e) ∧ ∀ u e, ¬ d.TextFault id u e := by
  rw [forall_not_nameFault_iff]
  constructor
  · intro h
    refine ⟨⟨h.named, h.distinct⟩, fun u e he => ?_⟩
    cases he with
    | missing hnone =>
        obtain ⟨name, hname, hu⟩ := h.complete u
        exact hnone name hname hu
    | wordCount hname hf hcount => exact hcount (h.counted _ _ hf)
  · rintro ⟨⟨hnamed, hdistinct⟩, htexts⟩
    refine ⟨hnamed, hdistinct, fun u => ?_, fun name f hf => ?_⟩
    · by_contra hcon
      exact htexts u _ (.missing fun name hname hu => hcon ⟨name, hname, hu⟩)
    · obtain ⟨u, hu⟩ := hnamed name (Entries.mem_keys_iff.2 (Option.isSome_of_mem hf))
      by_contra hcount
      exact htexts u _ (.wordCount hu hf hcount)

theorem fault?_table_eq_none_iff (h : ∀ e, ¬ d.NameFault id e) :
    (d.table id).fault? u = none ↔ ∀ e, ¬ d.TextFault id u e := by
  simp only [Option.eq_none_iff_forall_ne_some, ne_eq, fault?_table_iff h]

theorem complete_table_iff (h : ∀ e, ¬ d.NameFault id e) :
    (d.table id).Complete ↔ ∀ u e, ¬ d.TextFault id u e := by
  rw [Table.Complete]
  exact forall_congr' fun u => Table.fault?_eq_none_iff.symm.trans (fault?_table_eq_none_iff h)

/-- A definition has a table exactly if it is accepted, and then the table it describes. -/
theorem toTable_eq_ok : d.toTable id = .ok t ↔ d.Accepts id ∧ d.Describes id t := by
  rw [toTable_eq_ok_iff, accepts_iff]
  constructor
  · rintro ⟨forms, hforms, rfl, hcomplete⟩
    obtain ⟨hnames, rfl⟩ := collect_units_eq_ok_iff.1 hforms
    exact ⟨⟨hnames, (complete_table_iff hnames).1 hcomplete⟩, (describes_iff hnames).2 rfl⟩
  · rintro ⟨⟨hnames, htexts⟩, hdescribes⟩
    refine ⟨_, collect_units_eq_ok_iff.2 ⟨hnames, rfl⟩, (describes_iff hnames).1 hdescribes, ?_⟩
    rw [(describes_iff hnames).1 hdescribes]
    exact (complete_table_iff hnames).2 htexts

/-! ## The error of a definition -/

theorem toTable_eq_validate (h : ∀ e, ¬ d.NameFault id e) :
    d.toTable id = (d.table id).validate := by
  rw [toTable, collect_units_eq_ok_iff.2 ⟨h, rfl⟩]
  rfl

/-- A table is refused for its first faulty unit, the longest first. -/
theorem validate_eq_error_iff : t.validate = .error e ↔
    ∃ longer u shorter, TimeUnit.all = longer ++ u :: shorter ∧
      t.fault? u = some e ∧ ∀ v ∈ longer, t.fault? v = none := by
  rw [Table.validate, ← List.findSome?_eq_some_iff]
  cases TimeUnit.all.findSome? t.fault? with
  | none => simp
  | some e' => simp

/-- Where no name is at fault, a definition is refused for its first faulty unit. -/
theorem toTable_eq_error_iff (h : ∀ e, ¬ d.NameFault id e) :
    d.toTable id = .error e ↔ d.Refuses id e := by
  rw [toTable_eq_validate h, validate_eq_error_iff, Refuses]
  simp only [h, false_or, not_false_eq_true, implies_true, true_and, fault?_table_eq_none_iff h,
    fault?_table_iff h]
  constructor
  · rintro ⟨longer, u, shorter, hall, hu, hlonger⟩
    exact ⟨longer, u, shorter, hall, hlonger, hu⟩
  · rintro ⟨longer, u, shorter, hall, hlonger, hu⟩
    exact ⟨longer, u, shorter, hall, hu, hlonger⟩

/-- A definition without a table is refused for what is wrong with it. -/
theorem refuses_of_toTable (h : d.toTable id = .error e) : d.Refuses id e := by
  cases hcollect : collect id (fun _ => none) d.units.toList with
  | error e' =>
      rw [toTable, hcollect] at h
      cases h
      exact .inl (nameFault_of_collect hcollect)
  | ok forms => exact (toTable_eq_error_iff (collect_units_eq_ok_iff.1 hcollect).1).1 h

/-! ## Orders -/

namespace Reorders

theorem get?_eq (h : d.Reorders d') (name : String) : d'.units.get? name = d.units.get? name :=
  Entries.get?_eq_of_perm h.units name

theorem mem_keys_iff (h : d.Reorders d') {name : String} :
    name ∈ d'.units.keys ↔ name ∈ d.units.keys :=
  (h.units.map Prod.fst).mem_iff

theorem symm (h : d.Reorders d') : d'.Reorders d :=
  ⟨h.plural.symm, h.separator.symm, h.units.symm⟩

theorem trans {d'' : Definition} (h : d.Reorders d') (h' : d'.Reorders d'') : d.Reorders d'' :=
  ⟨h'.plural.trans h.plural, h'.separator.trans h.separator, h'.units.trans h.units⟩

theorem rule_eq (h : d.Reorders d') (id : String) : d'.rule id = d.rule id := by
  rw [rule, rule, h.plural]

theorem nameFault (h : d.Reorders d') (he : d.NameFault id e) : d'.NameFault id e := by
  cases he with
  | unknown hname hnone => exact .unknown (h.mem_keys_iff.2 hname) hnone
  | duplicate hname hother hne hu hu' =>
      exact .duplicate (h.mem_keys_iff.2 hname) (h.mem_keys_iff.2 hother) hne hu hu'

theorem textFault (h : d.Reorders d') (he : d.TextFault id u e) : d'.TextFault id u e := by
  cases he with
  | missing hnone => exact .missing fun name hname => hnone name (h.mem_keys_iff.1 hname)
  | wordCount hname hf hcount =>
      rw [← h.rule_eq] at hcount ⊢
      exact .wordCount hname (by rw [h.get?_eq, hf]) hcount

theorem refuses (h : d.Reorders d') (he : d.Refuses id e) : d'.Refuses id e := by
  rcases he with he | ⟨hnames, longer, u, shorter, hall, hlonger, hu⟩
  · exact .inl (h.nameFault he)
  · refine .inr ⟨fun e' he' => hnames e' (h.symm.nameFault he'), longer, u, shorter, hall, ?_,
      h.textFault hu⟩
    exact fun v hv e' he' => hlonger v hv e' (h.symm.textFault he')

theorem accepts (h : d.Reorders d') (ha : d.Accepts id) : d'.Accepts id := by
  obtain ⟨hnames, htexts⟩ := accepts_iff.1 ha
  exact accepts_iff.2 ⟨fun e he => hnames e (h.symm.nameFault he),
    fun u e he => htexts u e (h.symm.textFault he)⟩

theorem describes (h : d.Reorders d') (ht : d.Describes id t) : d'.Describes id t where
  id_eq := ht.id_eq
  rule_eq := by rw [ht.rule_eq, h.plural]
  separator_eq := by rw [ht.separator_eq, h.separator]
  forms_iff := by
    intro u f
    simp only [h.get?_eq]
    exact ht.forms_iff u f

/-- A definition has the same table in every order. -/
theorem toTable_eq_ok_iff (h : d.Reorders d') :
    d'.toTable id = .ok t ↔ d.toTable id = .ok t := by
  rw [toTable_eq_ok, toTable_eq_ok]
  exact ⟨fun ⟨ha, ht⟩ => ⟨h.symm.accepts ha, h.symm.describes ht⟩,
    fun ⟨ha, ht⟩ => ⟨h.accepts ha, h.describes ht⟩⟩

end Reorders

/-- The entries of a definition can come in any order. -/
theorem exists_reorders {entries : List (String × Forms)} (h : entries.Perm d.units.toList) :
    ∃ d', d.Reorders d' ∧ d'.units.toList = entries :=
  ⟨{ d with units := ⟨entries, (h.map Prod.fst).nodup_iff.2 d.units.nodup⟩ }, ⟨rfl, rfl, h⟩, rfl⟩

/-- An entry can come first. -/
theorem exists_perm_cons {x : String × Forms} {entries : List (String × Forms)}
    (h : x ∈ entries) : ∃ rest, (x :: rest).Perm entries ∧ ∀ y ∈ entries, y ≠ x → y ∈ rest := by
  obtain ⟨front, back, rfl⟩ := List.append_of_mem h
  refine ⟨front ++ back, List.perm_middle.symm, fun y hy hne => ?_⟩
  rcases List.mem_append.1 hy with hy | hy
  · exact List.mem_append_left _ hy
  · exact List.mem_append_right _ ((List.mem_cons.1 hy).resolve_left hne)

/-- What a definition can be refused for, it is refused for in some order: the faulty names come
first. -/
theorem exists_reorders_of_refuses (h : d.Refuses id e) :
    ∃ d', d.Reorders d' ∧ d'.toTable id = .error e := by
  rcases h with h | ⟨hnames, hrest⟩
  · cases h with
    | @unknown name hname hnone =>
        obtain ⟨f, hf⟩ := exists_mem_of_mem_keys hname
        obtain ⟨rest, hperm, -⟩ := exists_perm_cons hf
        obtain ⟨d', hd', hentries⟩ := exists_reorders hperm
        refine ⟨d', hd', ?_⟩
        simp [toTable, hentries, collect, TimeUnit.ofName, hnone, bind, Except.bind]
    | @duplicate name other u hname hother hne hu hu' =>
        obtain ⟨f, hf⟩ := exists_mem_of_mem_keys hname
        obtain ⟨g, hg⟩ := exists_mem_of_mem_keys hother
        obtain ⟨rest, hperm, hrest⟩ := exists_perm_cons hf
        have hg' : (other, g) ∈ rest := hrest _ hg fun h => hne (congrArg Prod.fst h).symm
        obtain ⟨rest', hperm', -⟩ := exists_perm_cons hg'
        obtain ⟨d', hd', hentries⟩ := exists_reorders ((hperm'.cons _).trans hperm)
        refine ⟨d', hd', ?_⟩
        simp [toTable, hentries, collect, TimeUnit.ofName, hu, hu', bind, Except.bind]
  · exact ⟨d, ⟨rfl, rfl, .rfl⟩, (toTable_eq_error_iff hnames).2 (.inr ⟨hnames, hrest⟩)⟩

/-- **A definition is accepted or refused for what is in it, not for its order.**  It has a table
exactly if it is accepted, and then the table it describes, in every order of its entries.  The
errors that it has in some order are those it can be refused for.  The plural rule it is left with
is a matter of the language of its identifier. -/
theorem toTable_decides (d : Definition) (id : String) :
    ((∃ t, d.toTable id = .ok t) ↔ d.Accepts id) ∧
    (∀ t, d.toTable id = .ok t ↔ d.Accepts id ∧ d.Describes id t) ∧
    (∀ d', d.Reorders d' → ∀ t, d'.toTable id = .ok t ↔ d.toTable id = .ok t) ∧
    (∀ e, (∃ d', d.Reorders d' ∧ d'.toTable id = .error e) ↔ d.Refuses id e) ∧
    ∀ id' front front', PluralRule.IsFront id front → PluralRule.IsFront id' front' →
      lowerCase front = lowerCase front' → PluralRule.ofLocale id = PluralRule.ofLocale id' := by
  refine ⟨⟨?_, ?_⟩, fun t => toTable_eq_ok, fun d' h t => h.toTable_eq_ok_iff,
    fun e => ⟨?_, exists_reorders_of_refuses⟩, fun id' front front' => PluralRule.ofLocale_congr⟩
  · rintro ⟨t, ht⟩
    exact (toTable_eq_ok.1 ht).1
  · intro h
    exact ⟨d.table id, toTable_eq_ok.2 ⟨h, (describes_iff (accepts_iff.1 h).1).2 rfl⟩⟩
  · rintro ⟨d', hd', he⟩
    exact hd'.symm.refuses (refuses_of_toTable he)

/-- Five names in different case and number, in two orders; and one language, written in two
ways. -/
theorem toTable_decides_reversed :
    let units : List (String × Forms) := [("weeks", ⟨"w", ["W"]⟩), ("DAY", ⟨"d", ["D"]⟩),
      ("Hours", ⟨"h", ["H"]⟩), ("minute", ⟨"m", ["M"]⟩), ("SECONDS", ⟨"s", ["S"]⟩)]
    let d : Definition := ⟨some .cjk, "", .ofList units⟩
    let d' : Definition := ⟨some .cjk, "", .ofList units.reverse⟩
    d.Reorders d' ∧ (∃ t, d.toTable "pt_BR" = .ok t ∧ d'.toTable "pt_BR" = .ok t) ∧
      PluralRule.IsFront "pt_BR" ['p', 't'] ∧ PluralRule.IsFront "PT.x" ['P', 'T'] ∧
      PluralRule.ofLocale "pt_BR" = PluralRule.ofLocale "PT.x" := by
  intro units d d'
  have hunits : d'.units.toList.Perm d.units.toList := by decide +kernel
  have horder : d.Reorders d' := ⟨rfl, rfl, hunits⟩
  have hfront : PluralRule.IsFront "pt_BR" ['p', 't'] :=
    ⟨['_', 'B', 'R'], by decide +kernel, by simp, by simp⟩
  have hfront' : PluralRule.IsFront "PT.x" ['P', 'T'] :=
    ⟨['.', 'x'], by decide +kernel, by simp, by simp⟩
  obtain ⟨-, -, hsame, -, hlanguage⟩ := toTable_decides d "pt_BR"
  have hok : (d.toTable "pt_BR").isOk = true := by decide +kernel
  refine ⟨horder, ?_, hfront, hfront', hlanguage "PT.x" _ _ hfront hfront' (by decide)⟩
  cases htable : d.toTable "pt_BR" with
  | error e =>
      rw [htable] at hok
      cases hok
  | ok t => exact ⟨t, rfl, (hsame d' horder t).2 htable⟩

end Definition

end Locale

end Elapsed
