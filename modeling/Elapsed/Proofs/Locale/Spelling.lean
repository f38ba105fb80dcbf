import Mathlib.Logic.Relation
import Elapsed.Proofs.Document.Json
import Elapsed.Proofs.Locale.Loading
import Elapsed.Proofs.Locale.Ordering
import Elapsed.Proofs.Locale.Places

/-!
# How a document is spelled

One catalogue can be written down in many documents: in any order, with unknown entries in its
records, with fields under other names, with or without what stands for the same as nothing.

*One change.*  `Respells` has a case for each such change, at any depth of a document.
`Respells.agree`: it keeps what the value at a place stands for.  What it keeps of records, maps and
other values is not the same, so `Place.Agree` says for each place which values stand for the same
there, and the proof goes by the place with the change.

*All changes.*  `Catalogue.parse_respelled`: any number of changes, in any order, keep the catalogue
of a document, up to the order of its entries, or that there is none.
-/

namespace Elapsed.Locale

open Elapsed.Document

/-! ## Entries in any order -/

namespace Definition

theorem reorders_of_alike {d d' : Definition} (hplural : d.plural = d'.plural)
    (hseparator : d.separator = d'.separator) (hunits : d.units.Alike (· = ·) d'.units) :
    d.Reorders d' := by
  refine ⟨hplural.symm, hseparator.symm, ?_⟩
  refine (List.perm_ext_iff_of_nodup d'.units.nodup.of_map d.units.nodup.of_map).2 fun e => ?_
  rw [Entries.mem_toList_iff, Entries.mem_toList_iff, rel_eq_iff.1 (hunits e.1)]

end Definition

theorem Catalogue.reorders_of_alike {c c' : Catalogue}
    (h : c.locales.Alike Definition.Reorders c'.locales) : c.Reorders c' := by
  refine ⟨fun id d hd => exists_of_rel_some (hd ▸ h id), fun id d hd => ?_⟩
  have hsymm := rel_symm (h id) fun d d' hreorders => (hreorders : flip Definition.Reorders d' d)
  exact exists_of_rel_some (hd ▸ hsymm)

/-! ## One change -/

/-- Whether the values at a place differ by one change of spelling. -/
inductive Respells : Place → Tree → Tree → Prop where
  /-- The entries of a table come in another order. -/
  | order {p : Place} {entries entries' : List (String × Tree)}
      (hnodup : (entries.map Prod.fst).Nodup) (h : entries.Perm entries') :
      Respells p (.table entries) (.table entries')
  /-- A record has an entry under a name that none of its fields has. -/
  | unknown {p : Place} {front back : List (String × Tree)} {name : String} {v : Tree}
      (hrecord : p.fieldNames ≠ []) (hname : ∀ names ∈ p.fieldNames, name ∉ names) :
      Respells p (.table (front ++ back)) (.table (front ++ (name, v) :: back))
  /-- A field is given under another one of its names. -/
  | renamed {p : Place} {front back : List (String × Tree)} {names : List String}
      {a b : String} {v : Tree} (hnames : names ∈ p.fieldNames) (ha : a ∈ names) (hb : b ∈ names) :
      Respells p (.table (front ++ (a, v) :: back)) (.table (front ++ (b, v) :: back))
  /-- A definition says that its separator is a space, or does not say so. -/
  | separator {front back : List (String × Tree)} (h : ∀ e ∈ front ++ back, e.1 ≠ "separator") :
      Respells .definition (.table (front ++ back))
        (.table (front ++ ("separator", .text " ") :: back))
  /-- A definition says that it has no rule, or does not say so. -/
  | plural {front back : List (String × Tree)} (h : ∀ e ∈ front ++ back, e.1 ≠ "plural") :
      Respells .definition (.table (front ++ back)) (.table (front ++ ("plural", .null) :: back))
  /-- The change is in a value of a table. -/
  | under {p : Place} {front back : List (String × Tree)} {name : String} {v w : Tree}
      (h : Respells (p.under name) v w) :
      Respells p (.table (front ++ (name, v) :: back)) (.table (front ++ (name, w) :: back))
  /-- The change is in a value of a list. -/
  | item {p : Place} {before after : List Tree} {v w : Tree}
      (h : Respells (p.item before.length) v w) :
      Respells p (.list (before ++ v :: after)) (.list (before ++ w :: after))

/-! ## What a value stands for -/

/-- Whether two values stand for the same text, texts and rule, if for any. -/
structure SameValue (v w : Tree) : Prop where
  text : jsonConventions.text? v = jsonConventions.text? w
  texts : listOf? jsonConventions jsonConventions.text? v
    = listOf? jsonConventions jsonConventions.text? w
  rule : pluralOf? jsonConventions v = pluralOf? jsonConventions w
  isVoid : jsonConventions.isVoid v = jsonConventions.isVoid w

/-- Whether two values stand for the same at a place. -/
def Place.Agree : Place → Tree → Tree → Prop
  | file, v, w => Option.Rel Catalogue.Reorders (Catalogue.ofDocument? jsonConventions v)
      (Catalogue.ofDocument? jsonConventions w)
  | definitions, v, w => Option.Rel (Entries.Alike Definition.Reorders)
      (mapOf? jsonConventions (Definition.ofDocument? jsonConventions) v)
      (mapOf? jsonConventions (Definition.ofDocument? jsonConventions) w)
  | definition, v, w => Option.Rel Definition.Reorders (Definition.ofDocument? jsonConventions v)
      (Definition.ofDocument? jsonConventions w)
  | units, v, w => Option.Rel (Entries.Alike (· = ·))
      (mapOf? jsonConventions (Forms.ofDocument? jsonConventions) v)
      (mapOf? jsonConventions (Forms.ofDocument? jsonConventions) w)
  | forms, v, w => Forms.ofDocument? jsonConventions v = Forms.ofDocument? jsonConventions w
  | value, v, w => SameValue v w

variable {p : Place} {name : String} {v w : Tree} {before after : List Tree}
variable {entries entries' front back : List (String × Tree)}

theorem Place.Agree.refl (p : Place) (v : Tree) : p.Agree v v := by
  cases p with
  | file => exact rel_refl Catalogue.Reorders.refl _
  | definitions => exact rel_refl (fun _ _ => rel_refl Definition.Reorders.refl _) _
  | definition => exact rel_refl Definition.Reorders.refl _
  | units => exact rel_refl (fun _ _ => rel_refl (fun _ => rfl) _) _
  | forms => rfl
  | value => exact ⟨rfl, rfl, rfl, rfl⟩

/-! ## Records -/

/-- Records stand for the same if their fields do. -/
theorem agree_of_fields (hrecord : p.fieldNames ≠ [])
    (h : ∀ i, Option.Rel (Option.Rel (p.item i).Agree) (recordField? p.fieldNames i v)
      (recordField? p.fieldNames i w)) : p.Agree v w := by
  cases p with
  | file =>
      rw [Place.Agree, Catalogue.ofDocument?_eq, Catalogue.ofDocument?_eq]
      refine rel_bind (h 0) fun locales locales' hlocales => ?_
      refine rel_bind (rel_elim hlocales (.some fun _ => .none) fun _ _ hmap => hmap) ?_
      exact fun m n hmap => .some (Catalogue.reorders_of_alike hmap)
  | definition =>
      rw [Place.Agree, Definition.ofDocument?_eq, Definition.ofDocument?_eq]
      refine rel_bind (h 0) fun plural plural' hplural => ?_
      refine rel_bind (h 1) fun separator separator' hseparator => ?_
      refine rel_bind (h 2) fun units units' hunits => ?_
      have hrule : plural.elim (some none) (pluralOf? jsonConventions)
          = plural'.elim (some none) (pluralOf? jsonConventions) :=
        rel_elim hplural rfl fun _ _ hvalue => hvalue.rule
      have htext : separator.elim (some " ") jsonConventions.text?
          = separator'.elim (some " ") jsonConventions.text? :=
        rel_elim hseparator rfl fun _ _ hvalue => hvalue.text
      rw [hrule, htext]
      refine rel_bind (rel_refl (R := (· = ·)) (fun _ => rfl) _) fun rule _ hrule => ?_
      refine rel_bind (rel_refl (R := (· = ·)) (fun _ => rfl) _) fun text _ htext => ?_
      refine rel_bind (rel_elim hunits (.some fun _ => .none) fun _ _ hmap => hmap) ?_
      exact fun m n hmap => .some (Definition.reorders_of_alike hrule htext hmap)
  | forms =>
      refine rel_eq_iff.1 ?_
      rw [Forms.ofDocument?_eq, Forms.ofDocument?_eq]
      refine rel_bind (h 0) fun abbreviation abbreviation' habbreviation => ?_
      refine rel_bind (h 1) fun words words' hwords => ?_
      have htext : abbreviation.elim none jsonConventions.text?
          = abbreviation'.elim none jsonConventions.text? :=
        rel_elim habbreviation rfl fun _ _ hvalue => hvalue.text
      have htexts : words.elim none (listOf? jsonConventions jsonConventions.text?)
          = words'.elim none (listOf? jsonConventions jsonConventions.text?) :=
        rel_elim hwords rfl fun _ _ hvalue => hvalue.texts
      rw [htext, htexts]
      exact rel_refl (fun _ => rfl) _
  | _ => exact absurd rfl hrecord

theorem agree_of_fields_eq (hrecord : p.fieldNames ≠ [])
    (h : ∀ i, recordField? p.fieldNames i v = recordField? p.fieldNames i w) : p.Agree v w := by
  refine agree_of_fields hrecord fun i => ?_
  rw [h]
  exact rel_refl (rel_refl (Place.Agree.refl _)) _

theorem rel_field_under (h : (p.under name).Agree v w) (i : Nat) :
    Option.Rel (Option.Rel (p.item i).Agree)
      (recordField? p.fieldNames i (.table (front ++ (name, v) :: back)))
      (recordField? p.fieldNames i (.table (front ++ (name, w) :: back))) :=
  field?_rel (Place.Agree.refl _) fun hname => Place.under_eq hname ▸ h

theorem rel_field_item (h : (p.item before.length).Agree v w) (i : Nat) :
    Option.Rel (Option.Rel (p.item i).Agree)
      (recordField? p.fieldNames i (.list (before ++ v :: after)))
      (recordField? p.fieldNames i (.list (before ++ w :: after))) := by
  simp only [recordField?, List.length_append, List.length_cons]
  split_ifs
  · refine .some ?_
    rcases lt_trichotomy i before.length with hi | rfl | hi
    · rw [List.getElem?_append_left hi, List.getElem?_append_left hi]
      exact rel_refl (Place.Agree.refl _) _
    · rw [List.getElem?_append_right le_rfl, List.getElem?_append_right le_rfl, Nat.sub_self]
      exact .some h
    · obtain ⟨n, hn⟩ := Nat.exists_eq_succ_of_ne_zero (Nat.sub_ne_zero_of_lt hi)
      rw [List.getElem?_append_right hi.le, List.getElem?_append_right hi.le, hn]
      exact rel_refl (Place.Agree.refl _) _
  · exact .none

theorem agree_definition_of_eq (h : Definition.ofDocument? jsonConventions v
    = Definition.ofDocument? jsonConventions w) : Place.definition.Agree v w := by
  rw [Place.Agree, h]
  exact rel_refl Definition.Reorders.refl _

/-! ## Other values -/

/-- A table stands for a rule if there is nothing in it but the name of the rule. -/
theorem pluralOf?_table (entries : List (String × Tree)) :
    pluralOf? jsonConventions (.table entries) = (only? entries).join.bind fun e =>
      if jsonConventions.isVoid e.2 then (PluralRule.ofName? e.1).map some else none := by
  rw [pluralOf?, shape_table]
  rcases entries with _ | ⟨e, _ | ⟨e', rest⟩⟩
  · rfl
  · simp [named, ruleOf?, only?]
  · simp [named, jsonConventions, only?]

theorem sameValue_perm (h : entries.Perm entries') :
    SameValue (.table entries) (.table entries') := by
  refine ⟨rfl, rfl, ?_, rfl⟩
  rw [pluralOf?_table, pluralOf?_table, only?_perm h]

theorem sameValue_under (h : SameValue v w) :
    SameValue (.table (front ++ (name, v) :: back)) (.table (front ++ (name, w) :: back)) := by
  refine ⟨rfl, rfl, ?_, rfl⟩
  rw [pluralOf?_table, pluralOf?_table, only?_append_cons, only?_append_cons]
  split_ifs
  · simp only [Option.join_some, Option.bind_some, h.isVoid]
  · rfl

theorem sameValue_item (h : SameValue v w) :
    SameValue (.list (before ++ v :: after)) (.list (before ++ w :: after)) := by
  refine ⟨rfl, ?_, rfl, rfl⟩
  have hlist (items : List Tree) : listOf? jsonConventions jsonConventions.text? (.list items)
      = items.mapM jsonConventions.text? := rfl
  rw [hlist, hlist, List.mapM_append, List.mapM_append, List.mapM_cons, List.mapM_cons, h.text]

/-! ## All changes -/

/-- A change of spelling keeps what a value stands for. -/
theorem Respells.agree (h : Respells p v w) : p.Agree v w := by
  induction h with
  | @order p entries entries' hnodup h =>
      cases p with
      | definitions => exact mapOf?_perm Definition.Reorders.refl hnodup h
      | units => exact mapOf?_perm (fun _ => rfl) hnodup h
      | value => exact sameValue_perm h
      | _ => exact agree_of_fields_eq (by decide) fun i => field?_perm h
  | unknown hrecord hname =>
      refine agree_of_fields_eq hrecord fun i => (field?_skip fun hmem => ?_).symm
      obtain ⟨hi, hmem⟩ := Place.exists_getElem_of_mem hmem
      exact hname _ (List.getElem_mem hi) hmem
  | renamed hnames ha hb =>
      exact agree_of_fields_eq (List.ne_nil_of_mem hnames) fun i =>
        field?_rename (Place.mem_fieldNames_iff hnames ha hb i)
  | separator h =>
      obtain ⟨hgiven, hmissing, hothers⟩ := recordField?_given .definition 1 List.mem_cons_self
        (fun e he hmem => h e he (List.mem_singleton.1 hmem)) (.text " ")
      rw [Place.fieldNames] at hgiven hmissing hothers
      refine agree_definition_of_eq ?_
      rw [Definition.ofDocument?_eq, Definition.ofDocument?_eq, hgiven, hmissing,
        hothers 0 (by decide), hothers 2 (by decide)]
      rfl
  | plural h =>
      obtain ⟨hgiven, hmissing, hothers⟩ := recordField?_given .definition 0 List.mem_cons_self
        (fun e he hmem => h e he (List.mem_singleton.1 hmem)) .null
      rw [Place.fieldNames] at hgiven hmissing hothers
      refine agree_definition_of_eq ?_
      rw [Definition.ofDocument?_eq, Definition.ofDocument?_eq, hgiven, hmissing,
        hothers 1 (by decide), hothers 2 (by decide)]
      rfl
  | @under p front back name v w h ih =>
      cases p with
      | definitions => exact mapOf?_rel Definition.Reorders.refl ih
      | units => exact mapOf?_rel (fun _ => rfl) (rel_eq_iff.2 ih)
      | value => exact sameValue_under ih
      | _ => exact agree_of_fields (by decide) (rel_field_under ih)
  | @item p before after v w h ih =>
      cases p with
      | definitions => exact .none
      | units => exact .none
      | value => exact sameValue_item ih
      | _ => exact agree_of_fields (by decide) (rel_field_item ih)

namespace Catalogue

variable {x y : String} {t u : Tree} {explain : Format → String → String}

/-- Any number of changes keep what a document stands for. -/
theorem rel_of_respellings (h : Relation.EqvGen (Respells .file) t u) :
    Option.Rel Reorders (ofDocument? jsonConventions t) (ofDocument? jsonConventions u) := by
  induction h with
  | rel t u h => exact h.agree
  | refl t => exact rel_refl Reorders.refl _
  | symm t u _ ih => exact rel_symm ih fun _ _ h => h.symm
  | trans t u v _ _ ih ih' => exact rel_trans ih ih' fun _ _ _ h h' => h.trans h'

theorem parse_eq_of_read (h : Json.read x.toList = some t) :
    Catalogue.parse (.standard explain) .json x
      = (ofDocument? jsonConventions t).elim (.error (.malformed .json (explain .json x))) .ok := by
  have htext : ofText? .json x.toList = ofDocument? jsonConventions t := by
    rw [ofText?, h]
    rfl
  rw [parse, Decoder.standard, htext]
  cases ofDocument? jsonConventions t with
  | none => rfl
  | some c => rfl

theorem parseAll_eq_of_read (h : Json.read x.toList = some t) (order : EntryOrder) :
    Table.parseAll (.standard explain) order .json x
      = (ofDocument? jsonConventions t).elim (.error (.malformed .json (explain .json x)))
          fun c => (order.arrange c).toTables := by
  rw [Table.parseAll, parse_eq_of_read h]
  cases ofDocument? jsonConventions t with
  | none => rfl
  | some c => rfl

/-- **How a document is spelled does not matter where it should not.**  If the documents of two
texts differ by changes of spelling only, both texts are malformed, or they have the same catalogue
up to the order of its entries.  Then they have the same tables, or none, and what is wrong with
each is something that the same definition can be refused for, in whatever order the entries of
either are met.  A document that gives a field twice, be it under one name or under two, is
malformed, and nothing is loaded from it.  But identifiers and names of units are data: whatever
they are, they are kept, each with its own value. -/
theorem parse_respelled (x y : String) (explain : Format → String → String)
    (hx : Json.read x.toList = some t) (hy : Json.read y.toList = some u) :
    (Relation.EqvGen (Respells .file) t u →
      (Catalogue.parse (.standard explain) .json x = .error (.malformed .json (explain .json x)) ∧
        Catalogue.parse (.standard explain) .json y
          = .error (.malformed .json (explain .json y))) ∨
      ∃ c c', Catalogue.parse (.standard explain) .json x = .ok c ∧
        Catalogue.parse (.standard explain) .json y = .ok c' ∧ c.Reorders c' ∧
        ∀ order order',
          (∀ tables, Table.parseAll (.standard explain) order .json x = .ok tables ↔
            Table.parseAll (.standard explain) order' .json y = .ok tables) ∧
          ∀ e e', Table.parseAll (.standard explain) order .json x = .error e →
            Table.parseAll (.standard explain) order' .json y = .error e' →
            ∃ id d, c.FirstRejected id d ∧ d.Refuses id e ∧ d.Refuses id e') ∧
    (GivesTwice .file t → ∀ order,
      Table.parseAll (.standard explain) order .json x
        = .error (.malformed .json (explain .json x)) ∧
      ∀ r : Registry, r.loadText (.standard explain) order .json x
        = r.fail (.malformed .json (explain .json x))) ∧
    (∀ name front back defs, t = .table (front ++ (name, .table defs) :: back) →
      name ∈ ["locales", "locale"] → (∀ e ∈ front ++ back, e.1 ∉ ["locales", "locale"]) →
      (defs.map Prod.fst).Nodup →
      ∀ c, Catalogue.parse (.standard explain) .json x = .ok c ↔
        c.locales.Lists (Definition.ofDocument? jsonConventions) defs) ∧
    ∀ name front back units, name ∈ ["units", "unit"] →
      (∀ e ∈ front ++ back, e.1 ∉ ["units", "unit"]) → (units.map Prod.fst).Nodup →
      ∀ d, Definition.ofDocument? jsonConventions (.table (front ++ (name, .table units) :: back))
          = some d ↔
        d.units.Lists (Forms.ofDocument? jsonConventions) units ∧
          Definition.ofDocument? jsonConventions (.table (front ++ back))
            = some { d with units := .empty } := by
  refine ⟨fun h => ?_, fun h order => ?_, ?_, ?_⟩
  · simp only [parseAll_eq_of_read hx, parseAll_eq_of_read hy, parse_eq_of_read hx,
      parse_eq_of_read hy]
    have hsame := rel_of_respellings h
    generalize ofDocument? jsonConventions t = c, ofDocument? jsonConventions u = c' at hsame
    cases hsame with
    | none => exact .inl ⟨rfl, rfl⟩
    | @some c c' hreorders =>
        refine .inr ⟨c, c', rfl, rfl, hreorders, fun order order' => ?_⟩
        have hx' := order.reorders c
        have hy' := hreorders.trans (order'.reorders c')
        exact ⟨fun tables => hx'.toTables_eq_ok_iff.trans hy'.toTables_eq_ok_iff.symm,
          fun e e' he he' => hx'.exists_refuses hy' he he'⟩
  · have herror : Table.parseAll (.standard explain) order .json x
        = .error (.malformed .json (explain .json x)) := by
      have hnone : ofDocument? jsonConventions t = none := h.rejects
      rw [parseAll_eq_of_read hx, hnone]
      rfl
    exact ⟨herror, fun r => Registry.loadText_of_error herror r⟩
  · rintro name front back defs rfl hname hothers hnodup c
    rw [← ofDocument?_definitions_iff hname hothers hnodup, parse_eq_of_read hx]
    cases ofDocument? jsonConventions (.table (front ++ (name, .table defs) :: back)) with
    | none => simp
    | some c => simp
  · exact fun name front back units hname hothers hnodup d =>
      Definition.ofDocument?_units_iff hname hothers hnodup

/-- One definition in two spellings, under names that are those of fields elsewhere, and another one
that gives a field twice. -/
theorem parse_respelled_reserved_names :
    let forms : Tree := .table [("abbreviation", .text "x"), ("words", .list [])]
    let forms' : Tree := .table [("words", .list []), ("units", .null), ("abbreviation", .text "x")]
    let definition : Tree := .table [("plural", .null), ("separator", .text " "),
      ("units", .table [("locale", forms)])]
    let definition' : Tree := .table [("unit", .table [("locale", forms')])]
    let twice : Tree := .table [("unit", .null), ("units", .null)]
    let t : Tree := .table [("locales", .table [("unit", definition)]), ("unit", .other)]
    let u : Tree := .table [("locale", .table [("unit", definition')])]
    let t' : Tree := .table [("locale", .table [("unit", twice)])]
    let text (v : Tree) : String := String.ofList (Json.write v)
    Relation.EqvGen (Respells .file) t u ∧ GivesTwice .file t' ∧
      (∃ c c', Catalogue.parse .terse .json (text t) = .ok c ∧
        Catalogue.parse .terse .json (text u) = .ok c' ∧
        c.Reorders c' ∧ c'.locales.keys = ["unit"] ∧ c'.locales.get? "unit"
          = some { plural := none, separator := " ", units := .ofList [("locale", ⟨"x", []⟩)] }) ∧
      ∀ r : Registry, r.loadText .terse .given .json (text t') = r.fail (.malformed .json "") := by
  intro forms forms' definition definition' twice t u t' text
  have hread (v : Tree) : Json.read (text v).toList = some v := by
    rw [String.toList_ofList]
    exact Json.read_write v
  let inFile (d : Tree) : Tree := .table [("locale", .table [("unit", d)])]
  let inDefinition (f : Tree) : Tree := .table [("unit", .table [("locale", f)])]
  have hdefinition {d d' : Tree} (h : Respells .definition d d') :
      Respells .file (inFile d) (inFile d') :=
    @Respells.under .file [] [] "locale" _ _ (@Respells.under .definitions [] [] "unit" _ _ h)
  have hforms {f f' : Tree} (h : Respells .forms f f') :
      Respells .file (inFile (inDefinition f)) (inFile (inDefinition f')) :=
    hdefinition <| @Respells.under .definition [] [] "unit" _ _ <|
      @Respells.under .units [] [] "locale" _ _ h
  have hspelling : Relation.EqvGen (Respells .file) t u := by
    have hnote : Respells .file (.table [("locales", .table [("unit", definition)])]) t :=
      @Respells.unknown .file [_] [] "unit" _ (by decide) (by decide)
    have hlocale : Respells .file (.table [("locales", .table [("unit", definition)])])
        (inFile definition) :=
      @Respells.renamed .file [] [] ["locales", "locale"] "locales" "locale" _ (by decide)
        (by decide) (by decide)
    have hplural := hdefinition (@Respells.plural []
      [("separator", .text " "), ("units", .table [("locale", forms)])] (by simp))
    have hseparator := hdefinition (@Respells.separator [] [("units", .table [("locale", forms)])]
      (by simp))
    have hunit : Respells .definition (.table [("units", .table [("locale", forms)])])
        (inDefinition forms) :=
      @Respells.renamed .definition [] [] ["units", "unit"] "units" "unit" _ (by decide)
        (by decide) (by decide)
    have horder := hforms (@Respells.order .forms [("abbreviation", .text "x"), ("words", .list [])]
      [("words", .list []), ("abbreviation", .text "x")] (by decide) (List.Perm.swap ..))
    have hunknown := hforms (@Respells.unknown .forms [("words", .list [])]
      [("abbreviation", .text "x")] "units" .null (by decide) (by decide))
    refine .trans _ _ _ (.symm _ _ (.rel _ _ hnote)) (.trans _ _ _ (.rel _ _ hlocale) ?_)
    refine .trans _ _ _ (.symm _ _ (.rel _ _ hplural)) ?_
    refine .trans _ _ _ (.symm _ _ (.rel _ _ hseparator)) ?_
    refine .trans _ _ _ (.rel _ _ (hdefinition hunit)) ?_
    exact .trans _ _ _ (.rel _ _ horder) (.rel _ _ hunknown)
  have htwice : GivesTwice .file t' :=
    @GivesTwice.under .file [] [] "locale" _ <| @GivesTwice.under .definitions [] [] "unit" _ <|
      @GivesTwice.here .definition [] [] [] ["units", "unit"] "unit" "units" _ _ (by decide)
        (by decide) (by decide)
  let quiet : Format → String → String := fun _ _ => ""
  obtain ⟨hspelled, -, -, -⟩ := parse_respelled (text t) (text u) quiet (hread t) (hread u)
  obtain ⟨-, hfails, -, -⟩ := parse_respelled (text t') (text u) quiet (hread t') (hread u)
  obtain ⟨-, -, hkeys, -⟩ := parse_respelled (text u) (text t) quiet (hread u) (hread t)
  refine ⟨hspelling, htwice, ?_, (hfails htwice .given).2⟩
  rcases hspelled hspelling with ⟨-, herror⟩ | ⟨c, c', hc, hc', hreorders, -⟩
  · have hsome : (ofDocument? jsonConventions u).isSome := by decide +kernel
    obtain ⟨c', hc'⟩ := Option.isSome_iff_exists.1 hsome
    rw [parse_eq_of_read (hread u), hc'] at herror
    cases herror
  · have hlists := (hkeys "locale" [] [] _ rfl (by decide) (by simp) (by decide) c').1 hc'
    have hread' : Definition.ofDocument? jsonConventions definition'
        = some { plural := none, separator := " ", units := .ofList [("locale", ⟨"x", []⟩)] } := by
      decide +kernel
    exact ⟨c, c', hc, hc', hreorders, hlists.keys,
      (hlists.get? ("unit", definition') List.mem_cons_self).trans hread'⟩

end Catalogue

end Elapsed.Locale
