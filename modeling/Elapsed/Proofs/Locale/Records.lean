import Elapsed.Locale.Load
import Elapsed.Proofs.Computation
import Elapsed.Proofs.Locale.Run

/-!
# Records and maps

A locale file has two kinds of tables.

*Records.*  Of a record only the fields count, and each of them on its own: `field?_named` says that
its value is that of the only entry under one of its names.  So it does not matter where that entry
stands (`field?_perm`), under which of the names (`field?_rename`), and what else there is
(`field?_skip`).  What is read from a record is a matter of its fields alone
(`Forms.ofDocument?_eq`, `Definition.ofDocument?_eq`, `Catalogue.ofDocument?_eq`).

*Maps.*  Of a map everything counts.  `mapOf?_eq_some_iff`: what is read has the names of the table,
whatever they are, and under each of them what its value stands for (`Entries.Lists`).
-/

namespace Elapsed

open Document

/-! ## Entries -/

namespace Entries

variable {α β : Type}

/-- Whether two collections have the same names, and related values under each of them. -/
def Alike (R : α → β → Prop) (m : Entries α) (n : Entries β) : Prop :=
  ∀ name, Option.Rel R (m.get? name) (n.get? name)

/-- Whether the names of a collection are those of entries, in their order, and under each of them
is what is read from the value there. -/
structure Lists {γ : Type} (m : Entries α) (read : γ → Option α) (entries : List (String × γ)) :
    Prop where
  keys : m.keys = entries.map Prod.fst
  get? : ∀ e ∈ entries, m.get? e.1 = read e.2

theorem alike_ofList {R : α → β → Prop} {l : List (String × α)} {l' : List (String × β)}
    (h : List.Forall₂ (fun e e' => e.1 = e'.1 ∧ R e.2 e'.2) l l') :
    (ofList l).Alike R (ofList l') := by
  intro name
  rw [get?_ofList, get?_ofList, findRev?_eq_find?_reverse, findRev?_eq_find?_reverse]
  replace h := List.forall₂_reverse_iff.2 h
  generalize l.reverse = l, l'.reverse = l' at h
  induction h with
  | nil => exact .none
  | @cons e e' l l' he _ ih =>
      rw [List.find?_cons, List.find?_cons, he.1]
      cases e'.1 == name with
      | true => exact .some he.2
      | false => exact ih

end Entries

namespace Locale

/-! ## Fields -/

/-- The entries of a table, each of them under a text. -/
def named (entries : List (String × Tree)) : List (Name × Tree) :=
  entries.map fun e => (.text e.1, e.2)

theorem shape_table (entries : List (String × Tree)) :
    jsonConventions.shape (.table entries) = .table (named entries) := rfl

/-- The only item of a list; nothing if there is none, an error if there are several. -/
def only? {α : Type} : List α → Option (Option α)
  | [] => some none
  | [a] => some (some a)
  | _ => none

section Only

variable {α : Type} {l l' : List α}

theorem only?_append_cons (front back : List α) (a : α) :
    only? (front ++ a :: back) = if front = [] ∧ back = [] then some (some a) else none := by
  rcases front with _ | ⟨x, _ | ⟨y, front⟩⟩
  · rcases back with _ | ⟨z, back⟩
    · rfl
    · rfl
  · rfl
  · rfl

theorem only?_perm (h : l.Perm l') : only? l = only? l' := by
  rcases l with _ | ⟨a, _ | ⟨b, rest⟩⟩
  · rw [List.nil_perm.1 h]
  · rw [List.singleton_perm.1 h]
  · have hlength := h.length_eq
    rcases l' with _ | ⟨x, _ | ⟨y, rest'⟩⟩
    · simp at hlength
    · simp at hlength
    · rfl

end Only

section Fields

variable {names : List String} {place : Nat} {entries entries' front back : List (String × Tree)}
variable {name : String} {v v' : Tree}

/-- A field has the value of the only entry under one of its names. -/
theorem field?_named (names : List String) (place : Nat) (entries : List (String × Tree)) :
    field? names place (named entries)
      = (only? (entries.filter fun e => names.contains e.1)).map (·.map Prod.snd) := by
  have hfilter : (named entries).filter (fun e => isFieldName names place e.1)
      = named (entries.filter fun e => names.contains e.1) := by
    rw [named, List.filter_map]
    rfl
  rw [field?, hfilter]
  generalize entries.filter (fun e => names.contains e.1) = kept
  rcases kept with _ | ⟨e, _ | ⟨e', rest⟩⟩
  · rfl
  · rfl
  · rfl

theorem field?_named_append_cons (names : List String) (place : Nat)
    (front back : List (String × Tree)) (name : String) (v : Tree) :
    field? names place (named (front ++ (name, v) :: back))
      = if name ∈ names then
          if ∀ e ∈ front ++ back, e.1 ∉ names then some (some v) else none
        else field? names place (named (front ++ back)) := by
  by_cases h : name ∈ names
  · have hothers : (∀ e ∈ front ++ back, e.1 ∉ names) ↔
        (front.filter fun e => names.contains e.1) = [] ∧
          (back.filter fun e => names.contains e.1) = [] := by
      simp only [List.forall_mem_append, List.filter_eq_nil_iff, List.contains_iff_mem]
    simp only [field?_named, List.filter_append, List.filter_cons, List.contains_iff_mem, h,
      if_true, only?_append_cons, hothers]
    split
    · rfl
    · rfl
  · simp [field?_named, h]

/-- The order of the entries does not matter. -/
theorem field?_perm (h : entries.Perm entries') :
    field? names place (named entries) = field? names place (named entries') := by
  rw [field?_named, field?_named, only?_perm (h.filter _)]

/-- An entry under another name does not matter. -/
theorem field?_skip (h : name ∉ names) :
    field? names place (named (front ++ (name, v) :: back))
      = field? names place (named (front ++ back)) := by
  rw [field?_named_append_cons, if_neg h]

/-- Under which of its names a field is given does not matter. -/
theorem field?_rename {a b : String} (h : a ∈ names ↔ b ∈ names) :
    field? names place (named (front ++ (a, v) :: back))
      = field? names place (named (front ++ (b, v) :: back)) := by
  rw [field?_named_append_cons, field?_named_append_cons]
  simp only [h]

theorem field?_missing (h : ∀ e ∈ entries, e.1 ∉ names) :
    field? names place (named entries) = some none := by
  have hfilter : (entries.filter fun e => names.contains e.1) = [] := by
    simpa [List.filter_eq_nil_iff] using h
  rw [field?_named, hfilter, only?]
  rfl

theorem field?_twice {a b : String} {middle : List (String × Tree)} (ha : a ∈ names)
    (hb : b ∈ names) :
    field? names place (named (front ++ (a, v) :: (middle ++ (b, v') :: back))) = none := by
  rw [field?_named_append_cons, if_pos ha, if_neg]
  intro h
  exact h (b, v') (by simp) hb

/-- Another value under one name is another value of the field of that name. -/
theorem field?_rel {R : Tree → Tree → Prop} (hrefl : ∀ t, R t t) (h : name ∈ names → R v v') :
    Option.Rel (Option.Rel R) (field? names place (named (front ++ (name, v) :: back)))
      (field? names place (named (front ++ (name, v') :: back))) := by
  rw [field?_named_append_cons, field?_named_append_cons]
  split_ifs with hname hothers
  · exact .some (.some (h hname))
  · exact .none
  · exact rel_refl (rel_refl hrefl) _

end Fields

/-! ## Records -/

/-- The value of the field of a record at a place. -/
def recordField? (fields : List (List String)) (place : Nat) : Tree → Option (Option Tree)
  | .table entries => field? (fields.getD place []) place (named entries)
  | .list items => if items.length ≤ fields.length then some items[place]? else none
  | _ => none

section Records

variable {fields : List (List String)}

theorem fields?_table (fields : List (List String)) (entries : List (String × Tree)) :
    fields? jsonConventions fields (.table entries)
      = fields.zipIdx.mapM fun f => field? f.1 f.2 (named entries) := by
  have hnone : ((named entries).any fun e => e.1 == .other) = false := by
    simp [named]
  rw [fields?, shape_table]
  simp only [hnone, Bool.false_eq_true, if_false]

theorem fields?_list (fields : List (List String)) (items : List Tree) :
    fields? jsonConventions fields (.list items)
      = if items.length ≤ fields.length then
          some ((List.range fields.length).map fun i => items[i]?)
        else none := by
  have hshape : jsonConventions.shape (.list items) = .list items := rfl
  rw [fields?, hshape]
  simp [jsonConventions]

/-- A record is read field by field. -/
theorem fields?_eq (h : fields ≠ []) (v : Tree) :
    fields? jsonConventions fields v
      = (List.range fields.length).mapM fun place => recordField? fields place v := by
  have hfails : (List.range fields.length).mapM (fun _ => (none : Option (Option Tree)))
      = none := by
    obtain ⟨n, hn⟩ := Nat.exists_eq_succ_of_ne_zero fun h0 => h (List.length_eq_zero_iff.1 h0)
    rw [hn, List.range_succ_eq_map, List.mapM_cons]
    rfl
  cases v with
  | null => exact hfails.symm
  | other => exact hfails.symm
  | text s => exact hfails.symm
  | list items =>
      rw [fields?_list]
      simp only [recordField?]
      split_ifs
      · exact (List.mapM_pure (m := Option)).symm
      · exact hfails.symm
  | table entries =>
      have hzip : fields.zipIdx
          = (List.range fields.length).map fun place => (fields.getD place [], place) := by
        refine List.ext_getElem (by simp) fun i hi hi' => ?_
        rw [List.length_zipIdx] at hi
        simp [hi]
      rw [fields?_table, hzip, List.mapM_map]
      rfl

end Records

/-- The names of the fields of a unit's texts. -/
def Forms.fieldNames : List (List String) :=
  [["abbreviation"], ["words"]]

/-- The names of the fields of a definition. -/
def Definition.fieldNames : List (List String) :=
  [["plural"], ["separator"], ["units", "unit"]]

/-- The names of the fields of a catalogue. -/
def Catalogue.fieldNames : List (List String) :=
  [["locales", "locale"]]

theorem Forms.ofDocument?_eq (v : Tree) :
    Forms.ofDocument? jsonConventions v = do
      let abbreviation ← recordField? fieldNames 0 v
      let words ← recordField? fieldNames 1 v
      return {
        abbreviation := ← abbreviation.elim none jsonConventions.text?
        words := ← words.elim none (listOf? jsonConventions jsonConventions.text?) } := by
  rw [ofDocument?, ← fieldNames, fields?_eq (by decide)]
  have hrange : List.range fieldNames.length = [0, 1] := rfl
  simp only [hrange, List.mapM_cons, List.mapM_nil, bind_assoc, pure_bind]
  refine bind_congr fun abbreviation => bind_congr fun words => ?_
  cases abbreviation with
  | none => rfl
  | some abbreviation =>
      cases words with
      | none => exact (Option.bind_fun_none (jsonConventions.text? abbreviation)).symm
      | some words => rfl

theorem Definition.ofDocument?_eq (v : Tree) :
    Definition.ofDocument? jsonConventions v = do
      let plural ← recordField? fieldNames 0 v
      let separator ← recordField? fieldNames 1 v
      let units ← recordField? fieldNames 2 v
      return {
        plural := ← plural.elim (some none) (pluralOf? jsonConventions)
        separator := ← separator.elim (some " ") jsonConventions.text?
        units := ← units.elim (some .empty)
          (mapOf? jsonConventions (Forms.ofDocument? jsonConventions)) } := by
  rw [ofDocument?, ← fieldNames, fields?_eq (by decide)]
  have hrange : List.range fieldNames.length = [0, 1, 2] := rfl
  simp only [hrange, List.mapM_cons, List.mapM_nil, bind_assoc, pure_bind]

theorem Definition.ofDocument?_eq_some_iff {v : Tree} {d : Definition} :
    Definition.ofDocument? jsonConventions v = some d ↔ ∃ plural separator units,
      recordField? fieldNames 0 v = some plural ∧ recordField? fieldNames 1 v = some separator ∧
      recordField? fieldNames 2 v = some units ∧
      plural.elim (some none) (pluralOf? jsonConventions) = some d.plural ∧
      separator.elim (some " ") jsonConventions.text? = some d.separator ∧
      units.elim (some .empty) (mapOf? jsonConventions (Forms.ofDocument? jsonConventions))
        = some d.units := by
  rw [ofDocument?_eq]
  constructor
  · intro h
    obtain ⟨plural, hplural, h⟩ := Option.bind_eq_some_iff.1 h
    obtain ⟨separator, hseparator, h⟩ := Option.bind_eq_some_iff.1 h
    obtain ⟨units, hunits, h⟩ := Option.bind_eq_some_iff.1 h
    obtain ⟨rule, hrule, h⟩ := Option.bind_eq_some_iff.1 h
    obtain ⟨text, htext, h⟩ := Option.bind_eq_some_iff.1 h
    obtain ⟨m, hm, h⟩ := Option.bind_eq_some_iff.1 h
    cases h
    exact ⟨plural, separator, units, hplural, hseparator, hunits, hrule, htext, hm⟩
  · rintro ⟨plural, separator, units, hplural, hseparator, hunits, hrule, htext, hm⟩
    simp [hplural, hseparator, hunits, hrule, htext, hm]

theorem Catalogue.ofDocument?_eq (v : Tree) :
    Catalogue.ofDocument? jsonConventions v = do
      let locales ← recordField? fieldNames 0 v
      return {
        locales := ← locales.elim (some .empty)
          (mapOf? jsonConventions (Definition.ofDocument? jsonConventions)) } := by
  rw [ofDocument?, ← fieldNames, fields?_eq (by decide)]
  have hrange : List.range fieldNames.length = [0] := rfl
  simp only [hrange, List.mapM_cons, List.mapM_nil, bind_assoc, pure_bind]

/-! ## Maps -/

section Maps

variable {α : Type} {value : Tree → Option α} {R : α → α → Prop} {m : Entries α}
variable {entries entries' front back : List (String × Tree)} {name : String} {v v' : Tree}

theorem mapOf?_table (value : Tree → Option α) (entries : List (String × Tree)) :
    mapOf? jsonConventions value (.table entries)
      = (entries.mapM fun e => (value e.2).map fun a => (e.1, a)).map Entries.ofList := by
  rw [mapOf?, shape_table]
  simp only [named, List.mapM_map]
  rfl

theorem forall₂_names_iff {β : Type} {l : List (String × α)} {l' : List (String × β)} :
    List.Forall₂ (fun e x => e.1 = x.1) l l' ↔ l.map Prod.fst = l'.map Prod.fst := by
  rw [← List.forall₂_eq_eq_eq, List.forall₂_map_left_iff, List.forall₂_map_right_iff]

theorem forall₂_of_mapM {l : List (String × α)}
    (h : (entries.mapM fun e => (value e.2).map fun a => (e.1, a)) = some l) :
    List.Forall₂ (fun e x => e.1 = x.1 ∧ value e.2 = some x.2) entries l := by
  refine (mapM_eq_some_iff.1 h).imp fun e x hx => ?_
  obtain ⟨a, ha, rfl⟩ := Option.map_eq_some_iff.1 hx
  exact ⟨rfl, ha⟩

/-- What is read from entries has their names. -/
theorem names_of_mapM {l : List (String × α)}
    (h : (entries.mapM fun e => (value e.2).map fun a => (e.1, a)) = some l) :
    entries.map Prod.fst = l.map Prod.fst :=
  forall₂_names_iff.1 ((forall₂_of_mapM h).imp fun _ _ he => he.1)

/-- The names of a map are data: whatever they are, they are kept, each with its own value. -/
theorem mapOf?_eq_some_iff (hnodup : (entries.map Prod.fst).Nodup) :
    mapOf? jsonConventions value (.table entries) = some m ↔ m.Lists value entries := by
  rw [mapOf?_table, Option.map_eq_some_iff]
  constructor
  · rintro ⟨l, hl, rfl⟩
    have hnames := names_of_mapM hl
    have hlist : (Entries.ofList l).toList = l := Entries.toList_ofList (hnames ▸ hnodup)
    refine ⟨by rw [Entries.keys, hlist, hnames], fun e he => ?_⟩
    obtain ⟨x, hx, hname, hvalue⟩ := exists_mem_of_forall₂ (forall₂_of_mapM hl) he
    rw [hvalue, hname, ← Entries.mem_toList_iff, hlist]
    exact hx
  · rintro ⟨hkeys, hget⟩
    have hnames : List.Forall₂ (fun e x => e.1 = x.1) entries m.toList :=
      forall₂_names_iff.2 hkeys.symm
    have hread : List.Forall₂ (fun e x => (value e.2).map (fun a => (e.1, a)) = some x) entries
        m.toList := by
      have hright := (List.forall₂_and_left _ _).2
        ⟨fun x hx => Entries.mem_toList_iff.1 hx, hnames.flip⟩
      refine ((List.forall₂_and_left _ _).2 ⟨hget, hright.flip⟩).imp ?_
      rintro e ⟨name, a⟩ ⟨he, ha, rfl⟩
      rw [← he, ha, Option.map_some]
    exact ⟨m.toList, mapM_eq_some_iff.2 hread, m.ofList_toList⟩

/-- The order of the entries does not matter. -/
theorem mapOf?_perm (hrefl : ∀ a, R a a) (hnodup : (entries.map Prod.fst).Nodup)
    (h : entries.Perm entries') :
    Option.Rel (Entries.Alike R) (mapOf? jsonConventions value (.table entries))
      (mapOf? jsonConventions value (.table entries')) := by
  rw [mapOf?_table, mapOf?_table]
  have hperm := rel_mapM_perm (f := fun e => (value e.2).map fun a => (e.1, a)) h
  generalize hl : (entries.mapM fun e => (value e.2).map fun a => (e.1, a)) = x at hperm
  generalize (entries'.mapM fun e => (value e.2).map fun a => (e.1, a)) = y at hperm
  cases hperm with
  | none => exact .none
  | @some l l' hperm =>
      have hlist : (l.map Prod.fst).Nodup := names_of_mapM hl ▸ hnodup
      have hlist' : (l'.map Prod.fst).Nodup := (hperm.map _).nodup_iff.1 hlist
      refine .some fun name => ?_
      rw [Entries.get?_eq_of_perm (m := .ofList l) (n := .ofList l') (by
        rwa [Entries.toList_ofList hlist, Entries.toList_ofList hlist']) name]
      exact rel_refl hrefl _

/-- Another value under one name is read under that name. -/
theorem mapOf?_rel (hrefl : ∀ a, R a a) (h : Option.Rel R (value v) (value v')) :
    Option.Rel (Entries.Alike R)
      (mapOf? jsonConventions value (.table (front ++ (name, v) :: back)))
      (mapOf? jsonConventions value (.table (front ++ (name, v') :: back))) := by
  have hsame (l : List (String × Tree)) :
      List.Forall₂ (fun e e' => e.1 = e'.1 ∧ Option.Rel R (value e.2) (value e'.2)) l l :=
    List.forall₂_same.2 fun e _ => ⟨rfl, rel_refl hrefl _⟩
  rw [mapOf?_table, mapOf?_table]
  refine rel_map (rel_mapM (List.rel_append (hsame front) (.cons ⟨rfl, h⟩ (hsame back))) ?_)
    fun _ _ => Entries.alike_ofList
  rintro e e' ⟨hname, hvalue⟩
  exact rel_map hvalue fun a b hab => ⟨hname, hab⟩

/-- Every value has to be readable. -/
theorem mapOf?_eq_none (h : value v = none) :
    mapOf? jsonConventions value (.table (front ++ (name, v) :: back)) = none := by
  rw [mapOf?_table, Option.map_eq_none_iff, List.mapM_append, List.mapM_cons, h]
  cases front.mapM fun e => (value e.2).map fun a => (e.1, a) with
  | none => rfl
  | some l => rfl

end Maps

end Locale

end Elapsed
