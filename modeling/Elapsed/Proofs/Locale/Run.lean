import Mathlib.Data.List.Nodup
import Mathlib.Data.String.Basic
import Elapsed.Proofs.Locale.Catalogue

/-!
# A registry is a plain map

A registry keeps the table of the baseline apart from all others, and each of its operations treats
that one identifier on its own.  Whatever is done to a registry, nothing of this shows: it answers
like one map from identifiers to tables, with one selected identifier beside it
(`Registry.BehavesAs`).

*One step.*  `Operation.get?_apply` and `Operation.current_apply` say what an operation does to the
answers; `Operation.wellFormed_apply` that it keeps the invariant `Registry.WellFormed`: the
baseline's place holds a table of that identifier, every other table is filed under its own
identifier, and none of them is the baseline's.

*A whole run.*  `Registry.get?_run`: an identifier stands for the last table registered under it, or
for what it stood for before.  A load counts as the tables it registers, and a load that fails as
none (`Operation.tables`); how its document is decoded, and in which order the decoded maps come, is
part of the operation.
-/

namespace Elapsed

/-! ## The last of several -/

section Last

variable {α κ : Type} [DecidableEq κ]

theorem findRev?_eq_find?_reverse (p : α → Bool) (items : List α) :
    items.findRev? p = items.reverse.find? p := by
  rw [List.findRev?_eq_findRev?TR]
  rfl

/-- Where no key is there twice, the last item of a key is the first one. -/
theorem findRev?_eq_find? {key : α → κ} {items : List α} (h : (items.map key).Nodup) (k : κ) :
    items.findRev? (key · == k) = items.find? (key · == k) := by
  induction items with
  | nil => rfl
  | cons a items ih =>
      rw [List.map_cons, List.nodup_cons] at h
      rw [List.findRev?, ih h.2, List.find?_cons]
      by_cases hk : key a = k
      · -- nothing behind `a` has its key
        have hnone : items.find? (key · == k) = none := by
          rw [List.find?_eq_none]
          intro b hb
          rw [beq_iff_eq]
          intro he
          exact h.1 (List.mem_map.2 ⟨b, hb, he.trans hk.symm⟩)
        simp [hnone, hk]
      · have hne : (key a == k) = false := beq_eq_false_iff_ne.2 hk
        rw [hne]
        cases items.find? (key · == k) with
        | some b => rfl
        | none => rfl

end Last

namespace Locale

/-- The last table of an identifier in a list. -/
def latest (tables : List Table) (id : String) : Option Table :=
  tables.findRev? (·.id == id)

theorem latest_cons (t : Table) (rest : List Table) (id : String) :
    latest (t :: rest) id = (latest rest id).or (if t.id = id then some t else none) := by
  rw [latest, latest, findRev?_eq_find?_reverse, List.reverse_cons, List.find?_append,
    ← findRev?_eq_find?_reverse, List.find?_singleton]
  simp

theorem latest_append (front back : List Table) (id : String) :
    latest (front ++ back) id = (latest back id).or (latest front id) := by
  unfold latest
  rw [findRev?_eq_find?_reverse, List.reverse_append, List.find?_append,
    ← findRev?_eq_find?_reverse, ← findRev?_eq_find?_reverse]

theorem mem_of_latest {tables : List Table} {id : String} {t : Table}
    (h : latest tables id = some t) : t ∈ tables := by
  rw [latest, findRev?_eq_find?_reverse] at h
  exact List.mem_reverse.1 (List.mem_of_find?_eq_some h)

theorem latest_eq_none {tables : List Table} {id : String} (h : id ∉ tables.map Table.id) :
    latest tables id = none := by
  rw [latest, findRev?_eq_find?_reverse, List.find?_eq_none]
  intro t ht hid
  exact h (List.mem_map.2 ⟨t, List.mem_reverse.1 ht, beq_iff_eq.1 hid⟩)

/-- Where no identifier is there twice, every table is the last one of its identifier. -/
theorem latest_of_mem {tables : List Table} (h : (tables.map Table.id).Nodup) {t : Table}
    (ht : t ∈ tables) : latest tables t.id = some t := by
  cases hlast : latest tables t.id with
  | none =>
      rw [latest, findRev?_eq_find? h, List.find?_eq_none] at hlast
      exact absurd (beq_self_eq_true t.id) (hlast t ht)
  | some last =>
      have hmem : last ∈ tables := mem_of_latest hlast
      rw [latest, findRev?_eq_find? h] at hlast
      have hid := List.find?_some hlast
      rw [List.inj_on_of_nodup_map h hmem ht (beq_iff_eq.1 hid)]

/-! ## The invariant -/

/-- Every table of a registry has the identifier it is filed under, and the table of the baseline
is filed in its own place only. -/
structure Registry.WellFormed (r : Registry) : Prop where
  baseline : r.baseline.id = baselineId
  others : ∀ {id : String} {t : Table}, r.others.get? id = some t → t.id = id ∧ id ≠ baselineId

namespace Registry

variable {r : Registry}

theorem wellFormed_register (h : r.WellFormed) (t : Table) : (r.register t).1.WellFormed := by
  unfold register
  split
  · rename_i ht
    exact ⟨ht, h.others⟩
  · rename_i ht
    refine ⟨h.baseline, ?_⟩
    intro id t' ht'
    rw [Entries.get?_insert] at ht'
    split at ht'
    · rename_i hid
      cases ht'
      exact ⟨hid, fun hb => ht (hid.trans hb)⟩
    · exact h.others ht'

theorem wellFormed_select (h : r.WellFormed) (id : String) : (r.select id).WellFormed :=
  ⟨h.baseline, h.others⟩

theorem wellFormed_registerAll (tables : List Table) :
    ∀ {r : Registry}, r.WellFormed → (r.registerAll tables).value.WellFormed := by
  induction tables with
  | nil => exact fun h => h
  | cons t rest ih => exact fun h => ih (wellFormed_register h t)

/-- Every built-in table but the baseline is filed under its identifier. -/
theorem others_initial {id : String} (h : id ≠ baselineId) :
    initial.others.get? id = Builtin.find? id := by
  have hnodup : (((Builtin.tables.filter (·.id != baselineId)).map
      fun t => (t.id, t)).map Prod.fst).Nodup := by decide
  have hpred : (fun t : Table => decide (t.id != baselineId ∧ t.id == id)) = (·.id == id) := by
    funext t
    by_cases ht : t.id = id
    · simp [ht, h]
    · simp [ht]
  rw [initial, Entries.get?_ofList, findRev?_eq_find? hnodup, List.find?_map, Option.map_map,
    Builtin.find?, ← hpred, ← List.find?_filter]
  exact Option.map_id'

theorem others_initial_baseline : initial.others.get? baselineId = none := rfl

/-- To begin with, an identifier stands for its built-in table. -/
theorem get?_initial (id : String) : initial.get? id = Builtin.find? id := by
  unfold get?
  split
  · rename_i h
    rw [h]
    rfl
  · rename_i h
    exact others_initial h

theorem wellFormed_initial : initial.WellFormed := by
  refine ⟨rfl, ?_⟩
  intro id t ht
  have hid : id ≠ baselineId := by
    rintro rfl
    exact absurd ht (by rw [others_initial_baseline]; simp)
  rw [others_initial hid, Builtin.find?] at ht
  have hfound := List.find?_some ht
  exact ⟨beq_iff_eq.1 hfound, hid⟩

/-! ## One step -/

theorem current_register (r : Registry) (t : Table) : (r.register t).1.current = r.current := by
  unfold register
  split
  · rfl
  · rfl

theorem current_registerAll (tables : List Table) :
    ∀ r : Registry, (r.registerAll tables).value.current = r.current := by
  induction tables with
  | nil => exact fun r => rfl
  | cons t rest ih => exact fun r => (ih (r.register t).1).trans (current_register r t)

theorem select_registerAll (tables : List Table) (r : Registry) :
    (r.registerAll tables).value.select r.current = (r.registerAll tables).value := by
  rw [← current_registerAll tables r]
  rfl

/-- Registering tables one after the other leaves the last table of each identifier in its place. -/
theorem get?_registerAll (tables : List Table) (id : String) :
    ∀ r : Registry, (r.registerAll tables).value.get? id = (latest tables id).or (r.get? id) := by
  induction tables with
  | nil => exact fun r => rfl
  | cons t rest ih =>
      intro r
      have hrest := ih (r.register t).1
      rw [get?_register] at hrest
      refine hrest.trans ?_
      rw [latest_cons]
      cases latest rest id with
      | some last => rfl
      | none => by_cases ht : t.id = id <;> simp [ht]

end Registry

/-- What can be done to a registry. -/
inductive Operation where
  | register (t : Table)
  | select (id : String)
  | loadText (decode : Decoder) (order : EntryOrder) (format : Format) (content : String)
  | loadFile (decode : Decoder) (order : EntryOrder) (read : Reader) (path : String)

namespace Operation

/-- The registry after an operation. -/
def apply (r : Registry) : Operation → Registry
  | register t => (r.register t).1
  | select id => r.select id
  | loadText decode order format content => (r.loadText decode order format content).registry
  | loadFile decode order read path => (r.loadFile decode order read path).registry

/-- The tables that a load registers: what it defines, or nothing if it fails. -/
def defined : Except Error (List Table) → List Table
  | .ok tables => tables
  | .error _ => []

/-- The tables that an operation registers, in order. -/
def tables : Operation → List Table
  | register t => [t]
  | select _ => []
  | loadText decode order format content => defined (Table.parseAll decode order format content)
  | loadFile decode order read path => defined (Table.readAll decode order read path)

/-- The identifier that an operation selects. -/
def selected? : Operation → Option String
  | select id => some id
  | _ => none

/-- An operation registers its tables and selects its identifier; this is all it does. -/
theorem apply_eq (r : Registry) (op : Operation) :
    op.apply r = (r.registerAll op.tables).value.select (op.selected?.getD r.current) := by
  cases op with
  | register t => exact (Registry.select_registerAll [t] r).symm
  | select id => rfl
  | loadText decode order format content =>
      refine Eq.trans ?_ (Registry.select_registerAll _ r).symm
      rw [apply, Registry.loadText, tables]
      cases Table.parseAll decode order format content with
      | error e => rfl
      | ok tables => rfl
  | loadFile decode order read path =>
      refine Eq.trans ?_ (Registry.select_registerAll _ r).symm
      rw [apply, Registry.loadFile, tables]
      cases Table.readAll decode order read path with
      | error e => rfl
      | ok tables => rfl

theorem get?_apply (r : Registry) (op : Operation) (id : String) :
    (op.apply r).get? id = (latest op.tables id).or (r.get? id) := by
  rw [apply_eq, Registry.get?_select, Registry.get?_registerAll]

theorem current_apply (r : Registry) (op : Operation) :
    (op.apply r).current = op.selected?.getD r.current := by
  rw [apply_eq]
  rfl

theorem wellFormed_apply {r : Registry} (h : r.WellFormed) (op : Operation) :
    (op.apply r).WellFormed := by
  rw [apply_eq]
  exact Registry.wellFormed_select (Registry.wellFormed_registerAll _ h) _

/-- A load registers complete tables in ascending order, if any. -/
theorem loadable_defined {result : Except Error (List Table)}
    (h : ∀ {tables}, result = .ok tables → Table.Loadable tables) :
    Table.Loadable (defined result) := by
  cases result with
  | error e => exact ⟨.nil, fun t ht => absurd ht List.not_mem_nil⟩
  | ok tables => exact h rfl

/-- Whatever an operation registers comes in strictly ascending order of the identifiers. -/
theorem ascending_tables (op : Operation) : op.tables.Pairwise fun a b => a.id < b.id := by
  cases op with
  | register t => exact List.pairwise_singleton _ t
  | select id => exact .nil
  | loadText => exact (loadable_defined Table.loadable_parseAll).ascending
  | loadFile => exact (loadable_defined Table.loadable_readAll).ascending

end Operation

/-! ## Answers -/

namespace Registry

variable {r : Registry}

theorem contains_iff (r : Registry) (id : String) : r.contains id ↔ (r.get? id).isSome := by
  unfold contains get?
  by_cases h : id = baselineId
  · simp [h]
  · simp [h, Entries.contains]

theorem contains_congr {r r' : Registry} {id : String} (h : r.get? id = r'.get? id) :
    r.contains id = r'.contains id := by
  rw [Bool.eq_iff_iff, contains_iff, contains_iff, h]

theorem contains_register_of_ne (r : Registry) {t : Table} {id : String} (h : t.id ≠ id) :
    (r.register t).1.contains id = r.contains id := by
  refine contains_congr ?_
  rw [get?_register, if_neg h]

theorem isSome_register_snd (r : Registry) (t : Table) :
    (r.register t).2.isSome = r.contains t.id := by
  rw [Bool.eq_iff_iff, contains_iff, register_snd]

theorem id_of_get? (h : r.WellFormed) {id : String} {t : Table} (ht : r.get? id = some t) :
    t.id = id := by
  unfold get? at ht
  split at ht
  · rename_i hid
    cases ht
    exact h.baseline.trans hid.symm
  · exact (h.others ht).1

theorem selected_eq (r : Registry) :
    r.selected = (r.get? r.current).elim (.error (.unknownLocale r.current)) .ok := by
  unfold selected
  cases r.get? r.current with
  | none => rfl
  | some t => rfl

theorem selected_of_some {t : Table} (h : r.get? r.current = some t) : r.selected = .ok t := by
  rw [selected_eq, h]
  rfl

theorem selected_of_none (h : r.get? r.current = none) :
    r.selected = .error (.unknownLocale r.current) := by
  rw [selected_eq, h]
  rfl

theorem effective_eq (r : Registry) :
    some r.effective.value = (r.get? r.current).or (r.get? baselineId) := by
  unfold effective
  rw [selected_eq]
  cases r.get? r.current with
  | none => rfl
  | some t => rfl

theorem mem_ids_iff (r : Registry) (id : String) : id ∈ r.ids ↔ r.contains id := by
  rw [ids, List.mem_mergeSort, List.mem_append, Entries.mem_keys_iff, List.mem_singleton,
    contains, Bool.or_eq_true, beq_iff_eq, or_comm, Entries.contains]

/-- The baseline is not among the others, so its identifier is listed once. -/
theorem nodup_ids (h : r.WellFormed) : (r.others.keys ++ [baselineId]).Nodup := by
  refine List.nodup_append.2 ⟨r.others.nodup, List.nodup_singleton _, ?_⟩
  intro id hid other hother he
  obtain ⟨t, ht⟩ := Option.isSome_iff_exists.1 (Entries.mem_keys_iff.1 hid)
  exact (h.others ht).2 (he.trans (List.mem_singleton.1 hother))

theorem ids_ascending (h : r.WellFormed) : r.ids.Pairwise (· < ·) :=
  pairwise_mergeSort_lt (by rw [List.map_id']; exact nodup_ids h)

theorem count_baseline (h : r.WellFormed) : r.ids.count baselineId = 1 := by
  have hnodup : r.ids.Nodup := (List.mergeSort_perm _ _).nodup_iff.2 (nodup_ids h)
  refine List.count_eq_one_of_mem hnodup ((mem_ids_iff r _).2 ?_)
  simp [contains]

/-- Whether a registry answers like one map from identifiers to tables with one selected
identifier. -/
structure BehavesAs (r : Registry) (map : String → Option Table) (chosen : String) : Prop where
  get? : ∀ id, r.get? id = map id
  contains : ∀ id, r.contains id ↔ (map id).isSome
  id_eq : ∀ id t, map id = some t → t.id = id
  register : ∀ t, (r.register t).2 = map t.id
  current : r.current = chosen
  selected : r.selected = (map chosen).elim (.error (.unknownLocale chosen)) .ok
  effective : some r.effective.value = (map chosen).or (map baselineId)
  ids_ascending : r.ids.Pairwise (· < ·)
  mem_ids : ∀ id, id ∈ r.ids ↔ (map id).isSome
  count_baseline : r.ids.count baselineId = 1

/-- The invariant is all it takes. -/
theorem WellFormed.behavesAs (h : r.WellFormed) : r.BehavesAs r.get? r.current where
  get? _ := rfl
  contains := r.contains_iff
  id_eq _ _ := id_of_get? h
  register := r.register_snd
  current := rfl
  selected := r.selected_eq
  effective := r.effective_eq
  ids_ascending := ids_ascending h
  mem_ids id := (r.mem_ids_iff id).trans (r.contains_iff id)
  count_baseline := count_baseline h

/-! ## A whole run -/

/-- The registry after operations, one after the other. -/
def run (r : Registry) (ops : List Operation) : Registry :=
  ops.foldl Operation.apply r

theorem run_cons (r : Registry) (op : Operation) (ops : List Operation) :
    r.run (op :: ops) = (op.apply r).run ops := rfl

theorem wellFormed_run (ops : List Operation) :
    ∀ {r : Registry}, r.WellFormed → (r.run ops).WellFormed := by
  induction ops with
  | nil => exact fun h => h
  | cons op ops ih => exact fun h => ih (Operation.wellFormed_apply h op)

/-- An identifier stands for the last table registered under it in a run, or for what it stood for
before. -/
theorem get?_run (ops : List Operation) (id : String) :
    ∀ r : Registry, (r.run ops).get? id
      = (latest (ops.flatMap Operation.tables) id).or (r.get? id) := by
  induction ops with
  | nil => exact fun r => rfl
  | cons op ops ih =>
      intro r
      rw [run_cons, ih, Operation.get?_apply, List.flatMap_cons, latest_append, Option.or_assoc]

/-- The identifier selected last in a run is selected, or the one that was before. -/
theorem current_run (ops : List Operation) :
    ∀ r : Registry, (r.run ops).current
      = (ops.filterMap Operation.selected?).getLast?.getD r.current := by
  induction ops with
  | nil => exact fun r => rfl
  | cons op ops ih =>
      intro r
      rw [run_cons, ih, Operation.current_apply]
      cases hs : op.selected? with
      | none => rw [List.filterMap_cons_none hs]; rfl
      | some id => rw [List.filterMap_cons_some hs, List.getLast?_cons]; rfl

/-- **A registry is a plain map.**  After any operations on the initial registry an identifier
stands for the last table registered under it, or else for its built-in table; the selected
identifier is the last one selected, or else the baseline's; and all answers are those of this map
and this identifier.  The tables of a load are registered in ascending order of their identifiers,
none if it fails. -/
theorem run_behavesAs (ops : List Operation) :
    (initial.run ops).BehavesAs
      (fun id => (latest (ops.flatMap Operation.tables) id).or (Builtin.find? id))
      ((ops.filterMap Operation.selected?).getLast?.getD baselineId) ∧
    ∀ op : Operation, op.tables.Pairwise fun a b => a.id < b.id := by
  have hmap : (fun id => (latest (ops.flatMap Operation.tables) id).or (Builtin.find? id))
      = (initial.run ops).get? := by
    funext id
    rw [get?_run, get?_initial]
  have hcurrent : (ops.filterMap Operation.selected?).getLast?.getD baselineId
      = (initial.run ops).current := (current_run ops initial).symm
  rw [hmap, hcurrent]
  exact ⟨(wellFormed_run ops wellFormed_initial).behavesAs, Operation.ascending_tables⟩

end Registry

end Locale

end Elapsed
