import Elapsed.Proofs.Locale.Loading

/-!
# The order of operations

Two operations that register tables under different identifiers, and do not both select one, have
nothing to do with one another (`Operation.Independent`).  Then their order does not matter.

*What is left of a registry.*  Registries may keep their tables in different orders and still answer
alike (`Registry.Alike`): the list of identifiers is sorted, so it does not show the order
(`Registry.ids_congr`).  After two independent operations, one or the other first, the same table is
found under every identifier (`Operation.get?_apply_comm`).

*What the caller is told.*  `Operation.report_congr`: what an operation gives back and reports is a
matter of what its own identifiers stood for.  `Operation.agrees_report`: and it does not depend on
the order in which decoded maps come, but for which of several faults is met first.

So independent operations commute (`Operation.Independent.commutes`).  Documents that share
identifiers do not, but then the load that comes last and succeeds decides (`Registry.Holds`), and
to load a document twice is to load it once.
-/

namespace Elapsed.Locale

/-! ## Registries that answer alike -/

/-- Whether two registries have the same identifier selected, the same table under every identifier
and the same list of registered identifiers. -/
structure Registry.Alike (r r' : Registry) : Prop where
  current : r.current = r'.current
  get? : ∀ id, r.get? id = r'.get? id
  ids : r.ids = r'.ids

namespace Registry

variable {r r' : Registry}

/-- Sorting forgets in which order the identifiers came. -/
theorem ids_congr (h : ∀ id, r.others.get? id = r'.others.get? id) : r.ids = r'.ids := by
  have hmem : ∀ id, id ∈ r.others.keys ↔ id ∈ r'.others.keys := by
    intro id
    rw [Entries.mem_keys_iff, Entries.mem_keys_iff, h]
  have hkeys : r.others.keys.Perm r'.others.keys :=
    (List.perm_ext_iff_of_nodup r.others.nodup r'.others.nodup).2 hmem
  have hperm : r.ids.Perm r'.ids :=
    (List.mergeSort_perm _ _).trans ((hkeys.append_right _).trans (List.mergeSort_perm _ _).symm)
  exact hperm.eq_of_pairwise (fun _ _ _ _ hab hba => le_antisymm hab hba)
    (pairwise_mergeSort_le (fun id => id) _) (pairwise_mergeSort_le (fun id => id) _)

theorem get?_of_ne {id : String} (h : id ≠ baselineId) : r.get? id = r.others.get? id :=
  if_neg h

/-- Nothing is ever filed under the baseline's identifier among the others. -/
theorem others_register_baseline (r : Registry) (t : Table) :
    (r.register t).1.others.get? baselineId = r.others.get? baselineId := by
  unfold register
  split
  · rfl
  · rename_i h
    rw [Entries.get?_insert, if_neg h]

theorem others_registerAll_baseline (tables : List Table) : ∀ r : Registry,
    (r.registerAll tables).value.others.get? baselineId = r.others.get? baselineId := by
  induction tables with
  | nil => exact fun r => rfl
  | cons t rest ih => exact fun r => (ih (r.register t).1).trans (others_register_baseline r t)

/-- Registries that agree on the tables and the selection answer alike, if nothing that cannot be
found is filed in one of them only. -/
theorem alike_of_get? (hcurrent : r.current = r'.current) (hget : ∀ id, r.get? id = r'.get? id)
    (hbaseline : r.others.get? baselineId = r'.others.get? baselineId) : r.Alike r' where
  current := hcurrent
  get? := hget
  ids := by
    refine ids_congr fun id => ?_
    by_cases h : id = baselineId
    · rw [h, hbaseline]
    · rw [← get?_of_ne h, ← get?_of_ne h, hget]

/-- Registering tables reports what their own identifiers stood for. -/
theorem events_registerAll_congr {tables : List Table} (hloadable : Table.Loadable tables)
    (h : ∀ t ∈ tables, r.get? t.id = r'.get? t.id) :
    (r.registerAll tables).events = (r'.registerAll tables).events := by
  have hfilter : (tables.map Table.id).filter r.contains
      = (tables.map Table.id).filter r'.contains := by
    refine List.filter_congr fun id hid => ?_
    obtain ⟨t, ht, rfl⟩ := List.mem_map.1 hid
    exact contains_congr (h t ht)
  rw [events_registerAll hloadable.ascending, hfilter, ← events_registerAll hloadable.ascending]

end Registry

namespace Operation

theorem others_apply_baseline (r : Registry) (op : Operation) :
    (op.apply r).others.get? baselineId = r.others.get? baselineId := by
  rw [apply_eq]
  exact Registry.others_registerAll_baseline op.tables r

/-! ## What an operation tells its caller -/

/-- What an operation gives back. -/
inductive Answer where
  /-- The table that was registered under the identifier before. -/
  | replaced (t : Option Table)
  /-- The identifier that is selected now. -/
  | selected (id : String)
  /-- How many tables were loaded, or why none was. -/
  | loaded (result : Except Error Nat)

/-- What an operation tells its caller: what it gives back, and the events it reports. -/
structure Report where
  answer : Answer
  events : List Event

/-- Whether two answers agree: they are the same, or the results of loads that agree. -/
inductive AnswersAgree (Decodes : Catalogue → Prop) : Answer → Answer → Prop where
  | same (answer : Answer) : AnswersAgree Decodes answer answer
  | loaded {x y : Except Error Nat} (h : ResultsAgree Decodes x y) :
      AnswersAgree Decodes (.loaded x) (.loaded y)

/-- Whether two reports agree: in their answers up to the order of the maps, and in their events. -/
structure Report.Agrees (Decodes : Catalogue → Prop) (x y : Report) : Prop where
  answer : AnswersAgree Decodes x.answer y.answer
  events : x.events = y.events

/-- What an operation on a registry tells its caller.  Only loading reports events. -/
def report (r : Registry) : Operation → Report
  | register t => ⟨.replaced (r.register t).2, []⟩
  | select id => ⟨.selected (r.select id).current, []⟩
  | loadText decode order format content =>
    let done := r.loadText decode order format content
    ⟨.loaded done.result, done.events⟩
  | loadFile decode order read path =>
    let done := r.loadFile decode order read path
    ⟨.loaded done.result, done.events⟩

variable {r r' : Registry}

/-- What an operation tells its caller is a matter of what its own identifiers stood for. -/
theorem report_congr {op : Operation} (h : ∀ t ∈ op.tables, r.get? t.id = r'.get? t.id) :
    op.report r = op.report r' := by
  cases op with
  | register t =>
      have ht := h t (List.mem_singleton_self t)
      rw [report, report, Registry.register_snd, Registry.register_snd, ht]
  | select id => rfl
  | loadText decode order format content =>
      cases hparse : Table.parseAll decode order format content with
      | error e =>
          rw [report, report, Registry.loadText_of_error hparse, Registry.loadText_of_error hparse]
          rfl
      | ok tables =>
          rw [Operation.tables, hparse] at h
          rw [report, report, Registry.loadText_of_ok hparse, Registry.loadText_of_ok hparse,
            Registry.events_registerAll_congr (Table.loadable_parseAll hparse) h]
  | loadFile decode order read path =>
      cases hread : Table.readAll decode order read path with
      | error e =>
          rw [report, report, Registry.loadFile, Registry.loadFile, hread]
          rfl
      | ok tables =>
          rw [Operation.tables, hread] at h
          rw [report, report, Registry.loadFile, Registry.loadFile, hread]
          show Report.mk _ ((r.registerAll tables).events ++ _) = Report.mk _ (_ ++ _)
          rw [Registry.events_registerAll_congr (Table.loadable_readAll hread) h]

/-- What an operation tells its caller when its maps come in another order. -/
theorem agrees_report (r : Registry) (op : Operation) (order : EntryOrder) :
    (op.report r).Agrees op.Decodes ((op.inOrder order).report r) := by
  cases op with
  | loadText decode order' format content =>
      have h := r.agrees_loadText decode order' order format content
      exact ⟨.loaded h.result, h.events⟩
  | loadFile decode order' read path =>
      have h := r.agrees_loadFile decode order' order read path
      exact ⟨.loaded h.result, h.events⟩
  | _ => exact ⟨.same _, rfl⟩

/-! ## Independent operations -/

/-- Whether two operations have nothing to do with one another: they register their tables under
different identifiers, and at most one of them selects.  An operation that registers nothing, such
as a selection or a load that fails, has only the second condition to meet. -/
structure Independent (a b : Operation) : Prop where
  tables : ∀ t ∈ a.tables, ∀ t' ∈ b.tables, t.id ≠ t'.id
  selected : a.selected? = none ∨ b.selected? = none

/-- What does not select is independent of a selection. -/
theorem independent_select {op : Operation} (h : op.selected? = none) (id : String) :
    op.Independent (.select id) where
  tables _ _ _ ht' := absurd ht' List.not_mem_nil
  selected := .inl h

/-- Tables of different identifiers are registered independently. -/
theorem independent_register {t t' : Table} (h : t.id ≠ t'.id) :
    (register t).Independent (.register t') where
  tables := by
    intro a ha b hb
    rw [List.mem_singleton.1 ha, List.mem_singleton.1 hb]
    exact h
  selected := .inl rfl

/-- What it is for two operations to commute: when the second one comes first, and the maps that
either of them meets in whatever order, they leave a registry that answers alike, and each of them
tells its caller the same. -/
structure Commutes (r : Registry) (a b : Operation) : Prop where
  alike : ∀ order order',
    (b.apply (a.apply r)).Alike ((a.inOrder order).apply ((b.inOrder order').apply r))
  /-- The first operation tells the same when it comes second. -/
  left : ∀ order order',
    (a.report r).Agrees a.Decodes ((a.inOrder order).report ((b.inOrder order').apply r))
  /-- The second operation tells the same when it comes first. -/
  right : ∀ order', (b.report (a.apply r)).Agrees b.Decodes ((b.inOrder order').report r)
  /-- With their maps in the order they had, they tell the same to the letter. -/
  report_eq : a.report (b.apply r) = a.report r ∧ b.report (a.apply r) = b.report r

variable {a b : Operation}

theorem Independent.symm (h : a.Independent b) : b.Independent a where
  tables t ht t' ht' := (h.tables t' ht' t ht).symm
  selected := h.selected.symm

/-- The other operation registers nothing under the identifiers of this one. -/
theorem Independent.latest_eq_none (h : a.Independent b) {t : Table} (ht : t ∈ a.tables) :
    latest b.tables t.id = none := by
  refine Locale.latest_eq_none fun hid => ?_
  obtain ⟨t', ht', he⟩ := List.mem_map.1 hid
  exact h.tables t ht t' ht' he.symm

theorem Independent.report_eq (h : a.Independent b) (r : Registry) :
    a.report (b.apply r) = a.report r := by
  refine report_congr fun t ht => ?_
  rw [get?_apply, h.latest_eq_none ht, Option.none_or]

theorem Independent.get?_apply_comm (h : a.Independent b) (r : Registry) (id : String) :
    (b.apply (a.apply r)).get? id = (a.apply (b.apply r)).get? id := by
  rw [get?_apply, get?_apply, get?_apply, get?_apply]
  by_cases hid : id ∈ a.tables.map Table.id
  · obtain ⟨t, ht, rfl⟩ := List.mem_map.1 hid
    rw [h.latest_eq_none ht, Option.none_or, Option.none_or]
  · rw [Locale.latest_eq_none hid, Option.none_or, Option.none_or]

theorem Independent.current_apply_comm (h : a.Independent b) (r : Registry) :
    (b.apply (a.apply r)).current = (a.apply (b.apply r)).current := by
  rw [current_apply, current_apply, current_apply, current_apply]
  rcases h.selected with ha | hb
  · rw [ha]
    rfl
  · rw [hb]
    rfl

theorem Independent.commutes (h : a.Independent b) (r : Registry) : a.Commutes r b where
  alike order order' := by
    rw [apply_inOrder, apply_inOrder]
    refine Registry.alike_of_get? (h.current_apply_comm r) (h.get?_apply_comm r) ?_
    rw [others_apply_baseline, others_apply_baseline, others_apply_baseline,
      others_apply_baseline]
  left order order' := by
    have hagrees := agrees_report (b.apply r) a order
    rw [h.report_eq] at hagrees
    rw [apply_inOrder]
    exact hagrees
  right order' := by
    rw [h.symm.report_eq]
    exact agrees_report r b order'
  report_eq := ⟨h.report_eq r, h.symm.report_eq r⟩

/-- To do an operation twice is to do it once. -/
theorem alike_apply_apply (r : Registry) (op : Operation) :
    (op.apply (op.apply r)).Alike (op.apply r) := by
  refine Registry.alike_of_get? ?_ (fun id => ?_) ?_
  · rw [current_apply, current_apply]
    cases op.selected? with
    | none => rfl
    | some id => rfl
  · rw [get?_apply, get?_apply]
    cases latest op.tables id with
    | none => rfl
    | some t => rfl
  · exact others_apply_baseline (op.apply r) op

end Operation

/-! ## Two documents -/

variable {decode : Decoder} {order order' : EntryOrder} {f g : Format} {x y : String}

/-- A load registers tables under identifiers of its document only. -/
theorem Catalogue.mem_keys_of_mem_tables {t : Table}
    (ht : t ∈ (Operation.loadText decode order f x).tables) :
    ∃ c, decode f x = .ok c ∧ t.id ∈ c.locales.keys := by
  rw [Operation.tables] at ht
  cases hparse : Table.parseAll decode order f x with
  | error e =>
      rw [hparse] at ht
      exact absurd ht List.not_mem_nil
  | ok tables =>
      rw [hparse] at ht
      obtain ⟨c, hc, htables⟩ := Table.parseAll_eq_ok_iff.1 hparse
      exact ⟨c, hc, (ids_perm_keys htables).mem_iff.1 (List.mem_map_of_mem ht)⟩

/-- Documents that define no identifier in common are loaded independently. -/
theorem Operation.independent_loadText
    (h : ∀ c c', decode f x = .ok c → decode g y = .ok c' →
      c.locales.keys.Disjoint c'.locales.keys) :
    (Operation.loadText decode order f x).Independent (.loadText decode order' g y) where
  tables := by
    intro t ht t' ht' he
    obtain ⟨c, hc, hid⟩ := Catalogue.mem_keys_of_mem_tables ht
    obtain ⟨c', hc', hid'⟩ := Catalogue.mem_keys_of_mem_tables ht'
    exact h c c' hc hc' hid (he ▸ hid')
  selected := .inl rfl

namespace Registry

/-- Whether every identifier of a catalogue stands for the checked table of its definition. -/
def Holds (r : Registry) (c : Catalogue) : Prop :=
  ∀ id d, c.locales.get? id = some d → ∃ t, d.toTable id = .ok t ∧ r.get? id = some t

/-- What it is for the last of two loads that succeeds to decide what its identifiers stand for. -/
structure LastDecides (r : Registry) (decode : Decoder) (first second : Outcome Nat) (f g : Format)
    (x y : String) : Prop where
  /-- The second load succeeds. -/
  last : ∀ n, second.result = .ok n → ∃ c, decode g y = .ok c ∧ second.registry.Holds c
  /-- The second load fails, but not the first. -/
  fallback : ∀ n e, first.result = .ok n → second.result = .error e →
    ∃ c, decode f x = .ok c ∧ second.registry.Holds c
  /-- Both fail. -/
  neither : ∀ e e', first.result = .error e → second.result = .error e' → second.registry = r

/-- What it is for a load to repeat the one before it: it gives back the same, leaves a registry
that answers alike, and warns of every identifier of the document. -/
structure Repeats (first second : Outcome Nat) (c : Catalogue) : Prop where
  result : second.result = first.result
  alike : second.registry.Alike first.registry
  events : ∃ ids : List String, ids.Pairwise (· < ·) ∧ ids.Perm c.locales.keys ∧
    second.events = ids.map .localeOverridden

theorem holds_of_result_ok {r : Registry} {n : Nat}
    (h : (r.loadText decode order f x).result = .ok n) :
    ∃ c, decode f x = .ok c ∧ (r.loadText decode order f x).registry.Holds c := by
  obtain ⟨c, hc, hdone⟩ := registers_of_result_ok h
  exact ⟨c, hc, hdone.defined⟩

theorem lastDecides (r : Registry) (decode : Decoder) (order order' : EntryOrder) (f g : Format)
    (x y : String) : r.LastDecides decode (r.loadText decode order f x)
      ((r.loadText decode order f x).registry.loadText decode order' g y) f g x y where
  last _ h := holds_of_result_ok h
  fallback _ _ h h' := by
    rw [loadText_of_result_error h']
    exact holds_of_result_ok h
  neither _ _ h h' := by
    rw [loadText_of_result_error h', loadText_of_result_error h]
    rfl

theorem repeats_of_result_ok {r : Registry} {n : Nat}
    (h : (r.loadText decode order f x).result = .ok n) (order' : EntryOrder) :
    ∃ c, decode f x = .ok c ∧ Repeats (r.loadText decode order f x)
      ((r.loadText decode order f x).registry.loadText decode order' f x) c := by
  obtain ⟨c, hc, hfirst⟩ := registers_of_result_ok h
  have hresult :
      ((r.loadText decode order f x).registry.loadText decode order' f x).result = .ok n :=
    (resultsAgree_loadText decode order order' f x r _).eq_ok_iff.1 h
  obtain ⟨c', hc', hsecond⟩ := registers_of_result_ok hresult
  cases hc.symm.trans hc'
  have halike := Operation.alike_apply_apply r (.loadText decode order f x)
  rw [← Operation.apply_inOrder order'] at halike
  refine ⟨c, hc, hresult.trans h.symm, halike, ?_⟩
  obtain ⟨ids, hascending, hmem, hevents⟩ := hsecond.events
  have hkeys : ∀ id, id ∈ ids ↔ id ∈ c.locales.keys := by
    intro id
    rw [hmem]
    refine ⟨And.left, fun hid => ⟨hid, ?_⟩⟩
    obtain ⟨d, hd⟩ := Option.isSome_iff_exists.1 (Entries.mem_keys_iff.1 hid)
    obtain ⟨t, -, ht⟩ := hfirst.defined id d hd
    rw [contains_iff, ht]
    rfl
  have hnodup : ids.Nodup := hascending.imp fun h => h.ne
  exact ⟨ids, hascending, (List.perm_ext_iff_of_nodup hnodup c.locales.nodup).2 hkeys, hevents⟩

/-- **The order of independent operations does not matter.**  In any registry two operations that
register tables under different identifiers, and do not both select one, commute: the registry
answers alike whichever came first, and either tells its caller the same.  Such are a selection and
anything that does not select, tables of different identifiers, and documents without an identifier
in common, whatever the decoder makes of them.  Of any two documents, the last one that loads
decides about every identifier it defines; and a document that is loaded again changes nothing,
counts the same, and warns of each of its identifiers. -/
theorem commute_of_independent (decode : Decoder) (r : Registry) :
    (∀ a b : Operation, a.Independent b → a.Commutes r b) ∧
    (∀ (op : Operation) (id : String), op.selected? = none → op.Independent (.select id)) ∧
    (∀ t t' : Table, t.id ≠ t'.id → (Operation.register t).Independent (.register t')) ∧
    (∀ (order order' : EntryOrder) (f g : Format) (x y : String),
      (∀ c c', decode f x = .ok c → decode g y = .ok c' →
        c.locales.keys.Disjoint c'.locales.keys) →
      (Operation.loadText decode order f x).Independent (.loadText decode order' g y)) ∧
    (∀ (order order' : EntryOrder) (f g : Format) (x y : String),
      r.LastDecides decode (r.loadText decode order f x)
        ((r.loadText decode order f x).registry.loadText decode order' g y) f g x y) ∧
    (∀ (order order' : EntryOrder) (f : Format) (x : String) (n : Nat),
      (r.loadText decode order f x).result = .ok n →
      ∃ c, decode f x = .ok c ∧ Repeats (r.loadText decode order f x)
        ((r.loadText decode order f x).registry.loadText decode order' f x) c) := by
  refine ⟨fun a b h => h.commutes r, fun op id h => Operation.independent_select h id,
    fun t t' h => Operation.independent_register h,
    fun order order' f g x y h => Operation.independent_loadText h, r.lastDecides decode, ?_⟩
  exact fun order order' f x n h => repeats_of_result_ok h order'

/-- A new baseline is loaded before or after a document that fails, and then again. -/
theorem commute_of_independent_baseline :
    let a : Operation := .loadText .terse .given .json baselineDocument
    let b : Operation := .loadText .terse .given .toml faultyDocument
    let first := initial.loadText .terse .given .json baselineDocument
    a.Independent b ∧ a.Commutes initial b ∧ first.result = .ok 1 ∧
      ∃ c, Decoder.terse .json baselineDocument = .ok c ∧
        Repeats first (first.registry.loadText .terse .given .json baselineDocument) c := by
  intro a b first
  have hkeys : (Decoder.terse .json baselineDocument).map (·.locales.keys) = .ok ["en_US"] := by
    rw [decode_baselineDocument]
    rfl
  have hkeys' : (Decoder.terse .toml faultyDocument).map (·.locales.keys) = .ok ["nl_NL"] := by
    decide +kernel
  have hresult : first.result = .ok 1 := result_baselineDocument .given initial
  obtain ⟨hcommute, -, -, hdocuments, -, hrepeats⟩ := commute_of_independent .terse initial
  have hindependent : a.Independent b := by
    refine hdocuments .given .given .json .toml baselineDocument faultyDocument ?_
    intro c c' hc hc'
    rw [hc] at hkeys
    rw [hc'] at hkeys'
    have hbaseline : c.locales.keys = ["en_US"] := Except.ok.inj hkeys
    have hfaulty : c'.locales.keys = ["nl_NL"] := Except.ok.inj hkeys'
    rw [hbaseline, hfaulty]
    simp
  exact ⟨hindependent, hcommute a b hindependent, hresult,
    hrepeats .given .given .json baselineDocument 1 hresult⟩

end Registry

end Elapsed.Locale
