import Elapsed.Proofs.Locale.Agreement

/-!
# A document is loaded as a whole or not at all

Checking a document and registering its tables are two loops, and the second one decides about its
warnings while it changes the registry.  This file says what is left of all that in the end.

*Warnings.*  `Registry.events_registerAll`: tables that come in strictly ascending order of their
identifiers never meet one another, so there is a warning for each identifier that was registered
before the first of them, and for no other.

*One load.*  `Outcome.Registers` says on its own what it is to put every definition of a catalogue
into a registry and to do nothing else; `Registry.registers_of_toTables` that registering the tables
of a catalogue does just that.

*All or nothing.*  `Registry.loadText_allOrNothing`: a load does this to any registry, or it leaves
any registry as it was, and which of the two is a matter of what the document is decoded to.  So it
holds whatever the decoder is.
-/

namespace Elapsed.Locale

/-! ## Warnings -/

namespace Registry

theorem events_registerAll_cons (r : Registry) (t : Table) (rest : List Table) :
    (r.registerAll (t :: rest)).events
      = (if r.contains t.id then [.localeOverridden t.id] else [])
        ++ ((r.register t).1.registerAll rest).events := by
  rw [← isSome_register_snd]
  rfl

/-- There is a warning for each identifier that was registered before. -/
theorem events_registerAll {tables : List Table} (h : tables.Pairwise fun a b => a.id < b.id) :
    ∀ r : Registry, (r.registerAll tables).events
      = ((tables.map Table.id).filter r.contains).map .localeOverridden := by
  induction h with
  | nil => exact fun r => rfl
  | @cons t rest hlt _ ih =>
      intro r
      -- the table that is registered first has none of the identifiers behind it
      have hrest : (rest.map Table.id).filter (r.register t).1.contains
          = (rest.map Table.id).filter r.contains := by
        refine List.filter_congr fun id hid => ?_
        obtain ⟨other, hother, rfl⟩ := List.mem_map.1 hid
        exact contains_register_of_ne r (hlt other hother).ne
      rw [events_registerAll_cons, ih, hrest, List.map_cons, List.filter_cons]
      split
      · rfl
      · rfl

/-- The baseline is always registered, though not filed with the others. -/
example : (initial.registerAll [Builtin.enUS, { Builtin.frFR with id := "nl_NL" }]).events
    = [.localeOverridden "en_US"] := by decide

end Registry

/-! ## One load -/

/-- Whether an operation put every definition of a catalogue into a registry and did nothing
else. -/
structure Outcome.Registers (done : Outcome Nat) (r : Registry) (c : Catalogue) : Prop where
  /-- The operation counts the identifiers of the catalogue. -/
  result : done.result = .ok c.locales.keys.length
  /-- No identifier is defined twice. -/
  nodup : c.locales.keys.Nodup
  /-- An identifier that is defined stands for the checked table of its definition. -/
  defined : ∀ id d, c.locales.get? id = some d →
    ∃ t, d.toTable id = .ok t ∧ done.registry.get? id = some t
  /-- Every other identifier stands for what it stood for before. -/
  others : ∀ id, id ∉ c.locales.keys → done.registry.get? id = r.get? id
  /-- The selected identifier stays selected. -/
  current : done.registry.current = r.current
  /-- The events are one warning, in ascending order, for each identifier that is defined and was
  registered before. -/
  events : ∃ ids : List String, ids.Pairwise (· < ·) ∧
    (∀ id, id ∈ ids ↔ id ∈ c.locales.keys ∧ r.contains id) ∧
    done.events = ids.map .localeOverridden

namespace Registry

variable {tables : List Table}

/-- Registering the tables of a catalogue puts every definition into the registry. -/
theorem registers_of_toTables {c : Catalogue} (h : c.toTables = .ok tables) (r : Registry) :
    Outcome.Registers
      ⟨.ok tables.length, (r.registerAll tables).value, (r.registerAll tables).events⟩ r c := by
  have hperm : (tables.map Table.id).Perm c.locales.keys := Catalogue.ids_perm_keys h
  have hnodup : (tables.map Table.id).Nodup := hperm.nodup_iff.2 c.locales.nodup
  have hascending := (Catalogue.loadable_toTables h).ascending
  exact {
    result := by rw [← hperm.length_eq, List.length_map]
    nodup := c.locales.nodup
    defined := by
      intro id d hd
      obtain ⟨t, ht, htable⟩ := Catalogue.mem_toTables h hd
      have hlast := latest_of_mem hnodup ht
      rw [Definition.id_of_toTable htable] at hlast
      exact ⟨t, htable, by rw [get?_registerAll, hlast, Option.some_or]⟩
    others := by
      intro id hid
      have hnew : id ∉ tables.map Table.id := fun hmem => hid (hperm.mem_iff.1 hmem)
      rw [get?_registerAll, latest_eq_none hnew, Option.none_or]
    current := current_registerAll tables r
    events := by
      refine ⟨(tables.map Table.id).filter r.contains, ?_, ?_, events_registerAll hascending r⟩
      · exact (List.pairwise_map.2 hascending).filter _
      · intro id
        rw [List.mem_filter, hperm.mem_iff] }

/-! ## All or nothing -/

variable {decode : Decoder} {order : EntryOrder} {format : Format} {content : String}
variable {r : Registry}

theorem loadText_of_error {e : Error}
    (h : Table.parseAll decode order format content = .error e) (r : Registry) :
    r.loadText decode order format content = r.fail e := by
  rw [loadText, h]

theorem loadText_of_ok (h : Table.parseAll decode order format content = .ok tables)
    (r : Registry) : r.loadText decode order format content
      = ⟨.ok tables.length, (r.registerAll tables).value, (r.registerAll tables).events⟩ := by
  rw [loadText, h]

/-- What a load gives back is a matter of the document. -/
theorem result_loadText (r : Registry) : (r.loadText decode order format content).result
      = (Table.parseAll decode order format content).map List.length := by
  cases h : Table.parseAll decode order format content with
  | error e => rw [loadText_of_error h]; rfl
  | ok tables => rw [loadText_of_ok h]; rfl

theorem result_loadText_eq_error_iff {e : Error} :
    (r.loadText decode order format content).result = .error e ↔
      Table.parseAll decode order format content = .error e := by
  rw [result_loadText]
  cases Table.parseAll decode order format content with
  | error e' => simp [Except.map]
  | ok tables => simp [Except.map]

/-- What two loads of one document give back agrees, whatever registries they meet. -/
theorem resultsAgree_loadText (decode : Decoder) (order order' : EntryOrder) (format : Format)
    (content : String) (r r' : Registry) : ResultsAgree (decode format content = .ok ·)
      (r.loadText decode order format content).result
      (r'.loadText decode order' format content).result := by
  rw [result_loadText, result_loadText]
  exact (Table.resultsAgree_parseAll decode order order' format content).map List.length

theorem loadText_of_result_error {e : Error}
    (h : (r.loadText decode order format content).result = .error e) :
    r.loadText decode order format content = r.fail e :=
  loadText_of_error (result_loadText_eq_error_iff.1 h) r

theorem registers_of_result_ok {n : Nat}
    (h : (r.loadText decode order format content).result = .ok n) :
    ∃ c, decode format content = .ok c ∧
      (r.loadText decode order format content).Registers r c := by
  cases hparse : Table.parseAll decode order format content with
  | error e =>
      rw [loadText_of_error hparse] at h
      cases h
  | ok tables =>
      rw [loadText_of_ok hparse]
      obtain ⟨c, hc, htables⟩ := Table.parseAll_eq_ok_iff.1 hparse
      exact ⟨c, hc, registers_of_toTables htables r⟩

/-- All that loading a text reports is that locales were replaced. -/
theorem warns_of_mem_events {event : Event}
    (h : event ∈ (r.loadText decode order format content).events) :
    event.level = .warn ∧ event.message = "locale file overrides registered locale" := by
  cases hdone : (r.loadText decode order format content).result with
  | error e =>
      rw [loadText_of_result_error hdone] at h
      cases h
  | ok n =>
      obtain ⟨c, -, hregisters⟩ := registers_of_result_ok hdone
      obtain ⟨ids, -, -, hevents⟩ := hregisters.events
      rw [hevents] at h
      obtain ⟨id, -, rfl⟩ := List.mem_map.1 h
      exact ⟨rfl, rfl⟩

/-- A document can be loaded if it is decoded and each of its definitions has a table. -/
theorem exists_result_ok_iff : (∃ n, (r.loadText decode order format content).result = .ok n) ↔
      ∃ c, decode format content = .ok c ∧
        ∀ id d, c.locales.get? id = some d → ∃ t, d.toTable id = .ok t := by
  constructor
  · rintro ⟨n, h⟩
    obtain ⟨c, hc, hdone⟩ := registers_of_result_ok h
    refine ⟨c, hc, fun id d hd => ?_⟩
    obtain ⟨t, ht, -⟩ := hdone.defined id d hd
    exact ⟨t, ht⟩
  · rintro ⟨c, hc, h⟩
    obtain ⟨tables, htables⟩ := Catalogue.exists_toTables_iff.2 h
    have hparse : Table.parseAll decode order format content = .ok tables :=
      Table.parseAll_eq_ok_iff.2 ⟨c, hc, htables⟩
    exact ⟨tables.length, by rw [loadText_of_ok hparse]⟩

/-- **A document is loaded as a whole or not at all.**  Whatever the decoder makes of a document,
what a load gives back does not depend on the registry; it succeeds exactly if the document is
decoded and all its definitions have tables.  Otherwise it has the decoder's message, or what the
first definition without a table can be refused for: which of several faults that is may differ from
load to load, for the decoded maps come in another order.  A load that fails leaves the registry as
it was and reports nothing.  A load that succeeds puts every definition into the registry, counts
them, and does nothing else but warn of each identifier that was registered before; the baseline's
always was. -/
theorem loadText_allOrNothing (decode : Decoder) (format : Format) (content : String) :
    (∀ (order : EntryOrder) (r r' : Registry),
      (r.loadText decode order format content).result
        = (r'.loadText decode order format content).result) ∧
    (∀ (order order' : EntryOrder) (r r' : Registry),
      ResultsAgree (decode format content = .ok ·)
        (r.loadText decode order format content).result
        (r'.loadText decode order' format content).result) ∧
    (∀ (order : EntryOrder) (r : Registry),
      (∃ n, (r.loadText decode order format content).result = .ok n) ↔
        ∃ c, decode format content = .ok c ∧
          ∀ id d, c.locales.get? id = some d → ∃ t, d.toTable id = .ok t) ∧
    (∀ (r : Registry) (e : Error),
      (∃ order, (r.loadText decode order format content).result = .error e) ↔
        (∃ message, decode format content = .error message ∧ e = .malformed format message) ∨
          ∃ c id d, decode format content = .ok c ∧ c.FirstRejected id d ∧ d.Refuses id e) ∧
    (∀ (order : EntryOrder) (r : Registry) (e : Error),
      (r.loadText decode order format content).result = .error e →
        (r.loadText decode order format content).registry = r ∧
        (r.loadText decode order format content).events = []) ∧
    (∀ (order : EntryOrder) (r : Registry) (n : Nat),
      (r.loadText decode order format content).result = .ok n →
        ∃ c, decode format content = .ok c ∧ c.locales.keys.length = n ∧
          (r.loadText decode order format content).Registers r c ∧
          ∀ e ∈ (r.loadText decode order format content).events,
            e.level = .warn ∧ e.message = "locale file overrides registered locale") ∧
    ∀ r : Registry, r.contains baselineId := by
  refine ⟨fun order r r' => ?_, fun order order' => resultsAgree_loadText decode order order' _ _,
    fun order r => exists_result_ok_iff, fun r e => ?_, fun order r e h => ?_,
    fun order r n h => ?_, fun r => ?_⟩
  · rw [result_loadText, result_loadText]
  · simp only [result_loadText_eq_error_iff, Table.exists_parseAll_eq_error_iff]
  · rw [loadText_of_result_error h]
    exact ⟨rfl, rfl⟩
  · obtain ⟨c, hc, hdone⟩ := registers_of_result_ok h
    have hcount : c.locales.keys.length = n := Except.ok.inj (hdone.result.symm.trans h)
    exact ⟨c, hc, hcount, hdone, fun e => warns_of_mem_events⟩
  · simp [contains]

/-- A document that defines the baseline anew, with one form for each word. -/
def baselineDocument : String :=
  "\x7b\"locale\":\x7b\"en_US\":[\"cjk\",\"\",\x7b\"weeks\":[\"w\",[\"W\"]],\"days\":[\"d\",[\"D\"]],"
    ++ "\"hours\":[\"h\",[\"H\"]],\"minutes\":[\"m\",[\"M\"]],\"seconds\":[\"s\",[\"S\"]]\x7d]\x7d\x7d"

/-- What `baselineDocument` says of the baseline. -/
def baselineDefinition : Definition where
  plural := some .cjk
  separator := ""
  units := .ofList [("weeks", ⟨"w", ["W"]⟩), ("days", ⟨"d", ["D"]⟩), ("hours", ⟨"h", ["H"]⟩),
    ("minutes", ⟨"m", ["M"]⟩), ("seconds", ⟨"s", ["S"]⟩)]

theorem decode_baselineDocument :
    Decoder.terse .json baselineDocument = .ok ⟨.ofList [("en_US", baselineDefinition)]⟩ := by
  decide +kernel

theorem result_baselineDocument (order : EntryOrder) (r : Registry) :
    (r.loadText .terse order .json baselineDocument).result = .ok 1 := by
  have hlength : (Catalogue.toTables ⟨.ofList [("en_US", baselineDefinition)]⟩).map List.length
      = .ok 1 := by
    decide +kernel
  cases htables : Catalogue.toTables ⟨.ofList [("en_US", baselineDefinition)]⟩ with
  | error e =>
      rw [htables] at hlength
      cases hlength
  | ok tables =>
      rw [result_loadText, Table.parseAll_eq_ok_iff.2 ⟨_, decode_baselineDocument, htables⟩,
        ← htables, hlength]

theorem loadText_baselineDocument :
    (initial.loadText .terse .given .json baselineDocument).result = .ok 1 ∧
      ∃ c, Decoder.terse .json baselineDocument = .ok c ∧
        (initial.loadText .terse .given .json baselineDocument).Registers initial c := by
  have hresult := result_baselineDocument .given initial
  obtain ⟨c, hc, -, hdone, -⟩ :=
    (loadText_allOrNothing .terse .json baselineDocument).2.2.2.2.2.1 .given initial 1 hresult
  exact ⟨hresult, c, hc, hdone⟩

end Registry

end Elapsed.Locale
