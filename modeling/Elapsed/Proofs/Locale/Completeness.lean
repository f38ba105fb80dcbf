import Elapsed.Proofs.Locale.Run

/-!
# No table of a registry falls back

Looking up a word in a table that lacks it gives some other text instead of an error, so a faulty
table would go unnoticed.  No registry holds one.

*One table.*  `Table.complete_iff`: a table is complete exactly if it answers for every unit with
the texts stored for it (`Table.AnswersWith`), for a plural rule never picks beyond its forms.

*One step.*  Tables come into a registry in three ways.  The built-in ones are complete although
they are never validated (`Builtin.complete_tables`); a program registers what came out of
`Table.validate`; and what a document or a file defines is complete (`Table.Loadable`).  So an
operation keeps the invariant `Registry.AllComplete`.

*A whole run.*  The invariant holds of every registry that a run leads to (`allComplete_run`), and
no way to get at a table of a registry (`Registry.HandsOut`) leads past it.
-/

namespace Elapsed.Locale

/-! ## One table -/

namespace Table

/-- Whether a table answers for a unit with given forms and nothing else: there is a word at the
place its rule picks for a number, and it is this word that the number takes. -/
structure AnswersWith (t : Table) (u : TimeUnit) (f : Forms) : Prop where
  forms? : t.forms? u = some f
  length : f.words.length = t.rule.arity
  picked : ∀ value : UInt64, ∃ w, f.words[t.rule.pick value.toNat]? = some w ∧
    t.form u value = w ∧ t.word u value = t.separator ++ w
  abbreviation : t.abbreviation u = f.abbreviation

variable {t : Table}

/-- As many words as the rule has forms are enough for every number. -/
theorem answersWith {u : TimeUnit} {f : Forms} (hf : t.forms? u = some f)
    (hlength : f.words.length = t.rule.arity) : t.AnswersWith u f where
  forms? := hf
  length := hlength
  picked := by
    intro value
    have hlt : t.rule.pick value.toNat < f.words.length := by
      rw [hlength]
      exact t.rule.pick_lt_arity value.toNat
    have hword := List.getElem?_eq_getElem hlt
    have hform : t.form u value = f.words[t.rule.pick value.toNat] := by
      unfold form
      rw [hf]
      show ((f.words[t.rule.pick value.toNat]?).or f.words.getLast?).getD "" = _
      rw [hword]
      rfl
    refine ⟨_, hword, hform, ?_⟩
    rw [word, hform]
  abbreviation := by
    rw [Table.abbreviation, hf]
    rfl

theorem complete_iff : t.Complete ↔ ∀ u, ∃ f, t.AnswersWith u f := by
  constructor
  · intro h u
    obtain ⟨f, hf, hlength⟩ := h u
    exact ⟨f, answersWith hf hlength⟩
  · intro h u
    obtain ⟨f, hf⟩ := h u
    exact ⟨f, hf.forms?, hf.length⟩

end Table

/-- The built-in tables are complete; nothing validates them. -/
theorem Builtin.complete_tables : ∀ t ∈ Builtin.tables, t.Complete := by
  have hall : ∀ t ∈ Builtin.tables, ∀ u ∈ TimeUnit.all, t.fault? u = none := by decide
  intro t ht u
  exact Table.fault?_eq_none_iff.1 (hall t ht u (TimeUnit.mem_all u))

/-! ## One step -/

namespace Operation

/-- What a program can do: it gets at a table to register by validation only. -/
def Admissible : Operation → Prop
  | register t => ∃ parts : Table, parts.validate = .ok t
  | _ => True

theorem complete_tables {op : Operation} (h : op.Admissible) : ∀ t ∈ op.tables, t.Complete := by
  cases op with
  | register t =>
      obtain ⟨parts, hparts⟩ := h
      obtain ⟨rfl, hcomplete⟩ := Table.validate_eq_ok_iff.1 hparts
      intro t ht
      rw [List.mem_singleton.1 ht]
      exact hcomplete
  | select id => exact fun t ht => absurd ht List.not_mem_nil
  | loadText => exact (loadable_defined Table.loadable_parseAll).complete
  | loadFile => exact (loadable_defined Table.loadable_readAll).complete

end Operation

namespace Registry

/-- Every identifier stands for a complete table, if for any. -/
def AllComplete (r : Registry) : Prop :=
  ∀ id t, r.get? id = some t → t.Complete

theorem allComplete_initial : initial.AllComplete := by
  intro id t ht
  rw [get?_initial, Builtin.find?] at ht
  exact Builtin.complete_tables t (List.mem_of_find?_eq_some ht)

theorem allComplete_apply {r : Registry} (h : r.AllComplete) {op : Operation}
    (hop : op.Admissible) : (op.apply r).AllComplete := by
  intro id t ht
  rw [Operation.get?_apply, Option.or_eq_some_iff] at ht
  rcases ht with hnew | ⟨-, hold⟩
  · exact Operation.complete_tables hop t (mem_of_latest hnew)
  · exact h id t hold

/-! ## A whole run -/

theorem allComplete_run (ops : List Operation) (hops : ∀ op ∈ ops, op.Admissible) :
    ∀ {r : Registry}, r.AllComplete → (r.run ops).AllComplete := by
  induction ops with
  | nil => exact fun h => h
  | cons op ops ih =>
      intro r h
      have hop : op.Admissible := hops op (List.mem_cons_self ..)
      have hrest : ∀ next ∈ ops, next.Admissible := fun next hnext =>
        hops next (List.mem_cons_of_mem _ hnext)
      exact ih hrest (allComplete_apply h hop)

/-- The ways to get at a table of a registry. -/
inductive HandsOut (r : Registry) (t : Table) : Prop where
  | get (id : String) (h : r.get? id = some t)
  | register (new : Table) (h : (r.register new).2 = some t)
  | selected (h : r.selected = .ok t)
  | effective (h : r.effective.value = t)

/-- None of them gives anything but what some identifier stands for. -/
theorem get?_of_handsOut {r : Registry} {t : Table} (h : r.HandsOut t) :
    ∃ id, r.get? id = some t := by
  cases h with
  | get id h => exact ⟨id, h⟩
  | register new h => exact ⟨new.id, (r.register_snd new).symm.trans h⟩
  | selected h =>
      refine ⟨r.current, ?_⟩
      rw [selected_eq] at h
      cases hget : r.get? r.current with
      | none =>
          rw [hget] at h
          cases h
      | some found =>
          rw [hget] at h
          cases h
          rfl
  | effective h =>
      have heffective := r.effective_eq
      rw [h, eq_comm, Option.or_eq_some_iff] at heffective
      rcases heffective with hcurrent | ⟨-, hbaseline⟩
      · exact ⟨r.current, hcurrent⟩
      · exact ⟨baselineId, hbaseline⟩

/-- **No table falls back.**  After any run of a program, every table that the registry hands out
has forms for every unit, as many words as its rule picks from, and answers with these alone. -/
theorem complete_of_handsOut {ops : List Operation} (hops : ∀ op ∈ ops, op.Admissible) {t : Table}
    (ht : (initial.run ops).HandsOut t) : t.Complete ∧ ∀ u, ∃ f, t.AnswersWith u f := by
  obtain ⟨id, hget⟩ := get?_of_handsOut ht
  have hcomplete : t.Complete := allComplete_run ops hops allComplete_initial id t hget
  exact ⟨hcomplete, Table.complete_iff.1 hcomplete⟩

/-- French in the baseline's place is what a registry falls back on when an unknown locale is
selected. -/
theorem complete_of_replaced_baseline :
    let french : Table := { Builtin.frFR with id := baselineId }
    let ops : List Operation := [.register french, .select "xx_XX"]
    (∀ op ∈ ops, op.Admissible) ∧ (initial.run ops).HandsOut french ∧
      french.Complete ∧ ∀ u, ∃ f, french.AnswersWith u f := by
  intro french ops
  have hops : ∀ op ∈ ops, op.Admissible := by
    intro op hop
    rcases List.mem_cons.1 hop with rfl | hop
    · exact ⟨french, rfl⟩
    · rw [List.mem_singleton.1 hop]
      trivial
  have hout : (initial.run ops).HandsOut french := .effective rfl
  exact ⟨hops, hout, complete_of_handsOut hops hout⟩

end Registry

end Elapsed.Locale
