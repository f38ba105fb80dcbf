import Mathlib.Data.List.Perm.Basic

/-!
# Computations that can fail

Steps that give a value or an error, one after the other.  A computation over a list stops at the
first item that fails, so it gives a value exactly if each item has its own (`mapM_eq_ok_iff`,
`exists_mapM_eq_ok_iff`).  With values that may be missing it is the same (`mapM_eq_some_iff`), and
what goes along related values comes to related values (`rel_bind`, `rel_mapM`).  Where the items
give parts of one text (`concatM`), the text of two lists in a row is the text of the first with the
text of the second behind it (`concatM_append`).
-/

namespace Elapsed

variable {ε α β : Type}

/-! ## Item by item -/

theorem bind_eq_ok_iff {x : Except ε α} {f : α → Except ε β} {b : β} :
    (x >>= f) = .ok b ↔ ∃ a, x = .ok a ∧ f a = .ok b := by
  cases x with
  | error e => simp [bind, Except.bind]
  | ok a => simp [bind, Except.bind]

/-- A list is computed item by item: there are results exactly if each item has its own. -/
theorem mapM_eq_ok_iff {f : α → Except ε β} {items : List α} {results : List β} :
    items.mapM f = .ok results ↔ List.Forall₂ (fun a b => f a = .ok b) items results := by
  induction items generalizing results with
  | nil =>
      rw [List.mapM_nil, List.forall₂_nil_left_iff]
      exact ⟨fun h => (Except.ok.inj h).symm, fun h => congrArg Except.ok h.symm⟩
  | cons a items ih =>
      rw [List.mapM_cons, bind_eq_ok_iff, List.forall₂_cons_left_iff]
      constructor
      · rintro ⟨b, hb, h⟩
        obtain ⟨rest, hrest, h⟩ := bind_eq_ok_iff.1 h
        exact ⟨b, rest, hb, ih.1 hrest, (Except.ok.inj h).symm⟩
      · rintro ⟨b, rest, hb, hrest, rfl⟩
        exact ⟨b, hb, bind_eq_ok_iff.2 ⟨rest, ih.2 hrest, rfl⟩⟩

/-- Where two lists go together item by item, an item of the first has one of the second. -/
theorem exists_mem_of_forall₂ {R : α → β → Prop} {items : List α} {results : List β}
    (h : List.Forall₂ R items results) {a : α} (ha : a ∈ items) : ∃ b ∈ results, R a b := by
  induction h with
  | nil => exact absurd ha List.not_mem_nil
  | @cons a' b items results hab _ ih =>
      rcases List.mem_cons.1 ha with rfl | ha
      · exact ⟨b, List.mem_cons_self, hab⟩
      · obtain ⟨b', hb', hR⟩ := ih ha
        exact ⟨b', List.mem_cons_of_mem b hb', hR⟩

theorem exists_mapM_eq_ok_iff {f : α → Except ε β} {items : List α} :
    (∃ results, items.mapM f = .ok results) ↔ ∀ a ∈ items, ∃ b, f a = .ok b := by
  constructor
  · rintro ⟨results, h⟩ a ha
    obtain ⟨b, -, hb⟩ := exists_mem_of_forall₂ (mapM_eq_ok_iff.1 h) ha
    exact ⟨b, hb⟩
  · intro h
    induction items with
    | nil => exact ⟨[], rfl⟩
    | cons a items ih =>
        obtain ⟨b, hb⟩ := h a List.mem_cons_self
        obtain ⟨results, hresults⟩ := ih fun a' ha' => h a' (List.mem_cons_of_mem a ha')
        exact ⟨b :: results, mapM_eq_ok_iff.2 (.cons hb (mapM_eq_ok_iff.1 hresults))⟩

/-- A list fails with the error of its first item that fails. -/
theorem mapM_eq_error_iff {f : α → Except ε β} {items : List α} {e : ε} :
    items.mapM f = .error e ↔ ∃ front a back, items = front ++ a :: back ∧
      (∀ a' ∈ front, ∃ b, f a' = .ok b) ∧ f a = .error e := by
  constructor
  · intro h
    induction items with
    | nil => cases h
    | cons a items ih =>
        rw [List.mapM_cons] at h
        cases ha : f a with
        | error e' =>
            rw [ha] at h
            cases h
            exact ⟨[], a, items, rfl, fun a' ha' => absurd ha' List.not_mem_nil, ha⟩
        | ok b =>
            cases hitems : items.mapM f with
            | ok results =>
                rw [ha, hitems] at h
                cases h
            | error e' =>
                rw [ha, hitems] at h
                cases h
                obtain ⟨front, a', back, rfl, hfront, ha'⟩ := ih hitems
                exact ⟨a :: front, a', back, rfl, List.forall_mem_cons.2 ⟨⟨b, ha⟩, hfront⟩, ha'⟩
  · rintro ⟨front, a, back, rfl, hfront, ha⟩
    obtain ⟨results, hresults⟩ := exists_mapM_eq_ok_iff.2 hfront
    rw [List.mapM_append, hresults, List.mapM_cons, ha]
    rfl

/-- Where a step takes back what was done to each item, it takes back what was done to a list. -/
theorem mapM_map_eq_some {f : β → Option α} {g : α → β} {items : List α}
    (h : ∀ a ∈ items, f (g a) = some a) : (items.map g).mapM f = some items := by
  induction items with
  | nil => rfl
  | cons a items ih =>
      rw [List.map_cons, List.mapM_cons, h a List.mem_cons_self,
        ih fun a' ha' => h a' (List.mem_cons_of_mem a ha')]
      rfl

/-! ## Values that may be missing -/

section Missing

variable {γ δ : Type} {R : α → β → Prop} {S : γ → δ → Prop} {x : Option α} {y : Option β}

theorem rel_refl {R : α → α → Prop} (h : ∀ a, R a a) (x : Option α) : Option.Rel R x x := by
  cases x with
  | none => exact .none
  | some a => exact .some (h a)

theorem rel_symm {R' : β → α → Prop} (h : Option.Rel R x y) (hsymm : ∀ a b, R a b → R' b a) :
    Option.Rel R' y x := by
  cases h with
  | none => exact .none
  | some hab => exact .some (hsymm _ _ hab)

theorem rel_trans {R' : β → γ → Prop} {S : α → γ → Prop} {z : Option γ} (h : Option.Rel R x y)
    (h' : Option.Rel R' y z) (htrans : ∀ a b c, R a b → R' b c → S a c) : Option.Rel S x z := by
  cases h with
  | none =>
      cases h' with
      | none => exact .none
  | some hab =>
      cases h' with
      | some hbc => exact .some (htrans _ _ _ hab hbc)

theorem exists_of_rel_some {a : α} (h : Option.Rel R (some a) y) : ∃ b, y = some b ∧ R a b := by
  cases h with
  | some hab => exact ⟨_, rfl, hab⟩

theorem rel_eq_iff {x y : Option α} : Option.Rel (· = ·) x y ↔ x = y := by
  constructor
  · intro h
    cases h with
    | none => rfl
    | some hab => rw [hab]
  · rintro rfl
    exact rel_refl (fun _ => rfl) x

/-- Steps that take related values to related values do so with values that may be missing. -/
theorem rel_bind {f : α → Option γ} {g : β → Option δ} (h : Option.Rel R x y)
    (hstep : ∀ a b, R a b → Option.Rel S (f a) (g b)) : Option.Rel S (x >>= f) (y >>= g) := by
  cases h with
  | none => exact .none
  | some hab => exact hstep _ _ hab

theorem rel_map {f : α → γ} {g : β → δ} (h : Option.Rel R x y)
    (hstep : ∀ a b, R a b → S (f a) (g b)) : Option.Rel S (x.map f) (y.map g) := by
  cases h with
  | none => exact .none
  | some hab => exact .some (hstep _ _ hab)

theorem rel_elim {S : γ → δ → Prop} {c : γ} {d : δ} {f : α → γ} {g : β → δ} (h : Option.Rel R x y)
    (hmissing : S c d) (hstep : ∀ a b, R a b → S (f a) (g b)) : S (x.elim c f) (y.elim d g) := by
  cases h with
  | none => exact hmissing
  | some hab => exact hstep _ _ hab

theorem rel_mapM {f : α → Option γ} {g : β → Option δ} {items : List α} {items' : List β}
    (h : List.Forall₂ R items items') (hstep : ∀ a b, R a b → Option.Rel S (f a) (g b)) :
    Option.Rel (List.Forall₂ S) (items.mapM f) (items'.mapM g) := by
  induction h with
  | nil => exact .some .nil
  | cons hab _ ih =>
      rw [List.mapM_cons, List.mapM_cons]
      exact rel_bind (hstep _ _ hab) fun c d hcd => rel_bind ih fun cs ds hcds =>
        .some (.cons hcd hcds)

/-- A list has values if each of its items has its own. -/
theorem mapM_eq_some_iff {f : α → Option β} {items : List α} {results : List β} :
    items.mapM f = some results ↔ List.Forall₂ (fun a b => f a = some b) items results := by
  induction items generalizing results with
  | nil => simp [eq_comm]
  | cons a items ih =>
      rw [List.mapM_cons, List.forall₂_cons_left_iff]
      constructor
      · intro h
        obtain ⟨b, hb, h⟩ := Option.bind_eq_some_iff.1 h
        obtain ⟨rest, hrest, h⟩ := Option.bind_eq_some_iff.1 h
        exact ⟨b, rest, hb, ih.1 hrest, (Option.some.inj h).symm⟩
      · rintro ⟨b, rest, hb, hrest, rfl⟩
        rw [hb, ih.2 hrest]
        rfl

/-- In another order a list has the same values in another order. -/
theorem rel_mapM_perm {f : α → Option β} {items items' : List α} (h : items.Perm items') :
    Option.Rel List.Perm (items.mapM f) (items'.mapM f) := by
  have hside {l l' : List α} (h : l.Perm l') {results : List β} (hl : l.mapM f = some results) :
      ∃ results', l'.mapM f = some results' ∧ results.Perm results' := by
    obtain ⟨results', hl', hperm⟩ := List.perm_comp_forall₂ h.symm (mapM_eq_some_iff.1 hl)
    exact ⟨results', mapM_eq_some_iff.2 hl', hperm.symm⟩
  cases hitems : items.mapM f with
  | some results =>
      obtain ⟨results', hitems', hperm⟩ := hside h hitems
      rw [hitems']
      exact .some hperm
  | none =>
      cases hitems' : items'.mapM f with
      | none => exact .none
      | some results' =>
          obtain ⟨results, hresults, -⟩ := hside h.symm hitems'
          cases hitems.symm.trans hresults

end Missing

/-! ## Parts put together -/

section Parts

variable {γ : Type} {f : α → Except ε (List β)}

/-- What the items of a list give, put together in order. -/
def concatM (f : α → Except ε (List β)) (items : List α) : Except ε (List β) :=
  return (← items.mapM f).flatten

theorem concatM_cons (a : α) (items : List α) :
    concatM f (a :: items) = do return (← f a) ++ (← concatM f items) := by
  unfold concatM
  rw [List.mapM_cons]
  cases f a with
  | error e => rfl
  | ok part =>
      cases items.mapM f with
      | error e => rfl
      | ok parts => rfl

/-- Only what is done to the items of the list matters. -/
theorem concatM_congr {g : α → Except ε (List β)} {items : List α}
    (h : ∀ a ∈ items, f a = g a) : concatM f items = concatM g items := by
  induction items with
  | nil => rfl
  | cons a items ih =>
      rw [concatM_cons, concatM_cons, h a List.mem_cons_self,
        ih fun a' ha' => h a' (List.mem_cons_of_mem a ha')]

/-- Two lists in a row give what the first gives, and behind it what the second gives. -/
theorem concatM_append (front back : List α) :
    concatM f (front ++ back) = do return (← concatM f front) ++ (← concatM f back) := by
  unfold concatM
  rw [List.mapM_append]
  cases front.mapM f with
  | error e => rfl
  | ok parts =>
      cases back.mapM f with
      | error e => rfl
      | ok parts' => exact congrArg Except.ok List.flatten_append

/-- What is done to each element of each part can be done to all of them in the end. -/
theorem concatM_flatMap {g : α → Except ε (List γ)} {k : β → List γ}
    (h : ∀ a, g a = (f a).map (·.flatMap k)) (items : List α) :
    concatM g items = (concatM f items).map (·.flatMap k) := by
  induction items with
  | nil => rfl
  | cons a items ih =>
      rw [concatM_cons, concatM_cons, ih, h]
      cases f a with
      | error e => rfl
      | ok part =>
          cases concatM f items with
          | error e => rfl
          | ok parts => exact congrArg Except.ok List.flatMap_append.symm

/-- The parts of a list are put together if each item has its own. -/
theorem concatM_eq_ok_iff {items : List α} {all : List β} :
    concatM f items = .ok all ↔
      ∃ parts, List.Forall₂ (fun a part => f a = .ok part) items parts ∧ all = parts.flatten := by
  rw [concatM, bind_eq_ok_iff]
  constructor
  · rintro ⟨parts, hparts, h⟩
    exact ⟨parts, mapM_eq_ok_iff.1 hparts, (Except.ok.inj h).symm⟩
  · rintro ⟨parts, hparts, rfl⟩
    exact ⟨parts, mapM_eq_ok_iff.2 hparts, rfl⟩

theorem exists_concatM_eq_ok {items : List α} (h : ∀ a ∈ items, ∃ part, f a = .ok part) :
    ∃ all, concatM f items = .ok all := by
  obtain ⟨parts, hparts⟩ := exists_mapM_eq_ok_iff.2 h
  exact ⟨parts.flatten, by rw [concatM, hparts]; rfl⟩

end Parts

end Elapsed
