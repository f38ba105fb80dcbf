/-!
# Entries

Values under distinct names, kept in the order in which the names first came. Putting a value
under a name that is taken replaces the value and keeps its place. The view of a collection is
`get?`: `get?_insert` says what one insertion does to it, `get?_ofList` what all of a list do.
-/

namespace Elapsed

/-- Values under distinct names. -/
structure Entries (α : Type) where
  toList : List (String × α)
  nodup : (toList.map Prod.fst).Nodup

namespace Entries

variable {α : Type}

/-- The names and values of both sides are alike in the same order. -/
theorem ext {m n : Entries α} (h : m.toList = n.toList) : m = n := by
  cases m
  cases n
  cases h
  rfl

instance [DecidableEq α] : DecidableEq (Entries α) := fun m n =>
  decidable_of_iff (m.toList = n.toList) ⟨ext, congrArg toList⟩

/-! ## Lists of pairs -/

/-- The first value under a name. -/
def find? (name : String) : List (String × α) → Option α
  | [] => none
  | (n, v) :: rest => if n = name then some v else find? name rest

/-- Puts a value under a name: in place if the name is taken, else at the end. -/
def put (name : String) (value : α) : List (String × α) → List (String × α)
  | [] => [(name, value)]
  | (n, v) :: rest => if n = name then (name, value) :: rest else (n, v) :: put name value rest

theorem keys_put (name : String) (value : α) (l : List (String × α)) :
    (put name value l).map Prod.fst
      = if name ∈ l.map Prod.fst then l.map Prod.fst else l.map Prod.fst ++ [name] := by
  induction l with
  | nil => simp [put]
  | cons e rest ih =>
    obtain ⟨n, v⟩ := e
    by_cases h : n = name
    · simp [put, h]
    · simp only [put, h, if_false, List.map_cons, ih, List.mem_cons, Ne.symm h, false_or]
      split <;> rfl

theorem nodup_put (name : String) (value : α) {l : List (String × α)}
    (h : (l.map Prod.fst).Nodup) : ((put name value l).map Prod.fst).Nodup := by
  rw [keys_put]
  split
  · exact h
  · next hn =>
    refine List.nodup_append.2 ⟨h, by simp, ?_⟩
    intro a ha b hb e
    rw [List.mem_singleton.1 hb] at e
    exact hn (e ▸ ha)

theorem put_of_not_mem {name : String} {l : List (String × α)} (h : name ∉ l.map Prod.fst)
    (value : α) : put name value l = l ++ [(name, value)] := by
  induction l with
  | nil => rfl
  | cons e rest ih =>
    obtain ⟨n, v⟩ := e
    rw [List.map_cons, List.mem_cons, not_or] at h
    rw [put, if_neg (Ne.symm h.1), ih h.2, List.cons_append]

theorem find?_put (name other : String) (value : α) (l : List (String × α)) :
    find? other (put name value l) = if name = other then some value else find? other l := by
  induction l with
  | nil => rfl
  | cons e rest ih =>
    obtain ⟨n, v⟩ := e
    by_cases h : n = name
    · subst h
      by_cases h' : n = other <;> simp [put, find?, h']
    · by_cases h' : n = other
      · subst h'
        simp [put, find?, h, Ne.symm h]
      · simp [put, find?, h, h', ih]

theorem find?_isSome_iff {name : String} {l : List (String × α)} :
    (find? name l).isSome ↔ name ∈ l.map Prod.fst := by
  induction l with
  | nil => simp [find?]
  | cons e rest ih =>
    obtain ⟨n, v⟩ := e
    by_cases h : n = name
    · simp [find?, h]
    · simp only [find?, h, if_false, ih, List.map_cons, List.mem_cons, Ne.symm h, false_or]

theorem find?_eq_some_iff {name : String} {value : α} {l : List (String × α)}
    (h : (l.map Prod.fst).Nodup) : find? name l = some value ↔ (name, value) ∈ l := by
  induction l with
  | nil => simp [find?]
  | cons e rest ih =>
    obtain ⟨n, v⟩ := e
    rw [List.map_cons, List.nodup_cons] at h
    by_cases hn : n = name
    · subst hn
      have hrest : (n, value) ∉ rest := fun hv => h.1 (List.mem_map.2 ⟨_, hv, rfl⟩)
      simp [find?, hrest, eq_comm]
    · simp [find?, hn, Ne.symm hn, ih h.2]

/-! ## Collections -/

/-- No entries. -/
def empty : Entries α where
  toList := []
  nodup := by simp

instance : Inhabited (Entries α) := ⟨empty⟩

/-- The names, in the order in which they first came. -/
def keys (m : Entries α) : List String :=
  m.toList.map Prod.fst

/-- The value under a name. -/
def get? (m : Entries α) (name : String) : Option α :=
  find? name m.toList

/-- Whether a name is taken. -/
def contains (m : Entries α) (name : String) : Bool :=
  (m.get? name).isSome

/-- Puts a value under a name, in the place of the value that was there. -/
def insert (m : Entries α) (name : String) (value : α) : Entries α where
  toList := put name value m.toList
  nodup := nodup_put name value m.nodup

/-- The entries of a list; of two values under one name the last one stays. -/
def ofList (l : List (String × α)) : Entries α :=
  l.foldl (fun m e => m.insert e.1 e.2) empty

theorem get?_insert (m : Entries α) (name other : String) (value : α) :
    (m.insert name value).get? other = if name = other then some value else m.get? other :=
  find?_put name other value m.toList

theorem get?_empty (name : String) : (empty : Entries α).get? name = none := rfl

theorem mem_keys_iff {m : Entries α} {name : String} : name ∈ m.keys ↔ (m.get? name).isSome :=
  find?_isSome_iff.symm

theorem mem_toList_iff {m : Entries α} {name : String} {value : α} :
    (name, value) ∈ m.toList ↔ m.get? name = some value :=
  (find?_eq_some_iff m.nodup).symm

/-- What is under a name does not depend on the order of the entries. -/
theorem get?_eq_of_perm {m n : Entries α} (h : m.toList.Perm n.toList) (name : String) :
    m.get? name = n.get? name := by
  apply Option.ext
  intro value
  rw [← mem_toList_iff, ← mem_toList_iff, h.mem_iff]

/-- Of two values listed under one name the last one stays. -/
theorem get?_ofList (l : List (String × α)) (name : String) :
    (ofList l).get? name = (l.findRev? (·.1 == name)).map Prod.snd := by
  have h (m : Entries α) : (l.foldl (fun m e => m.insert e.1 e.2) m).get? name
      = ((l.findRev? (·.1 == name)).map Prod.snd).or (m.get? name) := by
    induction l generalizing m with
    | nil => rfl
    | cons e rest ih =>
      rw [List.foldl_cons, ih, get?_insert, List.findRev?]
      cases rest.findRev? (·.1 == name) with
      | some last => rfl
      | none => by_cases he : e.1 = name <;> simp [he]
  rw [ofList, h, get?_empty, Option.or_none]

/-- Entries are those of their own list. -/
theorem ofList_toList (m : Entries α) : ofList m.toList = m := by
  have h (l : List (String × α)) (m : Entries α) (hnodup : ((m.toList ++ l).map Prod.fst).Nodup) :
      (l.foldl (fun m e => m.insert e.1 e.2) m).toList = m.toList ++ l := by
    induction l generalizing m with
    | nil => simp
    | cons e rest ih =>
      have hnew : e.1 ∉ m.toList.map Prod.fst := by
        rw [List.map_append, List.nodup_append] at hnodup
        exact fun hmem => hnodup.2.2 e.1 hmem e.1 (by simp) rfl
      have hinsert : (m.insert e.1 e.2).toList = m.toList ++ [e] := put_of_not_mem hnew e.2
      rw [List.foldl_cons, ih, hinsert, List.append_assoc, List.singleton_append]
      rw [hinsert, List.append_assoc, List.singleton_append]
      exact hnodup
  exact ext (h m.toList empty m.nodup)

/-- Where no name is listed twice, the entries are those of the list. -/
theorem toList_ofList {l : List (String × α)} (h : (l.map Prod.fst).Nodup) :
    (ofList l).toList = l :=
  congrArg toList (ofList_toList ⟨l, h⟩)

end Entries

end Elapsed
