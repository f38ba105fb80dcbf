import Elapsed.Proofs.Template.Rendering
import Elapsed.Proofs.Template.Segmentation

/-!
# Templates compose

A template that closes its last span and does not end in a lone backslash (`Template.Closed`) says
the same whatever stands behind it.

*Segments.*  `Segment.segmented_append_iff` says when two sequences of segments can stand one behind
the other.  As a text has one segmentation only, the cut of two templates in a row is then known
without a look at the scanner: it is the two cuts in a row (`Segment.split_append`), or, where two
plain runs meet, the two cuts with these runs made one (`Segment.split_append_of_meet`).

*What depends on the cut.*  Reports count the bytes before them, so those of the second template
move by the length of the first (`Segment.diagnostics_append`, `Segment.diagnostics_add`); texts are
shown one after the other (`Node.renderAll_append`).  Neither sees whether two runs are one.

So two templates in a row say what each of them says (`Template.composes_of_closed`).
-/

namespace Elapsed

namespace Segment

theorem isRun_iff {s : Segment} : s.isRun ↔ ∃ text, s = run text := by
  cases s <;> simp [isRun]

/-! ## Segments in a row -/

/-- Segments stand in a row if each part is put together right, and what stands at the border goes
together. -/
theorem segmented_append_iff {front back : List Segment} :
    Segmented (front ++ back) ↔ Segmented front ∧ Segmented back ∧
      ∀ s ∈ front.getLast?,
        (s.isFinal → back = []) ∧ (s.isRun → ∀ next ∈ back.head?, ¬ next.isRun) := by
  induction front with
  | nil => simp [Segmented]
  | cons s rest ih =>
      cases rest with
      | nil => simp [Segmented, and_comm, and_left_comm]
      | cons s' rest =>
          rw [List.getLast?_cons_cons]
          constructor
          · rintro ⟨hs, hfinal, hrun, h⟩
            obtain ⟨hrest, hback, hborder⟩ := ih.1 h
            exact ⟨⟨hs, fun hf => absurd (hfinal hf) (by simp), hrun, hrest⟩, hback, hborder⟩
          · rintro ⟨⟨hs, hfinal, hrun, hrest⟩, hback, hborder⟩
            exact ⟨hs, fun hf => absurd (hfinal hf) (by simp), hrun,
              ih.2 ⟨hrest, hback, hborder⟩⟩

variable {a b : List Char}

/-- Where no two plain runs meet, two texts in a row are cut into the segments of the first and the
segments of the second. -/
theorem split_append (hclosed : ∀ s ∈ (split a).getLast?, ¬ s.isFinal)
    (hapart : ∀ s ∈ (split a).getLast?, s.isRun → ∀ next ∈ (split b).head?, ¬ next.isRun) :
    split (a ++ b) = split a ++ split b := by
  have hrow : Segmented (split a ++ split b) :=
    segmented_append_iff.2 ⟨segmented_split a, segmented_split b, fun s hs =>
      ⟨fun hfinal => absurd hfinal (hclosed s hs), hapart s hs⟩⟩
  have htext : (split a ++ split b).flatMap text = a ++ b := by
    rw [List.flatMap_append, text_split, text_split]
  exact (segmented_iff.1 ⟨hrow, htext⟩).symm

/-- Two plain runs that meet are one. -/
theorem split_append_of_meet {front back : List Segment} {x y : List Char}
    (ha : split a = front ++ [run x]) (hb : split b = run y :: back) :
    split (a ++ b) = front ++ run (x ++ y) :: back := by
  have hfront := segmented_split a
  have hback := segmented_split b
  rw [ha, segmented_append_iff] at hfront
  obtain ⟨hfront, hx, hborder⟩ := hfront
  rw [hb] at hback
  obtain ⟨hy, -, hrun, hback⟩ := hback
  have hmerged : Segmented (run (x ++ y) :: back) := by
    refine ⟨⟨?_, ?_⟩, fun hfinal => absurd hfinal (by simp [isFinal]), fun _ => hrun rfl, hback⟩
    · exact fun he => hx.1.1 (List.append_eq_nil_iff.1 he).1
    · intro c hc
      rcases List.mem_append.1 hc with hc | hc
      · exact hx.1.2 c hc
      · exact hy.2 c hc
  have hrow : Segmented (front ++ run (x ++ y) :: back) := by
    refine segmented_append_iff.2 ⟨hfront, hmerged, fun s hs => ⟨?_, ?_⟩⟩
    · exact fun hfinal => absurd ((hborder s hs).1 hfinal) (by simp)
    · -- a plain run stood behind `s` before, so `s` is none
      exact fun hs' => absurd rfl ((hborder s hs).2 hs' (run x) rfl)
  have htext : (front ++ run (x ++ y) :: back).flatMap text = a ++ b := by
    rw [← text_split a, ← text_split b, ha, hb]
    simp [text]
  exact (segmented_iff.1 ⟨hrow, htext⟩).symm

end Segment

/-! ## Reports -/

theorem utf8Length_append (a b : List Char) :
    utf8Length (a ++ b) = utf8Length a + utf8Length b := by
  induction a with
  | nil => simp [utf8Length]
  | cons c a ih => simp [utf8Length, ih, Nat.add_assoc]

theorem utf8Length_toList (s : String) : utf8Length s.toList = s.utf8ByteSize := by
  have h (text : List Char) : utf8Length text = (String.ofList text).utf8ByteSize := by
    induction text with
    | nil => rfl
    | cons c text ih =>
        rw [utf8Length, ih, String.ofList_cons, String.utf8ByteSize_append,
          String.utf8ByteSize_singleton]
  rw [h, String.ofList_toList]

/-- An event of a text that stands so many bytes later. -/
def Event.moved (bytes : Nat) : Event → Event
  | .invalidPlaceholder code offset => .invalidPlaceholder code (offset + bytes)
  | .unterminatedPlaceholder code offset => .unterminatedPlaceholder code (offset + bytes)
  | e => e

namespace Segment

theorem diagnostic?_add (offset bytes : Nat) (s : Segment) :
    s.diagnostic? (offset + bytes) = (s.diagnostic? offset).map (Event.moved bytes) := by
  cases s with
  | run text => rfl
  | escape c => rfl
  | loneBackslash => rfl
  | span code =>
      rw [diagnostic?, diagnostic?]
      cases (Placeholder.ofCode? code).isNone with
      | true => rfl
      | false => rfl
  | openSpan code => rfl

theorem diagnostics_add (offset bytes : Nat) (segments : List Segment) :
    diagnostics (offset + bytes) segments
      = (diagnostics offset segments).map (Event.moved bytes) := by
  induction segments generalizing offset with
  | nil => rfl
  | cons s rest ih =>
      rw [diagnostics, diagnostics, List.map_append, ← ih, diagnostic?_add, Nat.add_right_comm]
      cases s.diagnostic? offset with
      | none => rfl
      | some e => rfl

theorem diagnostics_append (offset : Nat) (front back : List Segment) :
    diagnostics offset (front ++ back) = diagnostics offset front
      ++ diagnostics (offset + utf8Length (front.flatMap text)) back := by
  induction front generalizing offset with
  | nil => rfl
  | cons s front ih =>
      rw [List.cons_append, diagnostics, diagnostics, ih, List.append_assoc, List.flatMap_cons,
        utf8Length_append, Nat.add_assoc]

/-- Nobody who reads the reports can tell two plain runs from one. -/
theorem diagnostics_run_append (offset : Nat) (x y : List Char) (back : List Segment) :
    diagnostics offset (run (x ++ y) :: back) = diagnostics offset (run x :: run y :: back) := by
  simp [diagnostics, diagnostic?, text, utf8Length_append, Nat.add_assoc]

end Segment

/-! ## Templates in a row -/

namespace Template

/-- Whether a template is over where it ends: no brace is left open, and there is no backslash that
waits for a character. -/
def Closed (source : String) : Prop :=
  ∀ s ∈ (Segment.split source.toList).getLast?, ¬ s.isFinal

/-- Whether a template ends in a plain run and another one starts with one. -/
def Meet (a b : String) (x y : List Char) : Prop :=
  (Segment.split a.toList).getLast? = some (.run x) ∧
    (Segment.split b.toList).head? = some (.run y)

/-- What it is for two templates to say, one behind the other, what each of them says. -/
structure Composes (a b : String) : Prop where
  /-- The nodes come one after the other. -/
  apart : (∀ x y, ¬ Meet a b x y) → (parse (a ++ b)).nodes = (parse a).nodes ++ (parse b).nodes
  /-- Plain runs that meet make one literal. -/
  joined : ∀ x y, Meet a b x y → ∃ front back,
    (parse a).nodes = front ++ [.literal x] ∧ (parse b).nodes = .literal y :: back ∧
      (parse (a ++ b)).nodes = front ++ .literal (x ++ y) :: back
  /-- The reports come one after the other, those of the second template moved by the first. -/
  diagnostics_eq : diagnostics (a ++ b)
    = diagnostics a ++ (diagnostics b).map (Event.moved a.utf8ByteSize)
  /-- The texts come one after the other, and what is wrong first is wrong. -/
  format_eq : ∀ (l : Localizer) (seconds : UInt64), l.format seconds (a ++ b)
    = do return (← l.format seconds a) ++ (← l.format seconds b)
  /-- There are texts where no number that is shown is too wide. -/
  format_ok : ∀ (l : Localizer) (seconds : UInt64),
    (∀ p ∈ (parse a).placeholders ++ (parse b).placeholders,
      p.hidden ⟨seconds⟩ = false → p.digits ≤ maxWidth) →
    ∃ x y, l.format seconds a = .ok x ∧ l.format seconds b = .ok y ∧
      l.format seconds (a ++ b) = .ok (x ++ y)

variable {a b : String} {x y : List Char}

theorem exists_split_of_meet (h : Meet a b x y) : ∃ front back,
    Segment.split a.toList = front ++ [.run x] ∧ Segment.split b.toList = .run y :: back := by
  obtain ⟨front, hfront⟩ := List.getLast?_eq_some_iff.1 h.1
  obtain ⟨back, hback⟩ := List.head?_eq_some_iff.1 h.2
  exact ⟨front, back, hfront, hback⟩

theorem split_of_meet {front back : List Segment} (ha : Segment.split a.toList = front ++ [.run x])
    (hb : Segment.split b.toList = .run y :: back) :
    Segment.split (a ++ b).toList = front ++ .run (x ++ y) :: back := by
  rw [String.toList_append, Segment.split_append_of_meet ha hb]

theorem split_of_not_meet (ha : Closed a) (h : ∀ x y, ¬ Meet a b x y) :
    Segment.split (a ++ b).toList = Segment.split a.toList ++ Segment.split b.toList := by
  rw [String.toList_append]
  refine Segment.split_append ha ?_
  intro s hs hrun next hnext hrun'
  obtain ⟨x, rfl⟩ := Segment.isRun_iff.1 hrun
  obtain ⟨y, rfl⟩ := Segment.isRun_iff.1 hrun'
  exact h x y ⟨hs, hnext⟩

theorem split_empty : Segment.split "".toList = [] := by
  rw [show "".toList = [] from rfl, Segment.split]

theorem closed_empty : Closed "" := by
  intro s hs
  rw [split_empty] at hs
  cases hs

/-- Two closed templates in a row are closed. -/
theorem closed_append (ha : Closed a) (hb : Closed b) : Closed (a ++ b) := by
  intro s hs
  by_cases h : ∃ x y, Meet a b x y
  · obtain ⟨x, y, h⟩ := h
    obtain ⟨front, back, hsplit, hsplit'⟩ := exists_split_of_meet h
    rw [split_of_meet hsplit hsplit', List.getLast?_append_cons] at hs
    cases back with
    | nil =>
        cases hs
        exact Bool.false_ne_true
    | cons next back =>
        refine hb s ?_
        rw [hsplit', List.getLast?_cons_cons]
        rwa [List.getLast?_cons_cons] at hs
  · rw [split_of_not_meet ha fun x y hm => h ⟨x, y, hm⟩, List.getLast?_append] at hs
    cases hlast : (Segment.split b.toList).getLast? with
    | none =>
        rw [hlast] at hs
        exact ha s hs
    | some last =>
        rw [hlast] at hs
        exact hb s (hlast.trans hs)

/-! ### Nodes -/

theorem nodes_of_not_meet (ha : Closed a) (h : ∀ x y, ¬ Meet a b x y) :
    (parse (a ++ b)).nodes = (parse a).nodes ++ (parse b).nodes := by
  show (Segment.split (a ++ b).toList).filterMap Segment.node? = _
  rw [split_of_not_meet ha h, List.filterMap_append]
  rfl

theorem nodes_of_meet (h : Meet a b x y) : ∃ front back,
    (parse a).nodes = front ++ [.literal x] ∧ (parse b).nodes = .literal y :: back ∧
      (parse (a ++ b)).nodes = front ++ .literal (x ++ y) :: back := by
  obtain ⟨front, back, ha, hb⟩ := exists_split_of_meet h
  refine ⟨front.filterMap Segment.node?, back.filterMap Segment.node?, ?_, ?_, ?_⟩
  · show (Segment.split a.toList).filterMap Segment.node? = _
    rw [ha, List.filterMap_append]
    rfl
  · show (Segment.split b.toList).filterMap Segment.node? = _
    rw [hb]
    rfl
  · show (Segment.split (a ++ b).toList).filterMap Segment.node? = _
    rw [split_of_meet ha hb, List.filterMap_append]
    rfl

/-! ### Reports and texts -/

theorem diagnostics_append (ha : Closed a) (b : String) : diagnostics (a ++ b)
    = diagnostics a ++ (diagnostics b).map (Event.moved a.utf8ByteSize) := by
  have hrow : diagnostics (a ++ b)
      = Segment.diagnostics 0 (Segment.split a.toList ++ Segment.split b.toList) := by
    rw [diagnostics]
    by_cases h : ∃ x y, Meet a b x y
    · obtain ⟨x, y, h⟩ := h
      obtain ⟨front, back, ha, hb⟩ := exists_split_of_meet h
      rw [split_of_meet ha hb, Segment.diagnostics_append, Segment.diagnostics_run_append,
        ← Segment.diagnostics_append, ha, hb, List.append_assoc, List.singleton_append]
    · rw [split_of_not_meet ha fun x y hm => h ⟨x, y, hm⟩]
  rw [hrow, Segment.diagnostics_append, Segment.diagnostics_add, Segment.text_split,
    utf8Length_toList]
  rfl

theorem renderAll_nodes_append (ha : Closed a) (b : String) (d : Breakdown) (l : Localizer) :
    Node.renderAll d l (parse (a ++ b)).nodes
      = Node.renderAll d l ((parse a).nodes ++ (parse b).nodes) := by
  by_cases h : ∃ x y, Meet a b x y
  · obtain ⟨x, y, h⟩ := h
    obtain ⟨front, back, ha, hb, hab⟩ := nodes_of_meet h
    rw [hab, ha, hb, Node.renderAll_append, Node.renderAll_literal_append,
      ← Node.renderAll_append, List.append_assoc, List.singleton_append]
  · rw [nodes_of_not_meet ha fun x y hm => h ⟨x, y, hm⟩]

theorem format_append (ha : Closed a) (b : String) (l : Localizer) (seconds : UInt64) :
    l.format seconds (a ++ b) = do return (← l.format seconds a) ++ (← l.format seconds b) := by
  simp only [Localizer.format, render]
  rw [renderAll_nodes_append ha, Node.renderAll_append]
  cases Node.renderAll ⟨seconds⟩ l (parse a).nodes with
  | error e => rfl
  | ok text =>
      cases Node.renderAll ⟨seconds⟩ l (parse b).nodes with
      | error e => rfl
      | ok text' => exact congrArg Except.ok String.ofList_append

/-- A closed template between two others is shown between them. -/
theorem format_between (ha : Closed a) {m : String} (hm : Closed m) (b : String) (l : Localizer)
    (seconds : UInt64) : l.format seconds (a ++ m ++ b)
      = do return (← l.format seconds a) ++ (← l.format seconds m) ++ (← l.format seconds b) := by
  rw [String.append_assoc, format_append ha, format_append hm]
  cases l.format seconds a with
  | error e => rfl
  | ok x =>
      cases l.format seconds m with
      | error e => rfl
      | ok y =>
          cases l.format seconds b with
          | error e => rfl
          | ok z => exact congrArg Except.ok String.append_assoc.symm

theorem composes (ha : Closed a) (b : String) : Composes a b where
  apart := nodes_of_not_meet ha
  joined _ _ := nodes_of_meet
  diagnostics_eq := diagnostics_append ha b
  format_eq := format_append ha b
  format_ok l seconds h := by
    obtain ⟨x, hx⟩ := Localizer.exists_format_eq_ok (l := l) fun p hp =>
      h p (List.mem_append_left _ hp)
    obtain ⟨y, hy⟩ := Localizer.exists_format_eq_ok (l := l) fun p hp =>
      h p (List.mem_append_right _ hp)
    refine ⟨x, y, hx, hy, ?_⟩
    rw [format_append ha, hx, hy]
    rfl

/-! ### Malformed spans -/

/-- The text of a span. -/
def spanOf (code : List Char) : String :=
  String.ofList (Segment.span code).text

theorem split_spanOf {code : List Char} (h : '}' ∉ code) :
    Segment.split (spanOf code).toList = [.span code] := by
  have hcode : Segment.Segmented [.span code] := ⟨h, fun _ => rfl, by simp, trivial⟩
  have hcut := Segment.split_flatMap_text hcode
  rw [List.flatMap_singleton] at hcut
  rw [spanOf, String.toList_ofList, hcut]

theorem closed_spanOf {code : List Char} (h : '}' ∉ code) : Closed (spanOf code) := by
  intro s hs
  rw [split_spanOf h] at hs
  cases hs
  simp [Segment.isFinal]

theorem nodes_spanOf {code : List Char} (h : '}' ∉ code) :
    (parse (spanOf code)).nodes = [(Placeholder.ofCode? code).elim .invalid .placeholder] := by
  show (Segment.split (spanOf code).toList).filterMap Segment.node? = _
  rw [split_spanOf h]
  rfl

theorem format_spanOf {code : List Char} (h : '}' ∉ code)
    (hcode : Placeholder.ofCode? code = none) (l : Localizer) (seconds : UInt64) :
    l.format seconds (spanOf code) = .ok "?" := by
  rw [Localizer.format, render, nodes_spanOf h, hcode]
  rfl

/-- A placeholder in braces says what the placeholder says. -/
theorem format_spanOf_of_some {code : List Char} {p : Placeholder} (h : '}' ∉ code)
    (hcode : Placeholder.ofCode? code = some p) (l : Localizer) (seconds : UInt64) :
    l.format seconds (spanOf code) = (p.render ⟨seconds⟩ l).map String.ofList := by
  rw [Localizer.format, render, nodes_spanOf h, hcode, Node.renderAll_eq_concatM]
  show (do return String.ofList (← concatM (Node.render ⟨seconds⟩ l) [.placeholder p])) = _
  rw [concatM_cons, Node.render]
  cases p.render ⟨seconds⟩ l with
  | error e => rfl
  | ok text => exact congrArg (fun x => Except.ok (String.ofList x)) (List.append_nil text)

/-- **Templates compose.**  A template that is closed and one behind it say what each of them says
on its own: in their nodes, but for plain runs that meet; in their reports; and in their texts.  So
a span that is no placeholder has no say in what is shown before it and behind it. -/
theorem composes_of_closed (ha : Closed a) :
    (∀ b, Composes a b) ∧
    ∀ (b : String) (code : List Char), '}' ∉ code → Placeholder.ofCode? code = none →
      ∀ (l : Localizer) (seconds : UInt64), l.format seconds (a ++ spanOf code ++ b)
        = do return (← l.format seconds a) ++ "?" ++ (← l.format seconds b) := by
  refine ⟨composes ha, fun b code h hcode l seconds => ?_⟩
  rw [String.append_assoc, format_append ha, format_append (closed_spanOf h),
    format_spanOf h hcode]
  cases l.format seconds a with
  | error e => rfl
  | ok x =>
      cases l.format seconds b with
      | error e => rfl
      | ok y => exact congrArg Except.ok String.append_assoc.symm

/-- Two plain runs that meet behind a span that is no placeholder, in front of a brace that is never
closed. -/
theorem composes_of_closed_run :
    let a := String.ofList ['ä', '{', 'x', '}', 'b']
    let b := String.ofList ['c', '{', 'D', 'D', '}', '{', 'm']
    Closed a ∧ Meet a b ['b'] ['c'] ∧ Composes a b := by
  intro a b
  have hsplit : Segment.split a.toList = [.run ['ä'], .span ['x'], .run ['b']] := by
    decide +kernel
  have hclosed : Closed a := by
    intro s hs
    rw [hsplit] at hs
    cases hs
    decide
  have hmeet : Meet a b ['b'] ['c'] := by
    refine ⟨by rw [hsplit]; rfl, ?_⟩
    decide +kernel
  exact ⟨hclosed, hmeet, (composes_of_closed hclosed).1 b⟩

end Template

end Elapsed
