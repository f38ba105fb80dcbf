import Mathlib.Algebra.Group.Nat.Even
import Mathlib.Data.List.Induction
import Elapsed.Proofs.Template.Composition

/-!
# Reports match invalid nodes

Reading a template gives nodes, and apart from them there are reports.  Each report is about one
invalid node, and it says where the span of this node starts.

*Segments.*  A segment is reported exactly if its node is invalid
(`Segment.exists_diagnostic?_iff`), so there are as many reports as invalid nodes
(`Segment.length_diagnostics`).  A report is made where its segment starts
(`Segment.exists_of_diagnostics`), and as no segment that is reported is empty, the offsets go up
(`Segment.exists_offsets`).

*Templates.*  What is in front of a segment is a template of its own (`Template.exists_front`).  It
is closed, so it ends in an even number of backslashes (`Template.even_backslashes_of_closed`), and
the brace behind it opens a span.  `Event.Reports` says what a report tells of this span.

So the reports and the invalid nodes go together one by one, in order
(`Template.diagnostics_match`).
-/

namespace Elapsed

/-! ## Segments -/

/-- The number of bytes before what is reported of a template. -/
def Event.offset? : Event → Option Nat
  | .invalidPlaceholder _ offset => some offset
  | .unterminatedPlaceholder _ offset => some offset
  | _ => none

namespace Segment

variable {s : Segment} {segments : List Segment} {offset : Nat} {e : Event}

/-- A segment is reported exactly if its node is invalid. -/
theorem exists_diagnostic?_iff :
    (∃ e, s.diagnostic? offset = some e) ↔ s.node? = some .invalid := by
  cases s with
  | run text => simp [diagnostic?, node?]
  | escape c => simp [diagnostic?, node?]
  | loneBackslash => simp [diagnostic?, node?]
  | span code =>
      cases hcode : Placeholder.ofCode? code with
      | none => simp [diagnostic?, node?, hcode]
      | some p => simp [diagnostic?, node?, hcode]
  | openSpan code => simp [diagnostic?, node?]

/-- What is reported is a span that is no placeholder, or a brace that is never closed. -/
theorem diagnostic?_cases (h : s.diagnostic? offset = some e) :
    (∃ code, s = span code ∧ Placeholder.ofCode? code = none ∧
      e = .invalidPlaceholder (String.ofList code) offset) ∨
    ∃ code, s = openSpan code ∧ e = .unterminatedPlaceholder (String.ofList code) offset := by
  cases s with
  | run text => cases h
  | escape c => cases h
  | loneBackslash => cases h
  | span code =>
      rw [diagnostic?] at h
      split at h
      · rename_i hcode
        cases h
        exact .inl ⟨code, rfl, Option.isNone_iff_eq_none.1 hcode, rfl⟩
      · cases h
  | openSpan code =>
      cases h
      exact .inr ⟨code, rfl, rfl⟩

theorem offset?_of_diagnostic? (h : s.diagnostic? offset = some e) : e.offset? = some offset := by
  rcases diagnostic?_cases h with ⟨code, -, -, rfl⟩ | ⟨code, -, rfl⟩
  · rfl
  · rfl

/-- A segment that is reported has a brace at least. -/
theorem utf8Length_pos_of_diagnostic? (h : s.diagnostic? offset = some e) :
    0 < utf8Length s.text := by
  have hbrace (text : List Char) : 0 < utf8Length ('{' :: text) :=
    Nat.add_pos_left (Char.utf8Size_pos '{') _
  rcases diagnostic?_cases h with ⟨code, rfl, -⟩ | ⟨code, rfl, -⟩
  · exact hbrace _
  · exact hbrace _

/-- There are as many reports as invalid nodes. -/
theorem length_diagnostics (segments : List Segment) : ∀ offset : Nat,
    (diagnostics offset segments).length = (segments.filterMap node?).count .invalid := by
  induction segments with
  | nil => exact fun _ => rfl
  | cons s rest ih =>
      intro offset
      rw [diagnostics, List.length_append, ih]
      cases h : s.diagnostic? offset with
      | none =>
          have hnode : s.node? ≠ some .invalid := by
            intro hinvalid
            obtain ⟨e, he⟩ : ∃ e, s.diagnostic? offset = some e :=
              exists_diagnostic?_iff.2 hinvalid
            rw [h] at he
            cases he
          cases hn : s.node? with
          | none => simp [hn]
          | some n =>
              have hne : n ≠ .invalid := fun he => hnode (he ▸ hn)
              simp [hn, List.count_cons_of_ne hne]
      | some e =>
          have hnode := exists_diagnostic?_iff.1 ⟨e, h⟩
          rw [List.filterMap_cons_some hnode, List.count_cons_self, Option.toList_some,
            List.length_singleton, Nat.add_comm]

/-- The offsets of reports go up. -/
theorem exists_offsets (segments : List Segment) : ∀ offset : Nat, ∃ offsets : List Nat,
    (diagnostics offset segments).map Event.offset? = offsets.map some ∧
      (∀ o ∈ offsets, offset ≤ o) ∧ offsets.Pairwise (· < ·) := by
  induction segments with
  | nil => exact fun _ => ⟨[], rfl, by simp, .nil⟩
  | cons s rest ih =>
      intro offset
      obtain ⟨offsets, hoffsets, hle, hlt⟩ := ih (offset + utf8Length s.text)
      rw [diagnostics, List.map_append, hoffsets]
      cases h : s.diagnostic? offset with
      | none =>
          exact ⟨offsets, rfl, fun o ho => Nat.le_trans (Nat.le_add_right _ _) (hle o ho), hlt⟩
      | some e =>
          have hpos := utf8Length_pos_of_diagnostic? h
          refine ⟨offset :: offsets, ?_, ?_, List.pairwise_cons.2 ⟨fun o ho => ?_, hlt⟩⟩
          · rw [Option.toList_some, List.map_singleton, offset?_of_diagnostic? h]
            rfl
          · rw [List.forall_mem_cons]
            exact ⟨Nat.le_refl _, fun o ho => Nat.le_trans (Nat.le_add_right _ _) (hle o ho)⟩
          · exact Nat.lt_of_lt_of_le (Nat.lt_add_of_pos_right hpos) (hle o ho)

/-- Each report is that of a segment, behind the reports of the segments before it. -/
theorem exists_of_diagnostics {later : List Event} : ∀ {offset : Nat} {earlier : List Event},
    diagnostics offset segments = earlier ++ e :: later → ∃ front s back,
      segments = front ++ s :: back ∧ diagnostics offset front = earlier ∧
      s.diagnostic? (offset + utf8Length (front.flatMap text)) = some e ∧
      diagnostics (offset + utf8Length (front.flatMap text) + utf8Length s.text) back = later := by
  induction segments with
  | nil => exact fun h => absurd h (by simp [diagnostics])
  | cons s rest ih =>
      intro offset earlier h
      rw [diagnostics] at h
      -- a report that is not that of `s` is one of the segments behind `s`
      have hbehind {earlier' : List Event}
          (h' : diagnostics (offset + utf8Length s.text) rest = earlier' ++ e :: later) :
          ∃ front s' back, s :: rest = front ++ s' :: back ∧
            diagnostics offset front = (s.diagnostic? offset).toList ++ earlier' ∧
            s'.diagnostic? (offset + utf8Length (front.flatMap text)) = some e ∧
            diagnostics (offset + utf8Length (front.flatMap text) + utf8Length s'.text) back
              = later := by
        obtain ⟨front, s', back, rfl, hfront, hs', hback⟩ := ih h'
        rw [Nat.add_assoc offset, ← utf8Length_append, ← List.flatMap_cons] at hs' hback
        exact ⟨s :: front, s', back, rfl, by rw [diagnostics, hfront], hs', hback⟩
      cases hs : s.diagnostic? offset with
      | none =>
          rw [hs] at h hbehind
          exact hbehind h
      | some e' =>
          rw [hs] at h hbehind
          cases earlier with
          | nil =>
              cases h
              exact ⟨[], s, rest, rfl, rfl, hs, rfl⟩
          | cons e'' earlier =>
              obtain ⟨rfl, hrest⟩ := List.cons.inj h
              exact hbehind hrest

/-- Nothing that is followed by a segment swallows what is behind it. -/
theorem not_isFinal_of_append {front back : List Segment} (h : Segmented (front ++ s :: back)) :
    ∀ s' ∈ front.getLast?, ¬ s'.isFinal := by
  intro s' hs' hfinal
  exact List.cons_ne_nil s back (((segmented_append_iff.1 h).2.2 s' hs').1 hfinal)

end Segment

/-! ## Templates -/

/-- Whether an event reports the brace that stands in a template behind a given part of it.  The
offset counts the bytes of this part; the code is what is in the braces, and no placeholder, or all
that is behind the brace, if that is never closed. -/
inductive Event.Reports (source front : String) : Event → Prop where
  | invalid {code behind : List Char}
      (htext : source.toList = front.toList ++ '{' :: (code ++ '}' :: behind))
      (hbrace : '}' ∉ code) (hcode : Placeholder.ofCode? code = none) :
      Reports source front (.invalidPlaceholder (String.ofList code) front.utf8ByteSize)
  | unterminated {code : List Char} (htext : source.toList = front.toList ++ '{' :: code)
      (hbrace : '}' ∉ code) :
      Reports source front (.unterminatedPlaceholder (String.ofList code) front.utf8ByteSize)

namespace Template

variable {source : String} {front back : List Segment} {s : Segment} {e : Event}

/-- The backslashes at the end of segments come in pairs, if no final one is among these. -/
theorem even_backslashes {segments : List Segment} (h : Segment.Segmented segments)
    (hlast : ∀ s ∈ segments.getLast?, ¬ s.isFinal) :
    Even ((segments.flatMap Segment.text).reverse.takeWhile (· == '\\')).length := by
  induction segments using List.reverseRecOn with
  | nil => exact ⟨0, rfl⟩
  | append_singleton front s ih =>
      obtain ⟨hfront, hs, -⟩ := Segment.segmented_append_iff.1 h
      have hs' : ¬ s.isFinal := hlast s List.getLast?_concat
      rw [List.flatMap_append, List.flatMap_singleton, List.reverse_append]
      cases s with
      | run text =>
          obtain ⟨text, c, rfl⟩ := (List.eq_nil_or_concat text).resolve_left hs.1.1
          have hplain := Segment.isPlain_iff.1 (hs.1.2 c (by simp))
          simp [Segment.text, hplain.2]
      | escape c =>
          by_cases hc : c = '\\'
          · subst hc
            exact (ih hfront (Segment.not_isFinal_of_append h)).add even_two
          · simp [Segment.text, hc]
      | loneBackslash => exact absurd rfl hs'
      | span code => simp [Segment.text]
      | openSpan code => exact absurd rfl hs'

theorem even_backslashes_of_closed {front : String} (h : Closed front) :
    Even (front.toList.reverse.takeWhile (· == '\\')).length := by
  have heven := even_backslashes (Segment.segmented_split front.toList) h
  rwa [Segment.text_split] at heven

/-- What is in front of a segment is a closed template, and it is cut as it is cut there. -/
theorem exists_front (h : Segment.split source.toList = front ++ s :: back) :
    ∃ before : String, Segment.split before.toList = front ∧ Closed before ∧
      before.utf8ByteSize = utf8Length (front.flatMap Segment.text) ∧
      source.toList = before.toList ++ (s.text ++ back.flatMap Segment.text) := by
  have hsegmented := Segment.segmented_split source.toList
  rw [h] at hsegmented
  have hfront := (Segment.segmented_append_iff.1 hsegmented).1
  have hsplit : Segment.split (String.ofList (front.flatMap Segment.text)).toList = front := by
    rw [String.toList_ofList, Segment.split_flatMap_text hfront]
  refine ⟨String.ofList (front.flatMap Segment.text), hsplit, ?_, ?_, ?_⟩
  · rw [Closed, hsplit]
    exact Segment.not_isFinal_of_append hsegmented
  · rw [← utf8Length_toList, String.toList_ofList]
  · rw [String.toList_ofList, ← List.flatMap_cons, ← List.flatMap_append, ← h, Segment.text_split]

/-- A report tells of the segment it is made for. -/
theorem reports_of_diagnostic? {before : String} (hs : s.WellFormed)
    (hfinal : s.isFinal → back = [])
    (htext : source.toList = before.toList ++ (s.text ++ back.flatMap Segment.text))
    (h : s.diagnostic? before.utf8ByteSize = some e) : e.Reports source before := by
  rcases Segment.diagnostic?_cases h with ⟨code, rfl, hcode, rfl⟩ | ⟨code, rfl, rfl⟩
  · have hspan : (Segment.span code).text ++ back.flatMap Segment.text
        = '{' :: (code ++ '}' :: back.flatMap Segment.text) := by simp [Segment.text]
    exact .invalid (htext.trans (by rw [hspan])) hs hcode
  · have hopen : (Segment.openSpan code).text ++ back.flatMap Segment.text = '{' :: code := by
      rw [hfinal rfl, List.flatMap_nil, List.append_nil, Segment.text]
    exact .unterminated (htext.trans (by rw [hopen])) hs

/-- A report is that of a brace behind a closed template, whose own reports are the earlier ones,
and the node of this brace is behind the nodes of that template. -/
theorem exists_reports {earlier later : List Event}
    (h : diagnostics source = earlier ++ e :: later) :
    ∃ before : String, Closed before ∧ e.Reports source before ∧ diagnostics before = earlier ∧
      (∃ behind, (parse source).nodes = (parse before).nodes ++ .invalid :: behind) ∧
      ((∃ code offset, e = .unterminatedPlaceholder code offset) → later = []) := by
  obtain ⟨front, s, back, hsplit, hfront, hs, hback⟩ := Segment.exists_of_diagnostics h
  obtain ⟨before, hbefore, hclosed, hsize, htext⟩ := exists_front hsplit
  have hsegmented := Segment.segmented_split source.toList
  rw [hsplit] at hsegmented
  obtain ⟨hwell, hfinal, -⟩ := (Segment.segmented_append_iff.1 hsegmented).2.1
  rw [Nat.zero_add, ← hsize] at hs
  refine ⟨before, hclosed, reports_of_diagnostic? hwell hfinal htext hs, ?_, ?_, ?_⟩
  · rw [diagnostics, hbefore, hfront]
  · refine ⟨back.filterMap Segment.node?, ?_⟩
    show (Segment.split source.toList).filterMap Segment.node?
      = (Segment.split before.toList).filterMap Segment.node? ++ _
    rw [hsplit, hbefore, List.filterMap_append,
      List.filterMap_cons_some (Segment.exists_diagnostic?_iff.1 ⟨e, hs⟩)]
  · rintro ⟨code, offset, rfl⟩
    rcases Segment.diagnostic?_cases hs with ⟨_, -, -, he⟩ | ⟨code, rfl, -⟩
    · cases he
    · rw [← hback, hfinal rfl]
      rfl

/-- **Reports and invalid nodes go together one by one.**  There are as many of either, and the
offsets of the reports go up.  Each report is about a brace behind a closed part of the template,
which ends in an even number of backslashes; it tells where the brace is and what it encloses.  The
reports before it are those of this part, and the node of the brace is the invalid node behind the
nodes of this part.  Nothing is reported behind a brace that is never closed.  So a template is
faulty exactly if there is something to report of it. -/
theorem diagnostics_match (source : String) :
    (diagnostics source).length = (parse source).nodes.count .invalid ∧
    (∃ offsets : List Nat, (diagnostics source).map Event.offset? = offsets.map some ∧
      offsets.Pairwise (· < ·)) ∧
    (∀ earlier e later, diagnostics source = earlier ++ e :: later →
      ∃ front : String, Closed front ∧
        Even (front.toList.reverse.takeWhile (· == '\\')).length ∧
        e.Reports source front ∧ diagnostics front = earlier ∧
        (parse front).nodes.count .invalid = earlier.length ∧
        (∃ behind, (parse source).nodes = (parse front).nodes ++ .invalid :: behind) ∧
        ((∃ code offset, e = .unterminatedPlaceholder code offset) → later = [])) ∧
    ((parse source).isFaulty = true ↔ diagnostics source ≠ []) := by
  have hcount (t : String) : (diagnostics t).length = (parse t).nodes.count .invalid :=
    Segment.length_diagnostics _ _
  obtain ⟨offsets, hoffsets, -, hascending⟩ :=
    Segment.exists_offsets (Segment.split source.toList) 0
  refine ⟨hcount source, ⟨offsets, hoffsets, hascending⟩, fun earlier e later h => ?_, ?_⟩
  · obtain ⟨front, hclosed, hreports, hearlier, hnodes, hlast⟩ := exists_reports h
    exact ⟨front, hclosed, even_backslashes_of_closed hclosed, hreports, hearlier,
      by rw [← hcount, hearlier], hnodes, hlast⟩
  · rw [isFaulty, List.contains_iff_mem, ← List.count_pos_iff, ← hcount, List.length_pos_iff]

/-- An escaped brace, a character of two bytes, an unknown letter, and a brace that is never
closed. -/
theorem diagnostics_match_mixed :
    let source := String.ofList ['\\', '{', 'ä', '{', 'x', '}', '{', 's', '}', '{', 'ö']
    diagnostics source = [.invalidPlaceholder "x" 4] ++ [.unterminatedPlaceholder "ö" 10] ∧
      ∃ front : String, (Event.unterminatedPlaceholder "ö" 10).Reports source front ∧
        diagnostics front = [.invalidPlaceholder "x" 4] := by
  intro source
  have hsource : diagnostics source
      = [.invalidPlaceholder "x" 4] ++ [.unterminatedPlaceholder "ö" 10] := by decide +kernel
  obtain ⟨front, -, -, hreports, hearlier, -⟩ := (diagnostics_match source).2.2.1 _ _ _ hsource
  exact ⟨hsource, front, hreports, hearlier⟩

end Template

end Elapsed
