import Elapsed.Proofs.Template.Segmentation
import Elapsed.Template.Printer

/-!
# The nodes that templates can express

Not every list of nodes comes from a template: an empty literal, two plain runs in a row or a
placeholder without digits never do.  `Node.AllExpressible` says which lists do, and
`Node.writeAll` writes a template for each of them.

*Codes.*  `Placeholder.ofCode?_code`: the plainest code of a placeholder is read as this
placeholder, for its parts denote it (`Placeholder.denotes_spelling`).  A code without a closing
brace is read as nothing that cannot be written (`Placeholder.expressible_of_ofCode?`).

*Nodes.*  A node is written as one segment (`Node.segment`), a literal of one character as an
escape.  Nodes that can be expressed give segments that are put together right
(`Node.segmented_map_segment`), and such segments are found again in their text
(`Segment.split_flatMap_text`).  So the written pieces never run into each other, and it takes no
look at the scanner to see it.

*Segments.*  The other way round, segments that are put together right are read as nodes that can be
expressed (`Segment.allExpressible_filterMap_node?`), and every template is cut into such segments.
-/

namespace Elapsed

/-! ## Codes -/

namespace Placeholder

/-- The parts of the plainest code of a placeholder. -/
def spelling (p : Placeholder) : Spelling where
  letter := p.letter
  count := p.digits
  body := p.suffixText
  tail := if p.optional then '?' :: p.tail else []

theorem text_spelling (p : Placeholder) : p.spelling.text = p.code := rfl

theorem letter_eq_toUpper_iff (p : Placeholder) :
    p.letter = p.unit.letter.toUpper ↔ p.cumulative = true := by
  unfold letter
  cases p.cumulative with
  | true => simp
  | false =>
      have hne : p.unit.letter ≠ p.unit.letter.toUpper := by
        intro h
        refine p.unit.letter_not_isUpper ?_
        rw [h]
        exact p.unit.isUpper_toUpper_letter
      simpa using hne

theorem spelled_suffixText (p : Placeholder) : p.suffix.Spelled p.unit p.suffixText := by
  unfold suffixText
  cases p.suffix with
  | bare => exact .bare
  | abbreviation => exact .abbreviation
  | word => exact .singular rfl

theorem denotes_spelling {p : Placeholder} (h : p.Expressible) : p.spelling.Denotes p where
  letter := by
    show p.letter = _ ∨ p.letter = _
    unfold letter
    cases p.cumulative with
    | true => exact .inr rfl
    | false => exact .inl rfl
  cumulative := p.letter_eq_toUpper_iff.symm
  pos := h.1
  digits := rfl
  body := p.spelled_suffixText
  tail := by
    unfold spelling
    cases ho : p.optional with
    | true => exact .inr ⟨rfl, rfl⟩
    | false => exact .inl ⟨rfl, rfl, h.2.2 ho⟩

/-- The plainest code of a placeholder is read as this placeholder. -/
theorem ofCode?_code {p : Placeholder} (h : p.Expressible) : ofCode? p.code = some p :=
  ofCode?_eq_some_iff.2 ⟨p.spelling, p.text_spelling, denotes_spelling h⟩

/-- The plainest code of a placeholder does not close the span it stands in. -/
theorem brace_not_mem_code {p : Placeholder} (h : p.Expressible) : '}' ∉ p.code := by
  rw [← text_spelling]
  exact (denotes_spelling h).brace_not_mem h.2.1

/-- What a code without a closing brace is read as can be written. -/
theorem expressible_of_ofCode? {code : List Char} {p : Placeholder} (hcode : '}' ∉ code)
    (h : ofCode? code = some p) : p.Expressible := by
  obtain ⟨a, rfl, ha⟩ := ofCode?_eq_some_iff.1 h
  refine ⟨by rw [ha.digits]; exact ha.pos, ?_, ?_⟩
  · intro hmem
    rcases ha.tail with ⟨-, -, htail⟩ | ⟨htail, -⟩
    · rw [htail] at hmem
      exact absurd hmem List.not_mem_nil
    · refine hcode (List.mem_append_right _ ?_)
      rw [htail]
      exact List.mem_cons_of_mem _ hmem
  · intro ho
    rcases ha.tail with ⟨-, -, htail⟩ | ⟨-, htrue⟩
    · exact htail
    · exact absurd (ho.symm.trans htrue) (by decide)

end Placeholder

/-! ## Nodes as segments -/

namespace Node

theorem two_le_length {text : List Char} (hne : text ≠ []) (hsingle : ∀ c, text = [c] → False) :
    2 ≤ text.length := by
  match text with
  | [] => exact absurd rfl hne
  | [c] => exact absurd rfl (hsingle c)
  | _ :: _ :: _ => simp

/-- The segment that a node is written as. -/
def segment : Node → Segment
  | .literal [c] => .escape c
  | .literal text => .run text
  | .placeholder p => .span p.code
  | .invalid => .span []

theorem text_segment (n : Node) : n.segment.text = n.write := by
  fun_cases segment n with
  | case1 c => rfl
  | case2 text h =>
      rw [write]
      · rfl
      · exact h
  | case3 p => rfl
  | case4 => rfl

theorem writeAll_eq (nodes : List Node) :
    writeAll nodes = (nodes.map segment).flatMap Segment.text := by
  rw [writeAll, List.flatMap_map]
  exact congrArg (nodes.flatMap ·) (funext fun n => n.text_segment.symm)

theorem wellFormed_segment {n : Node} (h : n.Expressible) : n.segment.WellFormed := by
  fun_cases segment n with
  | case1 c => trivial
  | case2 text hsingle => exact ⟨h.1, h.2 (two_le_length h.1 hsingle)⟩
  | case3 p => exact Placeholder.brace_not_mem_code h
  | case4 => exact List.not_mem_nil

theorem isFinal_segment (n : Node) : n.segment.isFinal = false := by
  fun_cases segment n <;> rfl

theorem isLong_of_isRun {n : Node} (h : n.Expressible) (hrun : n.segment.isRun) : n.isLong := by
  revert hrun
  fun_cases segment n with
  | case1 c => exact fun hrun => absurd hrun (by simp [Segment.isRun])
  | case2 text hsingle => exact fun _ => decide_eq_true (two_le_length h.1 hsingle)
  | case3 p => exact fun hrun => absurd hrun (by simp [Segment.isRun])
  | case4 => exact fun hrun => absurd hrun (by simp [Segment.isRun])

theorem node?_segment {n : Node} (h : n.Expressible) : n.segment.node? = some n := by
  fun_cases segment n with
  | case1 c => rfl
  | case2 text hne => rfl
  | case3 p => exact Segment.node?_of_some (Placeholder.ofCode?_code h)
  | case4 => rfl

/-- Nodes that can be expressed are written as segments that are put together right. -/
theorem segmented_map_segment {nodes : List Node} (h : AllExpressible nodes) :
    Segment.Segmented (nodes.map segment) := by
  induction nodes with
  | nil => trivial
  | cons n rest ih =>
      obtain ⟨hn, hlong, hrest⟩ := h
      refine ⟨wellFormed_segment hn, ?_, ?_, ih hrest⟩
      · intro hfinal
        rw [isFinal_segment] at hfinal
        exact absurd hfinal (by decide)
      · intro hrun s hs hrun'
        cases rest with
        | nil => exact absurd hs (by simp)
        | cons next rest =>
            cases hs
            exact hlong (isLong_of_isRun hn hrun) next rfl (isLong_of_isRun hrest.1 hrun')

/-- These segments are read as the nodes they were written for. -/
theorem filterMap_node?_segment {nodes : List Node} (h : AllExpressible nodes) :
    (nodes.map segment).filterMap Segment.node? = nodes := by
  induction nodes with
  | nil => rfl
  | cons n rest ih =>
      rw [List.map_cons, List.filterMap_cons_some (node?_segment h.1), ih h.2.2]

/-- **Reading undoes writing.** -/
theorem nodesOf_writeAll {nodes : List Node} (h : AllExpressible nodes) :
    Template.nodesOf (writeAll nodes) = nodes := by
  rw [Template.nodesOf, writeAll_eq, Segment.split_flatMap_text (segmented_map_segment h),
    filterMap_node?_segment h]

end Node

/-! ## Segments as nodes -/

namespace Segment

theorem expressible_of_node? {s : Segment} {n : Node} (hs : s.WellFormed)
    (hn : s.node? = some n) : n.Expressible := by
  cases s with
  | run text =>
      cases hn
      exact ⟨hs.1, fun _ => hs.2⟩
  | escape c =>
      cases hn
      exact ⟨by simp, fun hlength => absurd hlength (by simp)⟩
  | loneBackslash => cases hn
  | span code =>
      cases hp : Placeholder.ofCode? code with
      | none =>
          rw [node?_of_none hp] at hn
          cases hn
          trivial
      | some p =>
          rw [node?_of_some hp] at hn
          cases hn
          exact Placeholder.expressible_of_ofCode? hs hp
  | openSpan code =>
      cases hn
      trivial

/-- Only a plain run makes a literal of two or more characters. -/
theorem isRun_of_isLong {s : Segment} {n : Node} (hn : s.node? = some n) (hlong : n.isLong) :
    s.isRun := by
  cases s with
  | run text => rfl
  | escape c =>
      cases hn
      exact absurd hlong (by simp [Node.isLong])
  | loneBackslash => cases hn
  | span code =>
      cases hp : Placeholder.ofCode? code with
      | none =>
          rw [node?_of_none hp] at hn
          cases hn
          exact absurd hlong (by simp [Node.isLong])
      | some p =>
          rw [node?_of_some hp] at hn
          cases hn
          exact absurd hlong (by simp [Node.isLong])
  | openSpan code =>
      cases hn
      exact absurd hlong (by simp [Node.isLong])

/-- The first node is that of the first segment: a segment without a node stands at the end. -/
theorem exists_head?_of_node {segments : List Segment} (h : Segmented segments) {n : Node}
    (hn : n ∈ (segments.filterMap node?).head?) : ∃ s ∈ segments.head?, s.node? = some n := by
  cases segments with
  | nil => exact absurd hn (by simp)
  | cons s rest =>
      refine ⟨s, rfl, ?_⟩
      cases s with
      | loneBackslash =>
          rw [h.2.1 rfl] at hn
          exact absurd hn (by simp [node?])
      | run text => exact hn
      | escape c => exact hn
      | span code => exact hn
      | openSpan code => exact hn

/-- The nodes of segments that are put together right can be expressed. -/
theorem allExpressible_filterMap_node? {segments : List Segment} (h : Segmented segments) :
    Node.AllExpressible (segments.filterMap node?) := by
  induction segments with
  | nil => trivial
  | cons s rest ih =>
      obtain ⟨hs, -, hrun, hrest⟩ := h
      cases hn : s.node? with
      | none =>
          rw [List.filterMap_cons_none hn]
          exact ih hrest
      | some n =>
          rw [List.filterMap_cons_some hn]
          refine ⟨expressible_of_node? hs hn, ?_, ih hrest⟩
          intro hlong next hnext hlong'
          obtain ⟨s', hs', hn'⟩ := exists_head?_of_node hrest hnext
          exact hrun (isRun_of_isLong hn hlong) s' hs' (isRun_of_isLong hn' hlong')

end Segment

/-! ## What templates express -/

/-- **The nodes that templates can express.**  Nodes are those of some template exactly if each of
them and each two neighbours can be expressed; and the text they are then written as is read as
these nodes again. -/
theorem Template.exists_parse_iff (nodes : List Node) :
    ((∃ source : String, (Template.parse source).nodes = nodes) ↔ Node.AllExpressible nodes) ∧
    (Node.AllExpressible nodes →
      (Template.parse (String.ofList (Node.writeAll nodes))).nodes = nodes) := by
  have hwrite : Node.AllExpressible nodes →
      (Template.parse (String.ofList (Node.writeAll nodes))).nodes = nodes := by
    intro h
    show Template.nodesOf (String.ofList (Node.writeAll nodes)).toList = nodes
    rw [String.toList_ofList, Node.nodesOf_writeAll h]
  refine ⟨⟨?_, fun h => ⟨_, hwrite h⟩⟩, hwrite⟩
  rintro ⟨source, rfl⟩
  exact Segment.allExpressible_filterMap_node? (Segment.segmented_split source.toList)

/-- Single characters beside a plain run, and an optional text that would open a span, escape its
end or start another optional text if it stood outside. -/
theorem Template.exists_parse_iff_specials :
    let nodes : List Node := [.literal ['{'], .literal ['a', '}'], .invalid,
      .placeholder ⟨.fixed .day, true, 2, .word, true, ['{', '?', '\\']⟩, .literal ['\\']]
    Node.AllExpressible nodes ∧
      (Template.parse (String.ofList (Node.writeAll nodes))).nodes = nodes := by
  intro nodes
  have hnodes : Node.AllExpressible nodes := by
    simp [nodes, Node.AllExpressible, Node.Expressible, Placeholder.Expressible, Node.isLong,
      Segment.isPlain]
  exact ⟨hnodes, (exists_parse_iff nodes).2 hnodes⟩

end Elapsed
