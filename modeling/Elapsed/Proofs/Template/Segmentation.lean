import Elapsed.Proofs.Template.Grammar
import Elapsed.Template.Basic

/-!
# The segments of a template are unique

`Segment.split` cuts a template from left to right.  Where it cuts is not a matter of choice:
`Segment.Segmented` says, without any scanning, which sequences of segments are put together right,
and every text is written by exactly one of them.

*The cut is right.*  `segmented_split`: plain runs reach up to the next brace or backslash, so no
two of them meet, and whatever swallows the rest of the text stands at the end.

*There is no other.*  `split_flatMap_text`: cutting the text of segments that are put together right
gives these segments back.  It goes segment by segment, through one equation of `split` for each
kind (`split_run_append`, `split_span_append`, …), each for any text behind the segment.

The nodes of a template are then what its segments are read as, in order (`Segment.ReadAs`).
-/

namespace Elapsed

namespace Segment

/-! ## Cutting off one segment -/

theorem isPlain_iff {c : Char} : isPlain c ↔ c ≠ '{' ∧ c ≠ '\\' := by
  simp [isPlain]

/-- What `split` takes for the start of a plain run is a plain character. -/
theorem isPlain_of_split {c : Char} {rest : List Char} (hlast : c = '\\' → rest = [] → False)
    (hslash : ∀ d behind, c = '\\' → rest = d :: behind → False) (hbrace : c ≠ '{') :
    isPlain c := by
  refine isPlain_iff.2 ⟨hbrace, fun hc => ?_⟩
  cases rest with
  | nil => exact hlast hc rfl
  | cons d behind => exact hslash d behind hc rfl

/-- In front of a character that is no brace and no backslash, a plain run is cut off. -/
theorem split_cons_plain {c : Char} (h : isPlain c) (rest : List Char) :
    split (c :: rest) = run (c :: rest.takeWhile isPlain) :: split (rest.dropWhile isPlain) := by
  obtain ⟨hbrace, hslash⟩ := isPlain_iff.1 h
  exact split.eq_5 c rest (fun hc _ => hslash hc) (fun _ _ hc _ => hslash hc) hbrace

theorem split_run_append {text rest : List Char} (hne : text ≠ [])
    (hplain : ∀ c ∈ text, isPlain c) (hrest : ∀ c ∈ rest.head?, ¬ isPlain c) :
    split (text ++ rest) = run text :: split rest := by
  cases text with
  | nil => exact absurd rfl hne
  | cons c text =>
      have htext : ∀ d ∈ text, isPlain d := fun d hd => hplain d (List.mem_cons_of_mem _ hd)
      rw [List.cons_append, split_cons_plain (hplain c List.mem_cons_self),
        takeWhile_append_eq htext hrest, dropWhile_append_eq htext hrest]

theorem split_span_append {code : List Char} (h : '}' ∉ code) (rest : List Char) :
    split ('{' :: (code ++ '}' :: rest)) = span code :: split rest := by
  rw [split]
  split
  · rename_i hclose
    rw [closing?_eq_some_iff.2 ⟨rfl, h⟩] at hclose
    cases hclose
    rfl
  · rename_i hclose
    exact absurd (by simp) (closing?_eq_none_iff.1 hclose)

theorem split_openSpan {code : List Char} (h : '}' ∉ code) :
    split ('{' :: code) = [openSpan code] := by
  rw [split]
  split
  · rename_i hclose
    rw [closing?_eq_none_iff.2 h] at hclose
    cases hclose
  · rfl

/-! ## The cut is right -/

/-- A plain run is cut off only where the text starts with a plain character. -/
theorem isPlain_of_isRun {t : List Char} {s : Segment} (hs : s ∈ (split t).head?)
    (hrun : s.isRun) : ∃ c ∈ t.head?, isPlain c := by
  revert hs
  fun_cases split t with
  | case1 => intro hs; exact absurd hs (by simp)
  | case2 => rintro ⟨⟩; exact absurd hrun (by decide)
  | case3 c rest => rintro ⟨⟩; exact absurd hrun (by simp [isRun])
  | case4 rest code behind h => rintro ⟨⟩; exact absurd hrun (by simp [isRun])
  | case5 rest h => rintro ⟨⟩; exact absurd hrun (by simp [isRun])
  | case6 c rest hlast hslash hbrace =>
      intro _
      exact ⟨c, rfl, isPlain_of_split hlast hslash hbrace⟩

theorem segmented_split (t : List Char) : Segmented (split t) := by
  fun_induction split t with
  | case1 => trivial
  | case2 => exact ⟨trivial, fun _ => rfl, by simp [isRun], trivial⟩
  | case3 c rest ih => exact ⟨trivial, by simp [isFinal], by simp [isRun], ih⟩
  | case4 rest code behind h ih =>
      exact ⟨(closing?_eq_some_iff.1 h).2, by simp [isFinal], by simp [isRun], ih⟩
  | case5 rest h => exact ⟨closing?_eq_none_iff.1 h, fun _ => rfl, by simp [isRun], trivial⟩
  | case6 c rest hlast hslash hbrace ih =>
      refine ⟨⟨by simp, ?_⟩, by simp [isFinal], ?_, ih⟩
      · intro d hd
        rcases List.mem_cons.1 hd with rfl | hd
        · exact isPlain_of_split hlast hslash hbrace
        · exact mem_takeWhile hd
      · -- behind a run the text is over or goes on with a character that is not plain
        intro _ next hnext hrun
        obtain ⟨d, hd, hplain⟩ := isPlain_of_isRun hnext hrun
        exact head?_dropWhile hd hplain

/-! ## There is no other cut -/

/-- The text of segments that do not start with a plain run does not start with a plain
character. -/
theorem not_isPlain_head {segments : List Segment} (h : ∀ s ∈ segments.head?, ¬ s.isRun) :
    ∀ c ∈ (segments.flatMap text).head?, ¬ isPlain c := by
  intro c hc
  cases segments with
  | nil => exact absurd hc (by simp)
  | cons s rest =>
      have hs := h s rfl
      cases s with
      | run => exact absurd rfl hs
      | escape => cases hc; decide
      | loneBackslash => cases hc; decide
      | span => cases hc; decide
      | openSpan => cases hc; decide

/-- **Cutting undoes writing.**  Segments that are put together right are found again in their
text. -/
theorem split_flatMap_text {segments : List Segment} (h : Segmented segments) :
    split (segments.flatMap text) = segments := by
  induction segments with
  | nil => rw [List.flatMap_nil, split]
  | cons s rest ih =>
      obtain ⟨hs, hfinal, hrun, hrest⟩ := h
      rw [List.flatMap_cons]
      cases s with
      | run t =>
          rw [text, split_run_append hs.1 hs.2 (not_isPlain_head (hrun rfl)), ih hrest]
      | escape c => rw [text, List.cons_append, List.cons_append, split, List.nil_append, ih hrest]
      | loneBackslash => rw [hfinal rfl, text, List.flatMap_nil, List.append_nil, split]
      | span code =>
          have happ : (span code).text ++ rest.flatMap text
              = '{' :: (code ++ '}' :: rest.flatMap text) := by
            simp [text]
          rw [happ, split_span_append hs, ih hrest]
      | openSpan code => rw [hfinal rfl, text, List.flatMap_nil, List.append_nil, split_openSpan hs]

/-- A text is written by one sequence of segments that are put together right. -/
theorem segmented_iff {t : List Char} {segments : List Segment} :
    Segmented segments ∧ segments.flatMap text = t ↔ segments = split t := by
  constructor
  · rintro ⟨h, rfl⟩
    exact (split_flatMap_text h).symm
  · rintro rfl
    exact ⟨segmented_split t, text_split t⟩

end Segment

/-! ## The nodes of a template -/

/-- What segments are read as, one after the other. -/
inductive Segment.ReadAs : List Segment → List Node → Prop
  | nil : ReadAs [] []
  | run {text : List Char} {rest : List Segment} {nodes : List Node} :
      ReadAs rest nodes → ReadAs (.run text :: rest) (.literal text :: nodes)
  | escape {c : Char} {rest : List Segment} {nodes : List Node} :
      ReadAs rest nodes → ReadAs (.escape c :: rest) (.literal [c] :: nodes)
  | loneBackslash {rest : List Segment} {nodes : List Node} :
      ReadAs rest nodes → ReadAs (.loneBackslash :: rest) nodes
  | span {code : List Char} {p : Placeholder} {rest : List Segment} {nodes : List Node} :
      Placeholder.ofCode? code = some p → ReadAs rest nodes →
        ReadAs (.span code :: rest) (.placeholder p :: nodes)
  | faulty {code : List Char} {rest : List Segment} {nodes : List Node} :
      Placeholder.ofCode? code = none → ReadAs rest nodes →
        ReadAs (.span code :: rest) (.invalid :: nodes)
  | openSpan {code : List Char} {rest : List Segment} {nodes : List Node} :
      ReadAs rest nodes → ReadAs (.openSpan code :: rest) (.invalid :: nodes)

theorem Segment.node?_of_some {code : List Char} {p : Placeholder}
    (h : Placeholder.ofCode? code = some p) : (span code).node? = some (.placeholder p) := by
  rw [node?, h]
  rfl

theorem Segment.node?_of_none {code : List Char} (h : Placeholder.ofCode? code = none) :
    (span code).node? = some .invalid := by
  rw [node?, h]
  rfl

/-- Segments are read as their nodes and as nothing else. -/
theorem Segment.readAs_iff {segments : List Segment} {nodes : List Node} :
    ReadAs segments nodes ↔ nodes = segments.filterMap node? := by
  constructor
  · intro h
    induction h with
    | nil => rfl
    | run _ ih => rw [ih]; rfl
    | escape _ ih => rw [ih]; rfl
    | loneBackslash _ ih => rw [ih]; rfl
    | span hp _ ih => rw [ih, List.filterMap_cons_some (node?_of_some hp)]
    | faulty hp _ ih => rw [ih, List.filterMap_cons_some (node?_of_none hp)]
    | openSpan _ ih => rw [ih]; rfl
  · rintro rfl
    induction segments with
    | nil => exact .nil
    | cons s rest ih =>
        cases s with
        | run t => exact .run ih
        | escape c => exact .escape ih
        | loneBackslash => exact .loneBackslash ih
        | span code =>
            cases hp : Placeholder.ofCode? code with
            | none =>
                rw [List.filterMap_cons_some (node?_of_none hp)]
                exact .faulty hp ih
            | some p =>
                rw [List.filterMap_cons_some (node?_of_some hp)]
                exact .span hp ih
        | openSpan code => exact .openSpan ih

/-- **A template is read by its only segmentation.**  Exactly one sequence of segments that are put
together right has the template as its text, and the nodes of the template are what these segments
are read as, in order. -/
theorem Template.parse_segmentation (source : String) :
    ∃ segments : List Segment,
      (∀ other : List Segment,
        Segment.Segmented other ∧ other.flatMap Segment.text = source.toList ↔
          other = segments) ∧
      ∀ nodes : List Node,
        Segment.ReadAs segments nodes ↔ nodes = (Template.parse source).nodes :=
  ⟨Segment.split source.toList, fun _ => Segment.segmented_iff, fun _ => Segment.readAs_iff⟩

/-- An escaped brace opens nothing, and one that is never closed makes a node all the same. -/
example : Template.nodesOf ['a', '\\', '{', 'b', '}', '{', 'm']
    = [.literal ['a'], .literal ['{'], .literal ['b', '}'], .invalid] := by cbv

end Elapsed
