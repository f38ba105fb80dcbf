import Elapsed.Proofs.Computation
import Elapsed.Template.Render

/-!
# What is shown, and what is asked of a language

Nodes are shown one after the other (`Node.renderAll_append`), and nothing but a number that is
shown and too wide stands in the way (`Localizer.exists_format_eq_ok`).

A renderer is handed a language and could ask it anything.  What it does ask is fixed before it
knows the language.

*Pieces.*  A template and a duration make a list of pieces (`Node.piecesAll`): texts that are the
same in every language, and questions (`Question`) for an abbreviation or for the word that fits a
number.  `Node.renderAll_eq`: the text in a language is these pieces, one after the other, with the
answers of the language in the place of the questions.  Digits, padding, what is hidden, literals,
marks of invalid nodes, optional texts and the failure of a padding are all in the pieces.

*Questions.*  `Node.questions_piecesAll`: there is one question for each placeholder that is shown
and wants an abbreviation or a word, about its unit in this duration and the number it shows.

So two languages that give the same answers to these questions show the same text
(`Localizer.format_congr`).
-/

namespace Elapsed

/-! ## Placeholders among nodes -/

/-- The placeholder of a node. -/
def Node.placeholder? : Node → Option Placeholder
  | .placeholder p => some p
  | _ => none

theorem Template.placeholders_eq (t : Template) :
    t.placeholders = t.nodes.filterMap Node.placeholder? := by
  refine congrArg (List.filterMap · t.nodes) (funext fun n => ?_)
  cases n with
  | literal text => rfl
  | placeholder p => rfl
  | invalid => rfl

theorem Template.mem_placeholders_iff {t : Template} {p : Placeholder} :
    p ∈ t.placeholders ↔ .placeholder p ∈ t.nodes := by
  rw [placeholders_eq, List.mem_filterMap]
  constructor
  · rintro ⟨n, hn, hp⟩
    cases n with
    | literal text => cases hp
    | placeholder q =>
        cases hp
        exact hn
    | invalid => cases hp
  · exact fun h => ⟨_, h, rfl⟩

/-! ## Texts in a row -/

namespace Node

variable {b : Breakdown} {l : Localizer}

theorem renderAll_eq_concatM (nodes : List Node) :
    renderAll b l nodes = concatM (Node.render b l) nodes := rfl

/-- Nodes in a row are shown in a row. -/
theorem renderAll_append (front back : List Node) :
    renderAll b l (front ++ back)
      = do return (← renderAll b l front) ++ (← renderAll b l back) :=
  concatM_append front back

/-- Nobody who reads the text can tell two literals from one. -/
theorem renderAll_literal_append (x y : List Char) (rest : List Node) :
    renderAll b l (.literal (x ++ y) :: rest)
      = renderAll b l (.literal x :: .literal y :: rest) := by
  simp only [renderAll_eq_concatM, concatM_cons, render]
  cases concatM (Node.render b l) rest with
  | error e => rfl
  | ok text => exact congrArg Except.ok (List.append_assoc x y text)

end Node

/-- A placeholder that is shown, and not too wide, has its number, its suffix and its tail. -/
theorem Placeholder.render_of_shown {p : Placeholder} {b : Breakdown} (l : Localizer)
    (hshown : p.hidden b = false) (hwidth : p.digits ≤ maxWidth) :
    p.render b l = .ok (Decimal.pad p.digits (p.value b).toNat
      ++ p.suffix.text l (b.resolve p.unit) (p.value b) ++ p.tail) := by
  rw [render, hshown, writePadded, if_pos hwidth]
  rfl

theorem Placeholder.exists_render_eq_ok {p : Placeholder} {b : Breakdown} {l : Localizer}
    (h : p.hidden b = false → p.digits ≤ maxWidth) : ∃ text, p.render b l = .ok text := by
  cases hidden : p.hidden b with
  | true => exact ⟨[], by rw [render, if_pos hidden]⟩
  | false => exact ⟨_, render_of_shown l hidden (h hidden)⟩

/-- A template is shown if no placeholder that is shown asks for too wide a number. -/
theorem Localizer.exists_format_eq_ok {l : Localizer} {seconds : UInt64} {template : String}
    (h : ∀ p ∈ (Template.parse template).placeholders,
      p.hidden ⟨seconds⟩ = false → p.digits ≤ maxWidth) :
    ∃ text, l.format seconds template = .ok text := by
  have hnodes : ∀ n ∈ (Template.parse template).nodes,
      ∃ text, n.render ⟨seconds⟩ l = .ok text := by
    intro n hn
    cases n with
    | literal text => exact ⟨text, rfl⟩
    | placeholder p =>
        exact Placeholder.exists_render_eq_ok (h p (Template.mem_placeholders_iff.2 hn))
    | invalid => exact ⟨_, rfl⟩
  obtain ⟨text, htext⟩ := exists_concatM_eq_ok hnodes
  refine ⟨String.ofList text, ?_⟩
  rw [format, Template.render, Node.renderAll_eq_concatM, htext]
  rfl

/-! ## Pieces -/

/-- Something to ask of a language. -/
inductive Question where
  /-- The short mark of a unit. -/
  | abbreviation (u : TimeUnit)
  /-- The word of a unit that fits a number. -/
  | word (u : TimeUnit) (value : UInt64)
  deriving DecidableEq

/-- What a language answers. -/
def Localizer.answer (l : Localizer) : Question → List Char
  | .abbreviation u => (l.abbreviation u).toList
  | .word u value => (l.word u value).toList

/-- A piece of a text in no language yet. -/
inductive Piece where
  /-- A text that is the same in every language. -/
  | fixed (text : List Char)
  /-- A question that each language answers in its own way. -/
  | asked (q : Question)
  deriving DecidableEq

namespace Piece

/-- The text of a piece in a language. -/
def text (l : Localizer) : Piece → List Char
  | fixed text => text
  | asked q => l.answer q

/-- The question of a piece. -/
def question? : Piece → Option Question
  | fixed _ => none
  | asked q => some q

end Piece

/-- What a suffix asks about a unit and a number. -/
def Suffix.question? (u : TimeUnit) (value : UInt64) : Suffix → Option Question
  | .bare => none
  | .abbreviation => some (.abbreviation u)
  | .word => some (.word u value)

namespace Placeholder

/-- What a placeholder asks in a duration: nothing if it is hidden. -/
def question? (p : Placeholder) (b : Breakdown) : Option Question :=
  if p.hidden b then none else p.suffix.question? (b.resolve p.unit) (p.value b)

/-- The pieces of a placeholder: its number, what it asks, and its optional text. -/
def pieces (p : Placeholder) (b : Breakdown) : Except WidthError (List Piece) :=
  if p.hidden b then .ok []
  else do
    let number ← writePadded (p.value b) p.digits
    return .fixed number :: (p.question? b).toList.map .asked ++ [.fixed p.tail]

end Placeholder

namespace Node

/-- The pieces of a node. -/
def pieces (b : Breakdown) : Node → Except WidthError (List Piece)
  | .literal text => .ok [.fixed text]
  | .placeholder p => p.pieces b
  | .invalid => .ok [.fixed ['?']]

/-- The pieces of nodes, one after the other. -/
def piecesAll (b : Breakdown) (nodes : List Node) : Except WidthError (List Piece) :=
  concatM (Node.pieces b) nodes

end Node

/-! ## A text is its pieces -/

theorem Suffix.text_eq (l : Localizer) (u : TimeUnit) (value : UInt64) (x : Suffix) :
    x.text l u value = (x.question? u value).elim [] l.answer := by
  cases x with
  | bare => rfl
  | abbreviation => rfl
  | word => rfl

theorem Placeholder.render_eq (p : Placeholder) (b : Breakdown) (l : Localizer) :
    p.render b l = (p.pieces b).map (·.flatMap (Piece.text l)) := by
  unfold render pieces
  cases hidden : p.hidden b with
  | true => rfl
  | false =>
      have hquestion : p.question? b = p.suffix.question? (b.resolve p.unit) (p.value b) := by
        rw [question?, hidden]
        rfl
      rw [hquestion, Suffix.text_eq]
      cases writePadded (p.value b) p.digits with
      | error e => rfl
      | ok number =>
          cases p.suffix.question? (b.resolve p.unit) (p.value b) with
          | none => simp [Except.map, bind, Except.bind, pure, Except.pure, Piece.text]
          | some q => simp [Except.map, bind, Except.bind, pure, Except.pure, Piece.text]

theorem Node.render_eq (b : Breakdown) (l : Localizer) (n : Node) :
    n.render b l = (n.pieces b).map (·.flatMap (Piece.text l)) := by
  cases n with
  | literal text => simp [render, pieces, Except.map, Piece.text]
  | placeholder p => exact p.render_eq b l
  | invalid => rfl

/-- **A text is its pieces**, with the answers of a language in the place of the questions. -/
theorem Node.renderAll_eq (b : Breakdown) (l : Localizer) (nodes : List Node) :
    renderAll b l nodes = (piecesAll b nodes).map (·.flatMap (Piece.text l)) :=
  concatM_flatMap (render_eq b l) nodes

/-! ## Which questions there are -/

theorem Placeholder.questions_pieces {p : Placeholder} {b : Breakdown} {pieces : List Piece}
    (h : p.pieces b = .ok pieces) : pieces.filterMap Piece.question? = (p.question? b).toList := by
  unfold Placeholder.pieces at h
  split at h
  · rename_i hidden
    cases h
    rw [question?, if_pos hidden]
    rfl
  · obtain ⟨number, -, h⟩ := bind_eq_ok_iff.1 h
    cases h
    cases p.question? b with
    | none => rfl
    | some q => rfl

theorem Node.questions_pieces {n : Node} {b : Breakdown} {pieces : List Piece}
    (h : n.pieces b = .ok pieces) :
    pieces.filterMap Piece.question? = (n.placeholder?.bind (·.question? b)).toList := by
  cases n with
  | literal text =>
      cases h
      rfl
  | placeholder p => exact Placeholder.questions_pieces h
  | invalid =>
      cases h
      rfl

/-- There is a question for each placeholder that is shown and wants one, and no other. -/
theorem Node.questions_piecesAll {b : Breakdown} {nodes : List Node} {pieces : List Piece}
    (h : piecesAll b nodes = .ok pieces) :
    pieces.filterMap Piece.question?
      = (nodes.filterMap Node.placeholder?).filterMap (·.question? b) := by
  rw [List.filterMap_filterMap]
  induction nodes generalizing pieces with
  | nil =>
      cases h
      rfl
  | cons n rest ih =>
      rw [piecesAll, concatM_cons] at h
      obtain ⟨own, hown, h⟩ := bind_eq_ok_iff.1 h
      obtain ⟨others, hothers, h⟩ := bind_eq_ok_iff.1 h
      cases h
      rw [List.filterMap_append, questions_pieces hown, ih hothers, List.filterMap_cons]
      cases n.placeholder?.bind (·.question? b) with
      | none => rfl
      | some q => rfl

/-! ## Two languages -/

/-- Whether two languages answer alike what a placeholder asks in a duration: nothing if it is
hidden; else about its unit, and about the number it shows. -/
def Placeholder.Alike (b : Breakdown) (l₁ l₂ : Localizer) (p : Placeholder) : Prop :=
  p.hidden b = false →
    (p.suffix = .abbreviation →
      l₁.abbreviation (b.resolve p.unit) = l₂.abbreviation (b.resolve p.unit)) ∧
    (p.suffix = .word →
      l₁.word (b.resolve p.unit) (b.count (b.resolve p.unit) p.cumulative)
        = l₂.word (b.resolve p.unit) (b.count (b.resolve p.unit) p.cumulative))

theorem Placeholder.Alike.answer_eq {p : Placeholder} {b : Breakdown} {l₁ l₂ : Localizer}
    (h : p.Alike b l₁ l₂) {q : Question} (hq : p.question? b = some q) :
    l₁.answer q = l₂.answer q := by
  unfold question? at hq
  cases hidden : p.hidden b with
  | true =>
      rw [hidden] at hq
      cases hq
  | false =>
      obtain ⟨habbreviation, hword⟩ := h hidden
      rw [hidden] at hq
      cases hx : p.suffix with
      | bare =>
          rw [hx] at hq
          cases hq
      | abbreviation =>
          rw [hx] at hq
          cases hq
          exact congrArg String.toList (habbreviation hx)
      | word =>
          rw [hx] at hq
          cases hq
          exact congrArg String.toList (hword hx)

theorem Node.renderAll_congr {b : Breakdown} {l₁ l₂ : Localizer} {nodes : List Node}
    (h : ∀ p ∈ nodes.filterMap Node.placeholder?, p.Alike b l₁ l₂) :
    renderAll b l₁ nodes = renderAll b l₂ nodes := by
  rw [renderAll_eq, renderAll_eq]
  cases hpieces : piecesAll b nodes with
  | error e => rfl
  | ok pieces =>
      refine congrArg Except.ok (List.flatMap_congr fun piece hpiece => ?_)
      cases piece with
      | fixed text => rfl
      | asked q =>
          -- the question is that of a placeholder, for which the two languages are alike
          have hq : q ∈ pieces.filterMap Piece.question? :=
            List.mem_filterMap.2 ⟨_, hpiece, rfl⟩
          rw [questions_piecesAll hpieces, List.mem_filterMap] at hq
          obtain ⟨p, hp, hq⟩ := hq
          exact (h p hp).answer_eq hq

/-- **A language supplies the words it is asked for and nothing else.**  Two languages that answer
alike what the shown placeholders of a template ask show the same text; without abbreviations and
words any two languages do.  In any language the text is made of the same pieces, with the answers
in the place of the questions, and the questions are those of the shown placeholders. -/
theorem Localizer.format_congr (seconds : UInt64) (template : String) :
    (∀ l₁ l₂ : Localizer,
      (∀ p ∈ (Template.parse template).placeholders, p.Alike ⟨seconds⟩ l₁ l₂) →
        l₁.format seconds template = l₂.format seconds template) ∧
    ((∀ p ∈ (Template.parse template).placeholders, p.suffix = .bare) →
      ∀ l₁ l₂ : Localizer, l₁.format seconds template = l₂.format seconds template) ∧
    (∀ l : Localizer, l.format seconds template
      = (Node.piecesAll ⟨seconds⟩ (Template.parse template).nodes).map
          fun pieces => String.ofList (pieces.flatMap (Piece.text l))) ∧
    (∀ pieces, Node.piecesAll ⟨seconds⟩ (Template.parse template).nodes = .ok pieces →
      pieces.filterMap Piece.question?
        = (Template.parse template).placeholders.filterMap (·.question? ⟨seconds⟩)) := by
  have hcongr (l₁ l₂ : Localizer)
      (h : ∀ p ∈ (Template.parse template).placeholders, p.Alike ⟨seconds⟩ l₁ l₂) :
      l₁.format seconds template = l₂.format seconds template := by
    rw [Template.placeholders_eq] at h
    rw [format, format, Template.render, Template.render, Node.renderAll_congr h]
  refine ⟨hcongr, fun hbare l₁ l₂ => hcongr l₁ l₂ fun p hp _ => ?_, fun l => ?_, fun pieces h => ?_⟩
  · rw [hbare p hp]
    exact ⟨fun h => absurd h (by decide), fun h => absurd h (by decide)⟩
  · rw [format, Template.render, Node.renderAll_eq]
    cases Node.piecesAll ⟨seconds⟩ (Template.parse template).nodes with
    | error e => rfl
    | ok pieces => rfl
  · rw [Template.placeholders_eq]
    exact Node.questions_piecesAll h

/-- Two languages that differ in every abbreviation, and in every word but that for the number that
is shown: thirty minutes, what is left of ninety.  The days are not shown. -/
theorem Localizer.format_congr_remainder :
    let template := String.ofList
      ['{', 'm', 'i', 'n', 'u', 't', 'e', 's', '}', '{', 'D', 'a', 'y', 's', '?', '}']
    let l₁ : Localizer := ⟨fun _ => "a", fun _ value => if value = 30 then " x" else " y"⟩
    let l₂ : Localizer := ⟨fun _ => "b", fun _ _ => " x"⟩
    (∀ p ∈ (Template.parse template).placeholders, p.Alike ⟨5400⟩ l₁ l₂) ∧
      l₁.format 5400 template = l₂.format 5400 template := by
  intro template l₁ l₂
  have hplaceholders : (Template.parse template).placeholders
      = [⟨.fixed .minute, false, 1, .word, false, []⟩, ⟨.fixed .day, true, 1, .word, true, []⟩] := by
    decide +kernel
  have halike : ∀ p ∈ (Template.parse template).placeholders, p.Alike ⟨5400⟩ l₁ l₂ := by
    rw [hplaceholders]
    intro p hp
    rcases List.mem_cons.1 hp with rfl | hp
    · exact fun _ => ⟨fun h => absurd h (by decide), fun _ => by decide⟩
    · rw [List.mem_singleton.1 hp]
      exact fun hidden => absurd hidden (by decide)
  exact ⟨halike, (format_congr 5400 template).1 l₁ l₂ halike⟩

end Elapsed
