import Elapsed.Proofs.Template.Composition

/-!
# Protected texts

Any text can be part of a template, if a backslash stands in front of each character in it that
would start a span or an escape.  More backslashes do no harm.

*Templates that stand for a text.*  `Template.Quotes`: such a template is closed, is read as
literals that put together are the text, and there is nothing to report of it.  Two of them in a row
are one again (`Template.Quotes.append`): where plain runs meet at the border, the literals are
joined, and the text is the same.

*Character by character.*  A protected character stands for itself (`Template.quotes_escape`), and
so does one that needs no protection (`Template.quotes_plain`).  Whatever is put together from such
pieces stands for what its pieces stand for (`Template.quotes_flatMap`).

So a protected text is shown as it is, at every place of every template
(`Template.protect_stands`).
-/

namespace Elapsed.Template

/-- A text with a backslash in front of each character at one of the positions. -/
def protect (positions : Finset Nat) (text : List Char) : List Char :=
  text.zipIdx.flatMap fun (c, i) => if i ∈ positions then ['\\', c] else [c]

/-- Whether a template stands for a text. -/
structure Quotes (source : String) (text : List Char) : Prop where
  closed : Closed source
  nodes_eq : ∃ parts : List (List Char),
    (parse source).nodes = parts.map .literal ∧ parts.flatten = text
  diagnostics_eq : diagnostics source = []

/-! ## Pieces -/

theorem quotes_empty : Quotes "" [] where
  closed := closed_empty
  nodes_eq := by
    refine ⟨[], ?_, rfl⟩
    show (Segment.split "".toList).filterMap Segment.node? = _
    rw [split_empty]
    rfl
  diagnostics_eq := by
    rw [diagnostics, split_empty]
    rfl

/-- A template of one segment stands for the text of its literal. -/
theorem quotes_of_split {source : String} {s : Segment} {text : List Char}
    (hsplit : Segment.split source.toList = [s]) (hfinal : s.isFinal = false)
    (hnode : s.node? = some (.literal text)) (hsilent : s.diagnostic? 0 = none) :
    Quotes source text where
  closed := by
    intro s' hs'
    rw [hsplit, List.getLast?_singleton, Option.mem_some_iff] at hs'
    rw [← hs', hfinal]
    exact Bool.false_ne_true
  nodes_eq := by
    refine ⟨[text], ?_, List.append_nil text⟩
    show (Segment.split source.toList).filterMap Segment.node? = _
    rw [hsplit, List.filterMap_cons_some hnode]
    rfl
  diagnostics_eq := by
    rw [diagnostics, hsplit, Segment.diagnostics, hsilent]
    rfl

/-- A character behind a backslash stands for itself. -/
theorem quotes_escape (c : Char) : Quotes (String.ofList ['\\', c]) [c] := by
  refine quotes_of_split (s := .escape c) ?_ rfl rfl rfl
  rw [String.toList_ofList, Segment.split, Segment.split]

/-- A character that starts neither a span nor an escape stands for itself. -/
theorem quotes_plain {c : Char} (h : Segment.isPlain c) : Quotes (String.ofList [c]) [c] := by
  refine quotes_of_split (s := .run [c]) ?_ rfl rfl rfl
  rw [String.toList_ofList, Segment.split_cons_plain h]
  show [Segment.run [c]] ++ Segment.split [] = _
  rw [Segment.split, List.append_nil]

/-- So does every character with a backslash in front of it where it needs one. -/
theorem quotes_piece {c : Char} {marked : Prop} [Decidable marked]
    (h : c = '{' ∨ c = '\\' → marked) :
    Quotes (String.ofList (if marked then ['\\', c] else [c])) [c] := by
  by_cases hmarked : marked
  · rw [if_pos hmarked]
    exact quotes_escape c
  · rw [if_neg hmarked]
    exact quotes_plain (Segment.isPlain_iff.2 (not_or.1 fun hspecial => hmarked (h hspecial)))

/-! ## Pieces in a row -/

section Row

variable {a b : String} {x y : List Char}

/-- Two templates in a row that stand for texts stand for the texts in a row. -/
theorem Quotes.append (ha : Quotes a x) (hb : Quotes b y) : Quotes (a ++ b) (x ++ y) where
  closed := closed_append ha.closed hb.closed
  nodes_eq := by
    obtain ⟨parts, hparts, rfl⟩ := ha.nodes_eq
    obtain ⟨parts', hparts', rfl⟩ := hb.nodes_eq
    by_cases h : ∃ x y, Meet a b x y
    · obtain ⟨x, y, h⟩ := h
      obtain ⟨front, back, hfront, hback, hrow⟩ := nodes_of_meet h
      -- the last part of the first template and the first part of the second make one
      obtain ⟨init, last, rfl, rfl, hlast⟩ := List.map_eq_append_iff.1 (hparts.symm.trans hfront)
      obtain ⟨x', rfl, hx⟩ := List.map_eq_singleton_iff.1 hlast
      obtain ⟨y', rest, rfl, hy, rfl⟩ := List.map_eq_cons_iff.1 (hparts'.symm.trans hback)
      cases hx
      cases hy
      exact ⟨init ++ (x ++ y) :: rest, by rw [hrow, List.map_append, List.map_cons], by simp⟩
    · refine ⟨parts ++ parts', ?_, List.flatten_append⟩
      rw [nodes_of_not_meet ha.closed fun x y hm => h ⟨x, y, hm⟩, hparts, hparts', List.map_append]
  diagnostics_eq := by
    rw [diagnostics_append ha.closed, ha.diagnostics_eq, hb.diagnostics_eq]
    rfl

/-- A template that is put together from pieces stands for what the pieces stand for. -/
theorem quotes_flatMap {α : Type} {piece text : α → List Char} {items : List α}
    (h : ∀ a ∈ items, Quotes (String.ofList (piece a)) (text a)) :
    Quotes (String.ofList (items.flatMap piece)) (items.flatMap text) := by
  induction items with
  | nil => exact quotes_empty
  | cons a items ih =>
      rw [List.flatMap_cons, List.flatMap_cons, String.ofList_append]
      exact (h a List.mem_cons_self).append (ih fun a' ha' => h a' (List.mem_cons_of_mem a ha'))

theorem quotes_of_isPlain {text : List Char} (h : ∀ c ∈ text, Segment.isPlain c = true) :
    Quotes (String.ofList text) text := by
  have hall := quotes_flatMap fun c hc => quotes_plain (h c hc)
  rwa [List.flatMap_singleton'] at hall

end Row

/-! ## Showing -/

variable {a source : String} {text : List Char}

/-- A template that stands for a text is shown as this text. -/
theorem Quotes.format_eq (h : Quotes source text) (l : Localizer) (seconds : UInt64) :
    l.format seconds source = .ok (String.ofList text) := by
  obtain ⟨parts, hparts, rfl⟩ := h.nodes_eq
  have hall : Node.renderAll ⟨seconds⟩ l (parts.map .literal) = .ok parts.flatten := by
    rw [Node.renderAll_eq_concatM]
    refine concatM_eq_ok_iff.2 ⟨parts, ?_, rfl⟩
    rw [List.forall₂_map_left_iff, List.forall₂_same]
    exact fun part _ => rfl
  rw [Localizer.format, render, hparts, hall]
  rfl

/-- Between a closed template and any other one, too, it is shown as this text. -/
theorem Quotes.format_between (h : Quotes source text) (ha : Closed a) (b : String)
    (l : Localizer) (seconds : UInt64) : l.format seconds (a ++ source ++ b)
      = do return (← l.format seconds a) ++ String.ofList text ++ (← l.format seconds b) := by
  rw [Template.format_between ha h.closed, h.format_eq]
  rfl

/-- A text stands for itself if what starts a span or an escape in it is protected. -/
theorem quotes_protect {positions : Finset Nat}
    (h : ∀ (i : Nat) (c : Char), text[i]? = some c → c = '{' ∨ c = '\\' → i ∈ positions) :
    Quotes (String.ofList (protect positions text)) text := by
  have hpieces : ∀ e ∈ text.zipIdx,
      Quotes (String.ofList (if e.2 ∈ positions then ['\\', e.1] else [e.1])) [e.1] :=
    fun e he => quotes_piece (h e.2 e.1 (List.mem_zipIdx_iff_getElem?.1 he))
  have hall := quotes_flatMap hpieces
  rwa [← List.map_eq_flatMap, List.zipIdx_map_fst] at hall

/-- **A protected text is shown as it is, at every place.**  If a backslash is put in front of some
characters of a text, among them each opening brace and each backslash, the result is read as
literals that put together are the text, and there is nothing to report of it.  Between a closed
template and any other one it is shown as the text, between what is shown of these. -/
theorem protect_stands (text : String) (positions : Finset Nat)
    (h : ∀ (i : Nat) (c : Char),
      text.toList[i]? = some c → c = '{' ∨ c = '\\' → i ∈ positions) :
    let shown := String.ofList (protect positions text.toList)
    (∃ parts : List (List Char),
      (parse shown).nodes = parts.map .literal ∧ parts.flatten = text.toList) ∧
    diagnostics shown = [] ∧
    ∀ a b : String, Closed a → ∀ (l : Localizer) (seconds : UInt64),
      l.format seconds (a ++ shown ++ b)
        = (do return (← l.format seconds a) ++ text ++ (← l.format seconds b)) ∧
      ((∀ p ∈ (parse a).placeholders ++ (parse b).placeholders,
          p.hidden ⟨seconds⟩ = false → p.digits ≤ 65535) →
        ∃ x y, l.format seconds a = .ok x ∧ l.format seconds b = .ok y ∧
          l.format seconds (a ++ shown ++ b) = .ok (x ++ text ++ y)) := by
  intro shown
  have hquotes : Quotes shown text.toList := quotes_protect h
  refine ⟨hquotes.nodes_eq, hquotes.diagnostics_eq, fun a b ha l seconds => ?_⟩
  have hformat := hquotes.format_between ha b l seconds
  rw [String.ofList_toList] at hformat
  refine ⟨hformat, fun hwidth => ?_⟩
  obtain ⟨x, y, hx, hy, -⟩ := (composes ha b).format_ok l seconds hwidth
  refine ⟨x, y, hx, hy, ?_⟩
  rw [hformat, hx, hy]
  rfl

/-- A brace, a backslash behind a character of two bytes, and one backslash more than there need be;
behind a placeholder and in front of a brace that is never closed. -/
theorem protect_stands_specials :
    let text := String.ofList ['a', '{', 'ä', '\\', '}']
    let positions : Finset Nat := {1, 2, 3}
    let shown := String.ofList (protect positions text.toList)
    let brace := String.ofList ['{']
    (∀ (i : Nat) (c : Char),
      text.toList[i]? = some c → c = '{' ∨ c = '\\' → i ∈ positions) ∧
    shown = String.ofList ['a', '\\', '{', '\\', 'ä', '\\', '\\', '}'] ∧
    diagnostics shown = [] ∧ Closed (spanOf ['D']) ∧
    ∀ l : Localizer, ∃ x y,
      l.format 90000 (spanOf ['D'] ++ shown ++ brace) = .ok (x ++ text ++ y) := by
  intro text positions shown brace
  have htext : text.toList = ['a', '{', 'ä', '\\', '}'] := String.toList_ofList
  have hpositions : ∀ (i : Nat) (c : Char),
      text.toList[i]? = some c → c = '{' ∨ c = '\\' → i ∈ positions := by
    rw [htext]
    intro i c hc hspecial
    match i with
    | 0 =>
        cases hc
        exact absurd hspecial (by decide)
    | 1 | 2 | 3 => simp [positions]
    | 4 =>
        cases hc
        exact absurd hspecial (by decide)
    | i + 5 => cases hc
  have hclosed : Closed (spanOf ['D']) := closed_spanOf (by decide)
  have hplaceholders : (parse (spanOf ['D'])).placeholders ++ (parse brace).placeholders
      = [⟨.fixed .day, true, 1, .bare, false, []⟩] := by decide +kernel
  obtain ⟨-, hsilent, hshown⟩ := protect_stands text positions hpositions
  refine ⟨hpositions, by decide +kernel, hsilent, hclosed, fun l => ?_⟩
  obtain ⟨x, y, -, -, hformat⟩ := (hshown (spanOf ['D']) brace hclosed l 90000).2 (by
    rw [hplaceholders]
    intro p hp _
    rw [List.mem_singleton.1 hp]
    decide)
  exact ⟨x, y, hformat⟩

end Elapsed.Template
