import Elapsed.Template.Placeholder

/-!
# Segments of a template

A template is read from left to right as a sequence of segments: plain runs, escaped characters,
spans in braces, and two ways to end badly. `Segment.split` cuts a text into segments,
`Segment.text` gives back the characters of one, and `Segment.Segmented` says which sequences are
cut right.
-/

namespace Elapsed

/-- A piece of a template. -/
inductive Segment where
  /-- Text without `{` and `\`. -/
  | run (text : List Char)
  /-- A backslash and the character it protects. -/
  | escape (c : Char)
  /-- A backslash at the very end. -/
  | loneBackslash
  /-- A brace, a code without `}`, and the closing brace. -/
  | span (code : List Char)
  /-- A brace that is never closed, and the rest of the text. -/
  | openSpan (code : List Char)
  deriving DecidableEq

namespace Segment

/-- The characters of a segment as they stand in the template. -/
def text : Segment → List Char
  | run text => text
  | escape c => ['\\', c]
  | loneBackslash => ['\\']
  | span code => '{' :: code ++ ['}']
  | openSpan code => '{' :: code

/-- Whether a character starts neither a span nor an escape. -/
def isPlain (c : Char) : Bool :=
  c != '{' && c != '\\'

/-- Whether a segment is put together right. -/
def WellFormed : Segment → Prop
  | run text => text ≠ [] ∧ ∀ c ∈ text, isPlain c
  | span code => '}' ∉ code
  | openSpan code => '}' ∉ code
  | escape _ => True
  | loneBackslash => True

/-- Whether a segment is a plain run. -/
def isRun : Segment → Bool
  | run _ => true
  | _ => false

/-- Whether nothing can follow a segment. -/
def isFinal : Segment → Bool
  | loneBackslash => true
  | openSpan _ => true
  | _ => false

/-- Whether segments are those of a template: each is put together right, a final one stands at the
end, and no plain run directly follows another. -/
def Segmented : List Segment → Prop
  | [] => True
  | s :: rest =>
    s.WellFormed ∧ (s.isFinal → rest = []) ∧ (s.isRun → ∀ next ∈ rest.head?, ¬ next.isRun)
      ∧ Segmented rest

/-- The text up to the first closing brace, and what is behind that brace; nothing if there is no
closing brace. -/
def closing? : List Char → Option (List Char × List Char)
  | [] => none
  | '}' :: rest => some ([], rest)
  | c :: rest => (closing? rest).map fun (code, behind) => (c :: code, behind)

theorem closing?_eq_some_iff {text code rest : List Char} :
    closing? text = some (code, rest) ↔ text = code ++ '}' :: rest ∧ '}' ∉ code := by
  induction text generalizing code with
  | nil => simp [closing?]
  | cons c cs ih =>
    by_cases hc : c = '}'
    · subst hc
      cases code <;> simp +contextual [closing?, eq_comm]
    · rw [closing?]
      · cases code with
        | nil => simp [hc]
        | cons d ds =>
          simp only [Option.map_eq_some_iff, Prod.exists, Prod.mk.injEq, List.cons.injEq,
            List.mem_cons, not_or, List.cons_append]
          constructor
          · rintro ⟨code, behind, h, ⟨rfl, rfl⟩, rfl⟩
            exact ⟨⟨rfl, (ih.1 h).1⟩, Ne.symm hc, (ih.1 h).2⟩
          · rintro ⟨⟨rfl, h⟩, -, h'⟩
            exact ⟨ds, rest, ih.2 ⟨h, h'⟩, ⟨rfl, rfl⟩, rfl⟩
      · exact hc

theorem closing?_eq_none_iff {text : List Char} : closing? text = none ↔ '}' ∉ text := by
  induction text with
  | nil => simp [closing?]
  | cons c cs ih =>
    by_cases hc : c = '}'
    · subst hc
      simp [closing?]
    · rw [closing?]
      · simp [ih, Ne.symm hc]
      · exact hc

theorem length_of_closing? {text code rest : List Char} (h : closing? text = some (code, rest)) :
    rest.length < text.length := by
  rw [(closing?_eq_some_iff.1 h).1]
  simp only [List.length_append, List.length_cons]
  omega

/-- The segments of a template, from left to right. -/
def split (text : List Char) : List Segment :=
  match text with
  | [] => []
  | ['\\'] => [loneBackslash]
  | '\\' :: c :: rest => escape c :: split rest
  | '{' :: rest =>
    match _h : closing? rest with
    | some (code, behind) => span code :: split behind
    | none => [openSpan rest]
  | c :: rest => run (c :: rest.takeWhile isPlain) :: split (rest.dropWhile isPlain)
termination_by text.length
decreasing_by
  · simp only [List.length_cons]; omega
  · have := length_of_closing? _h
    simp only [List.length_cons]; omega
  · have := (List.dropWhile_suffix (l := rest) isPlain).length_le
    simp only [List.length_cons]; omega

/-- Nothing of a template is lost, and nothing is read twice. -/
theorem text_split (t : List Char) : (split t).flatMap text = t := by
  fun_induction split t with
  | case1 => rfl
  | case2 => rfl
  | case3 c rest ih => simp [text, ih]
  | case4 rest code behind h ih => simp [text, ih, (closing?_eq_some_iff.1 h).1]
  | case5 rest h => simp [text]
  | case6 c rest h1 h2 h3 ih =>
    simp only [List.flatMap_cons, text, ih, List.cons_append, List.takeWhile_append_dropWhile]

end Segment

end Elapsed
