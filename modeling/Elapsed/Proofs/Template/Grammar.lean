import Mathlib
import Elapsed.Template.Placeholder

/-!
# The grammar of placeholder codes

`Placeholder.ofCode?` reads the text between two braces.  This file says on its own what such a
text looks like, as four parts put behind one another (`Placeholder.Spelling`): a letter, repeated
so often, a body that tells the suffix, and a tail that starts with a question mark.

*Reading is exact.*  `Spelling.Cut.ofCode?_eq_some_iff`: a code cut into its parts is read as a
placeholder exactly if the parts denote it (`Spelling.Denotes`).  Every code that starts with some
letter can be cut (`exists_cut`), so `ofCode?` accepts the grammar and nothing else.

*Reading is unambiguous.*  `Spelling.Cut.eq_of_text_eq`: a code can be cut in one way only.  This
rests on the words of the units: none of them goes on with the letter it starts with
(`Suffix.Spelled.head?_ne`), so a run of letters never eats into a word, and none holds a question
mark, so the tail starts at the first one.
-/

namespace Elapsed

/-! ## Cutting a text -/

section Cutting

variable {α : Type} {p : α → Bool} {front back : List α}

/-- What is taken while a condition holds is all that comes before something that breaks it. -/
theorem takeWhile_append_eq (hf : ∀ c ∈ front, p c) (hb : ∀ c ∈ back.head?, ¬ p c) :
    (front ++ back).takeWhile p = front := by
  rw [List.takeWhile_append_of_pos hf]
  cases back with
  | nil => simp
  | cons c back => rw [List.takeWhile_cons_of_neg (hb c rfl), List.append_nil]

theorem dropWhile_append_eq (hf : ∀ c ∈ front, p c) (hb : ∀ c ∈ back.head?, ¬ p c) :
    (front ++ back).dropWhile p = back := by
  rw [List.dropWhile_append_of_pos hf]
  cases back with
  | nil => rfl
  | cons c back => rw [List.dropWhile_cons_of_neg (hb c rfl)]

theorem mem_takeWhile {c : α} {text : List α} (h : c ∈ text.takeWhile p) : p c :=
  List.all_eq_true.1 List.all_takeWhile c h

theorem head?_dropWhile {c : α} {text : List α} (h : c ∈ (text.dropWhile p).head?) : ¬ p c := by
  have hnot := List.head?_dropWhile_not p text
  rw [Option.mem_def.1 h] at hnot
  simpa using hnot

end Cutting

/-! ## Letter case -/

/-- The characters whose lower case is a given one are that character and its upper case. -/
theorem toLower_eq_iff {c l : Char} (h : ¬ l.isUpper) :
    c.toLower = l ↔ c = l ∨ c = l.toUpper := by
  constructor
  · rintro rfl
    by_cases hc : c.isUpper
    · right
      rw [Char.toUpper_toLower_eq_toUpper,
        Char.toUpper_eq_of_not_isLower (Char.not_isLower_of_isUpper hc)]
    · left
      rw [Char.toLower_eq_of_not_isUpper hc]
  · rintro (rfl | rfl)
    · exact Char.toLower_eq_of_not_isUpper h
    · rw [Char.toLower_toUpper_eq_toLower, Char.toLower_eq_of_not_isUpper h]

theorem mem_lowerCase {c : Char} {text : List Char} (h : c ∈ text) :
    c.toLower ∈ lowerCase text :=
  List.mem_map_of_mem h

theorem head?_lowerCase (text : List Char) :
    (lowerCase text).head? = text.head?.map Char.toLower :=
  List.head?_map

/-! ## Letters of selectors -/

theorem TimeUnit.ofLetter?_eq_some_iff {c : Char} {u : TimeUnit} :
    TimeUnit.ofLetter? c = some u ↔ u.letter = c.toLower := by
  constructor
  · intro h
    simpa using List.find?_some h
  · intro h
    rw [TimeUnit.ofLetter?, ← h]
    cases u <;> rfl

namespace Selector

theorem letter_not_isUpper (s : Selector) : ¬ s.letter.isUpper := by
  rcases s with (_ | _ | _ | _ | _) | _ <;> decide

theorem isUpper_toUpper_letter (s : Selector) : s.letter.toUpper.isUpper := by
  rcases s with (_ | _ | _ | _ | _) | _ <;> decide

/-- A character selects something exactly if it is its letter in either case. -/
theorem ofLetter?_eq_some_iff {c : Char} {s : Selector} :
    ofLetter? c = some s ↔ c.toLower = s.letter := by
  unfold ofLetter?
  by_cases hg : c.toLower = 'g'
  · rw [if_pos hg, hg]
    rcases s with (_ | _ | _ | _ | _) | _ <;> decide
  · rw [if_neg hg]
    cases s with
    | fixed u =>
        simp only [Option.map_eq_some_iff, fixed.injEq, exists_eq_right, letter]
        rw [TimeUnit.ofLetter?_eq_some_iff, eq_comm]
    | greatest => simpa [letter] using hg

end Selector

/-! ## Bodies -/

/-- The texts that tell a suffix behind the letters of a selector: nothing, a dot, or the rest of
the selector's name in any ASCII case, with or without an `s` behind it. -/
inductive Suffix.Spelled (s : Selector) : Suffix → List Char → Prop
  | bare : Spelled s .bare []
  | abbreviation : Spelled s .abbreviation ['.']
  | singular {word : List Char} : lowerCase word = lowerCase s.stem → Spelled s .word word
  | plural {word : List Char} {c : Char} : lowerCase word = lowerCase s.stem →
      (c = 's' ∨ c = 'S') → Spelled s .word (word ++ [c])

namespace Selector

theorem lowerCase_stem (s : Selector) : lowerCase s.stem = s.stem := by
  rcases s with (_ | _ | _ | _ | _) | _ <;> decide

/-- The bodies of a selector's codes, in lower case. -/
def bodies (s : Selector) : List (List Char) :=
  [[], ['.'], s.stem, s.stem ++ ['s']]

theorem bodies_spec (s : Selector) :
    ∀ b ∈ s.bodies, '?' ∉ b ∧ '}' ∉ b ∧ b.head? ≠ some s.letter := by
  rcases s with (_ | _ | _ | _ | _) | _ <;> decide

/-- A word completes a selector's name exactly if it is spelled like it. -/
theorem completes_iff {s : Selector} {word : List Char} :
    s.completes word ↔ Suffix.Spelled s .word word := by
  simp only [completes, Bool.or_eq_true, beq_iff_eq]
  constructor
  · rintro (h | h)
    · exact .singular (by rw [h, lowerCase_stem])
    · -- the last letter is split off; everything before it spells the stem
      rw [lowerCase, List.map_eq_append_iff] at h
      obtain ⟨stem, last, rfl, hstem, hlast⟩ := h
      obtain ⟨c, rfl, hc⟩ := List.map_eq_singleton_iff.1 hlast
      exact .plural (hstem.trans (lowerCase_stem s).symm) ((toLower_eq_iff (by decide)).1 hc)
  · intro h
    cases h with
    | singular h =>
        left
        rw [h, lowerCase_stem]
    | plural h hc =>
        right
        have hs := (toLower_eq_iff (l := 's') (by decide)).2 hc
        rw [lowerCase, List.map_append, List.map_singleton, hs]
        exact congrArg (· ++ ['s']) (h.trans (lowerCase_stem s))

end Selector

namespace Suffix

theorem Spelled.lowerCase_mem {s : Selector} {x : Suffix} {body : List Char}
    (h : x.Spelled s body) : lowerCase body ∈ s.bodies := by
  cases h with
  | bare => exact List.mem_cons_self
  | abbreviation => exact List.mem_cons_of_mem _ List.mem_cons_self
  | singular h => rw [h, s.lowerCase_stem]; simp [Selector.bodies]
  | plural h hc =>
      have hw := Selector.completes_iff.2 (Spelled.plural h hc)
      simp only [Selector.completes, Bool.or_eq_true, beq_iff_eq] at hw
      rcases hw with hw | hw <;> rw [hw] <;> simp [Selector.bodies]

/-- No body holds a question mark. -/
theorem Spelled.mark_not_mem {s : Selector} {x : Suffix} {body : List Char}
    (h : x.Spelled s body) : '?' ∉ body :=
  fun hq => (s.bodies_spec _ h.lowerCase_mem).1 (mem_lowerCase hq)

/-- No body holds a closing brace. -/
theorem Spelled.brace_not_mem {s : Selector} {x : Suffix} {body : List Char}
    (h : x.Spelled s body) : '}' ∉ body :=
  fun hb => (s.bodies_spec _ h.lowerCase_mem).2.1 (mem_lowerCase hb)

/-- No body goes on with the letter before it. -/
theorem Spelled.head?_ne {s : Selector} {x : Suffix} {body : List Char} {c : Char}
    (h : x.Spelled s body) (hc : c.toLower = s.letter) : body.head? ≠ some c := by
  intro hh
  refine (s.bodies_spec _ h.lowerCase_mem).2.2 ?_
  rw [head?_lowerCase, hh, Option.map_some, hc]

/-- A text behind the letters is read as a suffix exactly if it spells it. -/
theorem ofText?_eq_some_iff {s : Selector} {x : Suffix} {text : List Char} :
    ofText? s text = some x ↔ x.Spelled s text := by
  have hbare : ¬ s.completes [] := by
    rcases s with (_ | _ | _ | _ | _) | _ <;> decide
  have hdot : ¬ s.completes ['.'] := by
    rcases s with (_ | _ | _ | _ | _) | _ <;> decide
  constructor
  · intro h
    unfold ofText? at h
    split at h
    · cases h
      exact .bare
    · cases h
      exact .abbreviation
    · split at h
      · rename_i hw
        cases h
        exact Selector.completes_iff.1 hw
      · exact absurd h (by simp)
  · intro h
    have hword (hw : Spelled s .word text) : ofText? s text = some .word := by
      have hc := Selector.completes_iff.2 hw
      unfold ofText?
      split
      · exact absurd hc hbare
      · exact absurd hc hdot
      · rw [if_pos hc]
    cases h with
    | bare => rfl
    | abbreviation => rfl
    | singular h => exact hword (.singular h)
    | plural h hc => exact hword (.plural h hc)

end Suffix

/-! ## Codes -/

namespace Placeholder

/-- The parts of a code: a letter and how often it is repeated, a body and a tail. -/
@[ext]
structure Spelling where
  letter : Char
  count : Nat
  body : List Char
  tail : List Char

namespace Spelling

/-- The code that the parts make up. -/
def text (a : Spelling) : List Char :=
  List.replicate a.count a.letter ++ a.body ++ a.tail

/-- What the parts of a code stand for: the letter of the selector in either case, upper case for
the cumulative count, once for each digit; a body that spells the suffix; and no tail, or a
question mark with the text behind it. -/
structure Denotes (a : Spelling) (p : Placeholder) : Prop where
  letter : a.letter = p.unit.letter ∨ a.letter = p.unit.letter.toUpper
  cumulative : p.cumulative = true ↔ a.letter = p.unit.letter.toUpper
  pos : 1 ≤ a.count
  digits : p.digits = a.count
  body : p.suffix.Spelled p.unit a.body
  tail : (a.tail = [] ∧ p.optional = false ∧ p.tail = []) ∨
    (a.tail = '?' :: p.tail ∧ p.optional = true)

/-- Whether a code is cut where reading cuts it: at its first question mark, and behind the run of
one letter that it starts with. -/
structure Cut (a : Spelling) : Prop where
  pos : 1 ≤ a.count
  letter : a.letter ≠ '?'
  body : '?' ∉ a.body
  head : a.body.head? ≠ some a.letter
  tail : ∀ c ∈ a.tail.head?, c = '?'

variable {a b : Spelling}

/-! ### Cutting -/

theorem Cut.front_ne (h : a.Cut) :
    ∀ c ∈ List.replicate a.count a.letter ++ a.body, c != '?' := by
  intro c hc
  rw [bne_iff_ne]
  rintro rfl
  rcases List.mem_append.1 hc with hc | hc
  · exact h.letter (List.eq_of_mem_replicate hc).symm
  · exact h.body hc

theorem Cut.tail_eq (h : a.Cut) : ∀ c ∈ a.tail.head?, ¬ (c != '?') := by
  intro c hc
  rw [h.tail c hc]
  decide

theorem Cut.run_eq (a : Spelling) : ∀ c ∈ List.replicate a.count a.letter, c == a.letter := by
  intro c hc
  rw [List.eq_of_mem_replicate hc]
  exact beq_self_eq_true _

theorem Cut.head_ne (h : a.Cut) : ∀ c ∈ a.body.head?, ¬ (c == a.letter) := by
  intro c hc he
  rw [beq_iff_eq] at he
  exact h.head (he ▸ hc)

theorem Cut.takeWhile_text (h : a.Cut) :
    a.text.takeWhile (· != '?') = List.replicate a.count a.letter ++ a.body :=
  takeWhile_append_eq h.front_ne h.tail_eq

theorem Cut.dropWhile_text (h : a.Cut) : a.text.dropWhile (· != '?') = a.tail :=
  dropWhile_append_eq h.front_ne h.tail_eq

theorem Cut.takeWhile_run (h : a.Cut) :
    (List.replicate a.count a.letter ++ a.body).takeWhile (· == a.letter)
      = List.replicate a.count a.letter :=
  takeWhile_append_eq (run_eq a) h.head_ne

theorem Cut.dropWhile_run (h : a.Cut) :
    (List.replicate a.count a.letter ++ a.body).dropWhile (· == a.letter) = a.body :=
  dropWhile_append_eq (run_eq a) h.head_ne

theorem Cut.replicate_eq (h : a.Cut) :
    List.replicate a.count a.letter = a.letter :: List.replicate (a.count - 1) a.letter := by
  rw [← List.replicate_succ, Nat.sub_add_cancel h.pos]

/-- **A code can be cut in one way only.** -/
theorem Cut.eq_of_text_eq (ha : a.Cut) (hb : b.Cut) (h : a.text = b.text) : a = b := by
  have htail : a.tail = b.tail := by
    rw [← ha.dropWhile_text, h, hb.dropWhile_text]
  have hrun : List.replicate a.count a.letter ++ a.body
      = List.replicate b.count b.letter ++ b.body := by
    rw [← ha.takeWhile_text, h, hb.takeWhile_text]
  have hletter : a.letter = b.letter := by
    rw [ha.replicate_eq, hb.replicate_eq] at hrun
    exact (List.cons.inj hrun).1
  have hbody : a.body = b.body := by
    rw [← ha.dropWhile_run, hrun, hletter, hb.dropWhile_run]
  have hcount : a.count = b.count := by
    have := congrArg List.length hrun
    rw [hbody] at this
    simpa using this
  exact Spelling.ext hletter hcount hbody htail

/-- Every code that does not start with its tail can be cut. -/
theorem exists_cut {first : Char} {rest code : List Char}
    (h : code.takeWhile (· != '?') = first :: rest) : ∃ a : Spelling, a.Cut ∧ a.text = code := by
  have hmark : ∀ c ∈ first :: rest, c ≠ '?' := by
    intro c hc
    rw [← h] at hc
    simpa using mem_takeWhile hc
  have hrun : (first :: rest).takeWhile (· == first)
      = List.replicate ((first :: rest).takeWhile (· == first)).length first := by
    refine List.eq_replicate_iff.2 ⟨rfl, fun c hc => ?_⟩
    simpa using mem_takeWhile hc
  refine ⟨⟨first, ((first :: rest).takeWhile (· == first)).length,
    (first :: rest).dropWhile (· == first), code.dropWhile (· != '?')⟩, ⟨?_, ?_, ?_, ?_, ?_⟩, ?_⟩
  · show 1 ≤ ((first :: rest).takeWhile (· == first)).length
    simp
  · exact hmark first List.mem_cons_self
  · show '?' ∉ (first :: rest).dropWhile (· == first)
    intro hq
    exact hmark '?' ((List.dropWhile_suffix _).subset hq) rfl
  · intro hh
    exact head?_dropWhile hh (beq_self_eq_true first)
  · intro c hc
    simpa using head?_dropWhile hc
  · rw [text, ← hrun, List.takeWhile_append_dropWhile, ← h, List.takeWhile_append_dropWhile]

/-! ### Reading -/

/-- Reading a code that is cut looks the letter up, then the body. -/
theorem Cut.ofCode?_text (h : a.Cut) :
    ofCode? a.text = do
      let unit ← Selector.ofLetter? a.letter
      let suffix ← Suffix.ofText? unit a.body
      return {
        unit, suffix
        cumulative := a.letter.isUpper
        digits := a.count
        optional := !a.tail.isEmpty
        tail := a.tail.tail } := by
  have hrun : List.replicate a.count a.letter ++ a.body
      = a.letter :: (List.replicate (a.count - 1) a.letter ++ a.body) := by
    rw [h.replicate_eq, List.cons_append]
  unfold ofCode?
  simp only [h.takeWhile_text, h.dropWhile_text]
  rw [hrun]
  simp only [← hrun, h.takeWhile_run, h.dropWhile_run, List.length_replicate]

theorem isUpper_iff {c : Char} {s : Selector} (h : c.toLower = s.letter) :
    c.isUpper = true ↔ c = s.letter.toUpper := by
  constructor
  · intro hc
    rw [← h, Char.toUpper_toLower_eq_toUpper,
      Char.toUpper_eq_of_not_isLower (Char.not_isLower_of_isUpper hc)]
  · rintro rfl
    exact s.isUpper_toUpper_letter

/-- **A code that is cut is read as what its parts denote.** -/
theorem Cut.ofCode?_eq_some_iff (h : a.Cut) {p : Placeholder} :
    ofCode? a.text = some p ↔ a.Denotes p := by
  rw [h.ofCode?_text]
  simp only [Option.bind_eq_bind, Option.bind_eq_some_iff, Option.pure_def, Option.some.injEq,
    Selector.ofLetter?_eq_some_iff, Suffix.ofText?_eq_some_iff]
  constructor
  · rintro ⟨s, hs, x, hx, rfl⟩
    exact {
      letter := (toLower_eq_iff s.letter_not_isUpper).1 hs
      cumulative := isUpper_iff hs
      pos := h.pos
      digits := rfl
      body := hx
      tail := by
        cases ht : a.tail with
        | nil => exact .inl ⟨rfl, rfl, rfl⟩
        | cons c tail =>
            rw [h.tail c (by rw [ht]; rfl)]
            exact .inr ⟨rfl, rfl⟩ }
  · intro hd
    have hs := (toLower_eq_iff p.unit.letter_not_isUpper).2 hd.letter
    refine ⟨p.unit, hs, p.suffix, hd.body, ?_⟩
    have hcum : a.letter.isUpper = p.cumulative :=
      Bool.eq_iff_iff.2 ((isUpper_iff hs).trans hd.cumulative.symm)
    rw [hcum, ← hd.digits]
    rcases hd.tail with ⟨ht, ho, hp⟩ | ⟨ht, ho⟩
    · rw [ht, List.tail_nil, List.isEmpty_nil, Bool.not_true, ← ho, ← hp]
    · rw [ht, List.tail_cons, List.isEmpty_cons, Bool.not_false, ← ho]

/-- Parts that denote something are cut where reading cuts them. -/
theorem Denotes.cut {p : Placeholder} (h : a.Denotes p) : a.Cut := by
  have hs := (toLower_eq_iff p.unit.letter_not_isUpper).2 h.letter
  exact {
    pos := h.pos
    letter := by
      rintro hq
      rw [hq] at hs
      exact absurd hs (by rcases p.unit with (_ | _ | _ | _ | _) | _ <;> decide)
    body := h.body.mark_not_mem
    head := h.body.head?_ne hs
    tail := by
      rintro c hc
      rcases h.tail with ⟨ht, -⟩ | ⟨ht, -⟩
      · rw [ht] at hc
        exact absurd hc (by simp)
      · rw [ht] at hc
        simpa [eq_comm] using hc }

/-- Only the text behind the question mark can hold a closing brace. -/
theorem Denotes.brace_not_mem {p : Placeholder} (h : a.Denotes p) (htail : '}' ∉ p.tail) :
    '}' ∉ a.text := by
  have hletter : '}' ≠ a.letter := by
    intro hbrace
    have hs := (toLower_eq_iff p.unit.letter_not_isUpper).2 h.letter
    rw [← hbrace] at hs
    exact absurd hs (by rcases p.unit with (_ | _ | _ | _ | _) | _ <;> decide)
  rw [text, List.mem_append, List.mem_append]
  rintro ((hmem | hmem) | hmem)
  · exact hletter (List.eq_of_mem_replicate hmem)
  · exact h.body.brace_not_mem hmem
  · rcases h.tail with ⟨ht, -⟩ | ⟨ht, -⟩
    · rw [ht] at hmem
      exact absurd hmem List.not_mem_nil
    · rw [ht, List.mem_cons] at hmem
      exact htail (hmem.resolve_left (by decide))

end Spelling

/-! ### The grammar -/

/-- A code is read as a placeholder exactly if it is made up of parts that denote it. -/
theorem ofCode?_eq_some_iff {code : List Char} {p : Placeholder} :
    ofCode? code = some p ↔ ∃ a : Spelling, a.text = code ∧ a.Denotes p := by
  constructor
  · intro h
    cases hb : code.takeWhile (· != '?') with
    | nil =>
        unfold ofCode? at h
        simp only [hb] at h
        exact absurd h (by simp)
    | cons first rest =>
        obtain ⟨a, ha, rfl⟩ := Spelling.exists_cut hb
        exact ⟨a, rfl, ha.ofCode?_eq_some_iff.1 h⟩
  · rintro ⟨a, rfl, ha⟩
    exact ha.cut.ofCode?_eq_some_iff.2 ha

/-- **The grammar of codes.**  A code is read as a placeholder exactly if it is made up of parts
that denote this placeholder; no other parts that denote anything make up the same code; and a
code is not read at all exactly if no such parts make it up. -/
theorem ofCode?_grammar (code : List Char) :
    (∀ p, ofCode? code = some p ↔ ∃ a : Spelling, a.text = code ∧ a.Denotes p) ∧
    (∀ (a b : Spelling) (p q : Placeholder), a.text = code ∧ a.Denotes p →
      b.text = code ∧ b.Denotes q → a = b ∧ p = q) ∧
    (ofCode? code = none ↔ ¬ ∃ (a : Spelling) (p : Placeholder), a.text = code ∧ a.Denotes p) := by
  refine ⟨fun p => ofCode?_eq_some_iff, ?_, ?_⟩
  · rintro a b p q ⟨ha, hp⟩ ⟨hb, hq⟩
    refine ⟨hp.cut.eq_of_text_eq hq.cut (ha.trans hb.symm), ?_⟩
    have hsome := ofCode?_eq_some_iff.2 ⟨a, ha, hp⟩
    rw [ofCode?_eq_some_iff.2 ⟨b, hb, hq⟩] at hsome
    exact (Option.some.inj hsome).symm
  · rw [Option.eq_none_iff_forall_ne_some]
    constructor
    · rintro h ⟨a, p, hp⟩
      exact h p (ofCode?_eq_some_iff.2 ⟨a, hp⟩)
    · intro h p hp
      obtain ⟨a, ha⟩ := ofCode?_eq_some_iff.1 hp
      exact h ⟨a, p, ha⟩

example : ofCode? "DDays?!".toList = some ⟨.fixed .day, true, 2, .word, true, ['!']⟩ := by decide

/-- The letters of a run are all in one case. -/
example : ofCode? "Ddays".toList = none := by decide

end Placeholder

end Elapsed
