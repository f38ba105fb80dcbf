import Mathlib.Data.List.Basic
import Elapsed.Document.Json.Basic
import Elapsed.Proofs.Computation

/-!
# Reading JSON undoes writing it

A tree is written as a row of tokens, and each token as a row of characters.  Reading takes the same
two steps back.

*Characters.*  `Json.exists_piece`: a character between quotes is read as one piece, whatever is
behind it, and the piece stands for that character again.  So a written token is read back and
leaves what is behind it (`Json.token?_write_append`), and so are tokens in a row
(`Json.lex_flatMap_write`).

*Tokens.*  `Json.Reads` says that the tokens of a tree are read back as that tree, whatever lists
and tables are still open and whatever is behind it.  `Json.reads` proves it of every tree, along
its items and entries (`Json.afterValue_items`, `Json.afterValue_entries`).

So every tree is read back from its text (`Json.read_write`).
-/

namespace Elapsed.Document.Json

/-! ## Texts between quotes -/

/-- Two hexadecimal digits are enough for a control character. -/
theorem hexNumber?_control {n : Nat} (h : n < 32) :
    hexNumber? ['0', '0', hexDigit (n / 16), hexDigit (n % 16)] = some n := by
  have all : ∀ m, m < 32 →
      hexNumber? ['0', '0', hexDigit (m / 16), hexDigit (m % 16)] = some m := by
    decide
  exact all n h

/-- A letter behind a backslash is read as the character it stands for. -/
theorem quoted?_backslash {letter c : Char} (hletter : letter ≠ 'u')
    (h : escaped? letter = some c) (rest : List Char) :
    quoted? ('\\' :: letter :: rest) = (quoted? rest).map fun p => (.char c :: p.1, p.2) := by
  rw [quoted?]
  · rw [h]
    cases quoted? rest with
    | none => rfl
    | some p => rfl
  · exact fun _ _ _ _ _ he _ => hletter he

/-- A character between quotes is read as one piece, which stands for it. -/
theorem exists_piece (c : Char) : ∃ piece : Piece,
    (∀ rest, quoted? (escape c ++ rest) = (quoted? rest).map fun p => (piece :: p.1, p.2)) ∧
    ∀ pieces, characters? (piece :: pieces) = (characters? pieces).map (c :: ·) := by
  unfold escape
  split_ifs with hquote hbackslash hb hf hn hr ht hcontrol
  · subst hquote
    exact ⟨.char '"', quoted?_backslash (by decide) rfl, fun _ => rfl⟩
  · subst hbackslash
    exact ⟨.char '\\', quoted?_backslash (by decide) rfl, fun _ => rfl⟩
  · subst hb
    exact ⟨.char '\x08', quoted?_backslash (by decide) rfl, fun _ => rfl⟩
  · subst hf
    exact ⟨.char '\x0c', quoted?_backslash (by decide) rfl, fun _ => rfl⟩
  · subst hn
    exact ⟨.char '\n', quoted?_backslash (by decide) rfl, fun _ => rfl⟩
  · subst hr
    exact ⟨.char '\r', quoted?_backslash (by decide) rfl, fun _ => rfl⟩
  · subst ht
    exact ⟨.char '\t', quoted?_backslash (by decide) rfl, fun _ => rfl⟩
  · -- any other control character is written as a code unit, and that unit is no surrogate
    have hlt : c.toNat < 32 := hcontrol
    refine ⟨.unit c.toNat, fun rest => ?_, fun pieces => ?_⟩
    · simp only [List.cons_append, List.nil_append]
      rw [quoted?, hexNumber?_control hlt]
      cases quoted? rest with
      | none => rfl
      | some p => rfl
    · have hhigh : isHigh c.toNat = false := by simp [isHigh]; omega
      have hlow : isLow c.toNat = false := by simp [isLow]; omega
      rw [characters?.eq_def]
      simp only [hhigh, hlow, Char.ofNat_toNat]
      rfl
  · refine ⟨.char c, fun rest => ?_, fun _ => rfl⟩
    rw [List.singleton_append, quoted?, if_neg hcontrol]
    · cases quoted? rest with
      | none => rfl
      | some p => rfl
    all_goals simp_all

/-- A text between quotes is read as pieces that stand for it. -/
theorem exists_pieces (text : List Char) : ∃ pieces : List Piece,
    (∀ rest, quoted? (text.flatMap escape ++ '"' :: rest) = some (pieces, rest)) ∧
    characters? pieces = some text := by
  induction text with
  | nil => exact ⟨[], fun rest => by rw [List.flatMap_nil, List.nil_append, quoted?], rfl⟩
  | cons c text ih =>
      obtain ⟨piece, hquoted, hcharacters⟩ := exists_piece c
      obtain ⟨pieces, hquoted', hcharacters'⟩ := ih
      refine ⟨piece :: pieces, fun rest => ?_, ?_⟩
      · rw [List.flatMap_cons, List.append_assoc, hquoted, hquoted', Option.map_some]
      · rw [hcharacters, hcharacters', Option.map_some]

/-! ## Tokens -/

/-- A written token is read back, whatever is behind it. -/
theorem token?_write_append (t : Token) (rest : List Char) :
    token? (t.write ++ rest) = some (t, rest) := by
  cases t with
  | text s =>
      cases s with
      | none => rfl
      | some s =>
          obtain ⟨pieces, hquoted, hcharacters⟩ := exists_pieces s.toList
          have hwrite : Token.write (.text (some s)) ++ rest
              = '"' :: (s.toList.flatMap escape ++ '"' :: rest) := by
            simp [Token.write]
          rw [hwrite, token?, hquoted]
          simp [hcharacters]
  | _ => rfl

theorem exists_write_eq_cons (t : Token) : ∃ c cs, t.write = c :: cs ∧ isBlank c = false := by
  cases t with
  | text s =>
      cases s with
      | none => exact ⟨_, _, rfl, rfl⟩
      | some s => exact ⟨_, _, rfl, rfl⟩
  | _ => exact ⟨_, _, rfl, rfl⟩

theorem lex_write_append (t : Token) (rest : List Char) :
    lex (t.write ++ rest) = (lex rest).map (t :: ·) := by
  obtain ⟨c, cs, hwrite, hblank⟩ := exists_write_eq_cons t
  have htoken := token?_write_append t rest
  rw [hwrite, List.cons_append] at htoken ⊢
  rw [lex, if_neg (by simp [hblank])]
  split
  · next hnone => rw [htoken] at hnone; cases hnone
  · next hsome =>
    rw [htoken] at hsome
    cases hsome
    rfl

/-- Tokens in a row are read back. -/
theorem lex_flatMap_write (ts : List Token) : lex (ts.flatMap Token.write) = some ts := by
  induction ts with
  | nil => rw [List.flatMap_nil, lex]
  | cons t ts ih => rw [List.flatMap_cons, lex_write_append, ih, Option.map_some]

/-! ## Trees -/

/-- Whether the tokens of a tree are read back as that tree, whatever is open and whatever is behind
it. -/
def Reads (t : Tree) : Prop :=
  ∀ frames rest, expectValue frames (tokens t ++ rest) = afterValue frames t rest

/-- The tokens behind the first items of a list: a comma and the others, if there are others. -/
def itemsBehind : List Tree → List Token
  | [] => []
  | item :: items => .comma :: itemTokens (item :: items)

/-- The tokens behind the first entries of a table: a comma and the others, if there are others. -/
def entriesBehind : List (String × Tree) → List Token
  | [] => []
  | e :: entries => .comma :: entryTokens (e :: entries)

theorem itemTokens_cons (item : Tree) (items : List Tree) :
    itemTokens (item :: items) = tokens item ++ itemsBehind items := by
  cases items with
  | nil => simp [itemTokens, itemsBehind]
  | cons next items => simp [itemTokens, itemsBehind]

theorem entryTokens_cons (name : String) (value : Tree) (entries : List (String × Tree)) :
    entryTokens ((name, value) :: entries)
      = .text (some name) :: .colon :: (tokens value ++ entriesBehind entries) := by
  cases entries with
  | nil => simp [entryTokens, entriesBehind]
  | cons next entries => simp [entryTokens, entriesBehind]

/-- No value starts with what only the end of a list can be, and none with a name. -/
theorem tokens_ne (t : Tree) (rest : List Token) (hrest : ∀ rest', rest ≠ .colon :: rest') :
    (∀ rest', tokens t ++ rest ≠ .closeList :: rest') ∧
      ∀ name rest', tokens t ++ rest ≠ .text name :: .colon :: rest' := by
  cases t with
  | text s =>
      rw [tokens]
      refine ⟨by simp, ?_⟩
      rintro name rest' he
      simp only [List.cons_append, List.nil_append, List.cons.injEq, Token.text.injEq] at he
      exact hrest rest' he.2
  | _ => simp [tokens]

theorem itemsBehind_ne (items : List Tree) (rest : List Token) :
    ∀ rest', itemsBehind items ++ .closeList :: rest ≠ .colon :: rest' := by
  cases items with
  | nil => simp [itemsBehind]
  | cons item items => simp [itemsBehind]

/-- Behind an item of a list the other items are read. -/
theorem afterValue_items {items : List Tree} (h : ∀ item ∈ items, Reads item) :
    ∀ (done : List Tree) (frames : List Frame) (value : Tree) (rest : List Token),
      afterValue (.list done :: frames) value (itemsBehind items ++ .closeList :: rest)
        = afterValue frames (.list (done.reverse ++ value :: items)) rest := by
  induction items with
  | nil =>
      intro done frames value rest
      simp [itemsBehind, afterValue]
  | cons item items ih =>
      intro done frames value rest
      obtain ⟨-, hname⟩ := tokens_ne item (itemsBehind items ++ .closeList :: rest)
        (itemsBehind_ne items rest)
      have hread := h item List.mem_cons_self (.list (value :: done) :: frames)
        (itemsBehind items ++ .closeList :: rest)
      rw [itemsBehind, itemTokens_cons, List.cons_append, List.append_assoc, afterValue]
      · rw [hread, ih fun item' hitem => h item' (List.mem_cons_of_mem item hitem)]
        simp
      · exact hname

/-- Behind an entry of a table the other entries are read. -/
theorem afterValue_entries {entries : List (String × Tree)} (h : ∀ e ∈ entries, Reads e.2) :
    ∀ (done : List (Option String × Tree)) (frames : List Frame) (name : String) (value : Tree)
      (rest : List Token),
      afterValue (.table done (some name) :: frames) value
          (entriesBehind entries ++ .closeTable :: rest)
        = afterValue frames
            (tableOf (done.reverse ++ ((name, value) :: entries).map fun e => (some e.1, e.2)))
            rest := by
  induction entries with
  | nil =>
      intro done frames name value rest
      simp [entriesBehind, afterValue]
  | cons e entries ih =>
      obtain ⟨next, value'⟩ := e
      intro done frames name value rest
      have hread := h (next, value') List.mem_cons_self
        (.table ((some name, value) :: done) (some next) :: frames)
        (entriesBehind entries ++ .closeTable :: rest)
      rw [entriesBehind, entryTokens_cons]
      simp only [List.cons_append, List.append_assoc]
      rw [afterValue, hread, ih fun e' he => h e' (List.mem_cons_of_mem _ he)]
      simp

/-- A table whose names are all valid texts is the table of its entries. -/
theorem tableOf_map_some (entries : List (String × Tree)) :
    tableOf (entries.map fun e => (some e.1, e.2)) = .table entries := by
  have hall : (entries.map fun e => (some e.1, e.2)).mapM
      (fun e : Option String × Tree => e.1.map fun name => (name, e.2)) = some entries :=
    mapM_map_eq_some fun e _ => rfl
  rw [tableOf, hall]

theorem reads_list {items : List Tree} (h : ∀ item ∈ items, Reads item) : Reads (.list items) := by
  intro frames rest
  cases items with
  | nil => simp [tokens, itemTokens, expectValue]
  | cons item items =>
      obtain ⟨hclose, -⟩ := tokens_ne item (itemsBehind items ++ .closeList :: rest)
        (itemsBehind_ne items rest)
      have hread := h item List.mem_cons_self (.list [] :: frames)
        (itemsBehind items ++ .closeList :: rest)
      rw [tokens, itemTokens_cons]
      simp only [List.cons_append, List.append_assoc, List.nil_append]
      rw [expectValue]
      · rw [hread, afterValue_items fun item' hitem => h item' (List.mem_cons_of_mem item hitem)]
        rfl
      · exact hclose

theorem reads_table {entries : List (String × Tree)} (h : ∀ e ∈ entries, Reads e.2) :
    Reads (.table entries) := by
  intro frames rest
  cases entries with
  | nil => simp [tokens, entryTokens, expectValue]
  | cons e entries =>
      obtain ⟨name, value⟩ := e
      have hread := h (name, value) List.mem_cons_self (.table [] (some name) :: frames)
        (entriesBehind entries ++ .closeTable :: rest)
      rw [tokens, entryTokens_cons]
      simp only [List.cons_append, List.append_assoc, List.nil_append]
      rw [expectValue, hread, afterValue_entries fun e' he => h e' (List.mem_cons_of_mem _ he)]
      rw [List.reverse_nil, List.nil_append, tableOf_map_some]

/-- The tokens of every tree are read back as that tree. -/
theorem reads (t : Tree) : Reads t := by
  refine Tree.rec (motive_1 := Reads) (motive_2 := fun items => ∀ item ∈ items, Reads item)
    (motive_3 := fun entries => ∀ e ∈ entries, Reads e.2) (motive_4 := fun e => Reads e.2)
    ?null ?other ?text ?list ?table ?nil ?cons ?noEntry ?entry ?pair t
  case null => intro frames rest; rw [tokens]; rfl
  case other => intro frames rest; rw [tokens]; rfl
  case text => intro s frames rest; rw [tokens]; rfl
  case list => exact fun items h => reads_list h
  case table => exact fun entries h => reads_table h
  case nil => exact fun item hitem => absurd hitem List.not_mem_nil
  case cons =>
    intro item items hitem hitems item' hmem
    rcases List.mem_cons.1 hmem with rfl | hmem
    · exact hitem
    · exact hitems item' hmem
  case noEntry => exact fun e he => absurd he List.not_mem_nil
  case entry =>
    intro e entries he hentries e' hmem
    rcases List.mem_cons.1 hmem with rfl | hmem
    · exact he
    · exact hentries e' hmem
  case pair => exact fun name value h => h

/-- **Reading undoes writing.**  The text of a tree is read as that tree. -/
theorem read_write (t : Tree) : read (write t) = some t := by
  have htokens := reads t [] []
  rw [List.append_nil] at htokens
  rw [read, write, lex_flatMap_write]
  exact htokens.trans (by rw [afterValue])

end Elapsed.Document.Json
