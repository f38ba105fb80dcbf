import Elapsed.Document.Scan
import Elapsed.Document.Tree

/-!
# JSON tokens

A JSON text is cut into tokens, and tokens are written back without blanks between them. Texts are
read strictly: no control characters, no escapes but those of the standard. An escaped surrogate
without its partner is well formed, but the text that holds it is no valid text.
-/

namespace Elapsed.Document.Json

/-- A piece of a JSON text. -/
inductive Token where
  | openTable
  | closeTable
  | openList
  | closeList
  | colon
  | comma
  | null
  /-- A number or a truth value. -/
  | other
  /-- A text, if its escapes make a valid one. -/
  | text (s : Option String)
  deriving DecidableEq

/-! ## Reading -/

/-- Whether a code unit opens a surrogate pair. -/
def isHigh (n : Nat) : Bool :=
  0xD800 ≤ n && n ≤ 0xDBFF

/-- Whether a code unit closes a surrogate pair. -/
def isLow (n : Nat) : Bool :=
  0xDC00 ≤ n && n ≤ 0xDFFF

/-- The character of a surrogate pair. -/
def paired (high low : Nat) : Char :=
  Char.ofNat (0x10000 + (high - 0xD800) * 1024 + (low - 0xDC00))

/-- A piece of a quoted text: a character, or a code unit written in hexadecimal digits. -/
inductive Piece where
  | char (c : Char)
  | unit (n : Nat)

/-- Reads a text up to its closing quote, and gives the rest behind the quote. -/
def quoted? : List Char → Option (List Piece × List Char)
  | [] => none
  | '"' :: rest => some ([], rest)
  | '\\' :: 'u' :: a :: b :: c :: d :: rest => do
    let n ← hexNumber? [a, b, c, d]
    let (pieces, behind) ← quoted? rest
    return (.unit n :: pieces, behind)
  | '\\' :: e :: rest => do
    let c ← escaped? e
    let (pieces, behind) ← quoted? rest
    return (.char c :: pieces, behind)
  | c :: rest =>
    if c < ' ' then none
    else do
      let (pieces, behind) ← quoted? rest
      return (.char c :: pieces, behind)

/-- The characters of pieces, if every surrogate has its partner directly behind it. -/
def characters? : List Piece → Option (List Char)
  | [] => some []
  | .char c :: rest => (characters? rest).map (c :: ·)
  | .unit n :: rest =>
    if isHigh n then
      match rest with
      | .unit m :: behind =>
        if isLow m then (characters? behind).map (paired n m :: ·) else none
      | _ => none
    else if isLow n then none
    else (characters? rest).map (Char.ofNat n :: ·)

/-- Skips decimal digits, one at least. -/
def digits? : List Char → Option (List Char)
  | [] => none
  | c :: rest => if c.isDigit then some (rest.dropWhile Char.isDigit) else none

/-- Skips a whole number without a needless zero in front. -/
def integer? : List Char → Option (List Char)
  | '0' :: rest => some rest
  | text => digits? text

/-- Skips a point and the digits behind it, if there is a point. -/
def fraction? : List Char → Option (List Char)
  | '.' :: rest => digits? rest
  | text => some text

/-- Skips a sign, if there is one. -/
def sign : List Char → List Char
  | '+' :: rest => rest
  | '-' :: rest => rest
  | text => text

/-- Skips an exponent, if there is one. -/
def exponent? : List Char → Option (List Char)
  | 'e' :: rest => digits? (sign rest)
  | 'E' :: rest => digits? (sign rest)
  | text => some text

/-- Skips a number. -/
def number? : List Char → Option (List Char)
  | '-' :: rest => integer? rest >>= fraction? >>= exponent?
  | text => integer? text >>= fraction? >>= exponent?

/-- Reads one token at the start of a text that does not start with a blank. -/
def token? : List Char → Option (Token × List Char)
  | '{' :: rest => some (.openTable, rest)
  | '}' :: rest => some (.closeTable, rest)
  | '[' :: rest => some (.openList, rest)
  | ']' :: rest => some (.closeList, rest)
  | ':' :: rest => some (.colon, rest)
  | ',' :: rest => some (.comma, rest)
  | '"' :: rest => do
    let (pieces, behind) ← quoted? rest
    return (.text ((characters? pieces).map String.ofList), behind)
  | 'n' :: 'u' :: 'l' :: 'l' :: rest => some (.null, rest)
  | 't' :: 'r' :: 'u' :: 'e' :: rest => some (.other, rest)
  | 'f' :: 'a' :: 'l' :: 's' :: 'e' :: rest => some (.other, rest)
  | text => (number? text).map fun rest => (.other, rest)

/-- Whether a character may stand between tokens. -/
def isBlank (c : Char) : Bool :=
  c == ' ' || c == '\t' || c == '\n' || c == '\r'

/-! ## Each token is shorter than the text -/

theorem length_of_quoted? {text rest : List Char} {pieces : List Piece}
    (h : quoted? text = some (pieces, rest)) : rest.length < text.length := by
  fun_induction quoted? text generalizing pieces with
  | case1 => simp at h
  | case2 => simp_all
  | case3 a b c d tail ih =>
    simp only [bind, Option.bind_eq_some_iff] at h
    obtain ⟨_, _, ⟨_, _⟩, hq, h⟩ := h
    cases h
    have := ih hq
    simp only [List.length_cons] at this ⊢
    omega
  | case4 e tail _ ih =>
    simp only [bind, Option.bind_eq_some_iff] at h
    obtain ⟨_, _, ⟨_, _⟩, hq, h⟩ := h
    cases h
    have := ih hq
    simp only [List.length_cons] at this ⊢
    omega
  | case5 => simp at h
  | case6 c tail _ _ _ _ ih =>
    simp only [bind, Option.bind_eq_some_iff] at h
    obtain ⟨⟨_, _⟩, hq, h⟩ := h
    cases h
    have := ih hq
    simp only [List.length_cons] at this ⊢
    omega

theorem length_of_digits? {text rest : List Char} (h : digits? text = some rest) :
    rest.length < text.length := by
  cases text with
  | nil => simp [digits?] at h
  | cons c cs =>
    simp only [digits?] at h
    split at h
    · have := (List.dropWhile_suffix (l := cs) Char.isDigit).length_le
      simp only [Option.some.injEq] at h
      simp only [← h, List.length_cons]
      omega
    · simp at h

theorem length_of_integer? {text rest : List Char} (h : integer? text = some rest) :
    rest.length < text.length := by
  unfold integer? at h
  split at h
  · cases h
    simp
  · exact length_of_digits? h

theorem length_of_fraction? {text rest : List Char} (h : fraction? text = some rest) :
    rest.length ≤ text.length := by
  unfold fraction? at h
  split at h
  · exact Nat.le_of_lt (Nat.lt_succ_of_lt (length_of_digits? h))
  · cases h
    exact Nat.le_refl _

theorem length_sign (text : List Char) : (sign text).length ≤ text.length := by
  unfold sign
  split <;> simp

theorem length_of_exponent? {text rest : List Char} (h : exponent? text = some rest) :
    rest.length ≤ text.length := by
  unfold exponent? at h
  split at h
  · next tail =>
    have := length_of_digits? h
    have := length_sign tail
    simp only [List.length_cons]
    omega
  · next tail =>
    have := length_of_digits? h
    have := length_sign tail
    simp only [List.length_cons]
    omega
  · cases h
    exact Nat.le_refl _

theorem length_of_number? {text rest : List Char} (h : number? text = some rest) :
    rest.length < text.length := by
  unfold number? at h
  split at h
  all_goals
    simp only [bind, Option.bind_eq_some_iff] at h
    obtain ⟨_, ⟨_, hi, hf⟩, he⟩ := h
    have := length_of_integer? hi
    have := length_of_fraction? hf
    have := length_of_exponent? he
    grind

theorem length_of_token? {text rest : List Char} {t : Token} (h : token? text = some (t, rest)) :
    rest.length < text.length := by
  unfold token? at h
  split at h
  case h_7 tail =>
    simp only [bind, Option.bind_eq_some_iff] at h
    obtain ⟨⟨_, _⟩, hq, h⟩ := h
    cases h
    have := length_of_quoted? hq
    simp only [List.length_cons] at this ⊢
    omega
  case h_11 =>
    obtain ⟨_, hn, h⟩ := Option.map_eq_some_iff.1 h
    cases h
    exact length_of_number? hn
  all_goals
    cases h
    simp only [List.length_cons]
    omega

/-! ## Cutting and writing -/

/-- The tokens of a text. -/
def lex (text : List Char) : Option (List Token) :=
  match text with
  | [] => some []
  | c :: rest =>
    if isBlank c then lex rest
    else
      match _h : token? (c :: rest) with
      | none => none
      | some (t, behind) => (lex behind).map (t :: ·)
termination_by text.length
decreasing_by
  · simp
  · exact length_of_token? _h

/-- A token as it is written. -/
def Token.write : Token → List Char
  | openTable => ['{']
  | closeTable => ['}']
  | openList => ['[']
  | closeList => [']']
  | colon => [':']
  | comma => [',']
  | null => ['n', 'u', 'l', 'l']
  | other => ['t', 'r', 'u', 'e']
  | text (some s) => '"' :: s.toList.flatMap escape ++ ['"']
  | text none => ['"', '\\', 'u', 'd', '8', '0', '0', '"']

end Elapsed.Document.Json
