import Elapsed.TimeUnit

/-!
# Plural rules

A language picks the form of a word by the number before it. A rule says how many forms there are
and which of them a number takes; the forms of a word are listed in the order the rule counts them.
-/

namespace Elapsed

/-- A way to pick the form of a word by a number. -/
inductive PluralRule where
  /-- One form for 1, another for all else. -/
  | english
  /-- One form for 0 and 1, another for all else. -/
  | french
  /-- Three forms, by the last digits: 1 but not 11; 2 to 4 but not 12 to 14; all else. -/
  | russian
  /-- Three forms: 1 alone; 2 to 4 as last digit but not 12 to 14; all else. -/
  | polish
  /-- One form for every number. -/
  | cjk
  deriving DecidableEq

namespace PluralRule

/-- Every rule. -/
def all : List PluralRule :=
  [english, french, russian, polish, cjk]

/-- The number of forms a rule picks from. -/
def arity : PluralRule → Nat
  | english => 2
  | french => 2
  | russian => 3
  | polish => 3
  | cjk => 1

/-- Whether a number ends in 2, 3 or 4, but not in 12, 13 or 14. -/
def isFew (n : Nat) : Bool :=
  2 ≤ n % 10 && n % 10 ≤ 4 && !(12 ≤ n % 100 && n % 100 ≤ 14)

/-- The place of the form that a number takes. -/
def pick (rule : PluralRule) (n : Nat) : Nat :=
  match rule with
  | english => if n = 1 then 0 else 1
  | french => if n ≤ 1 then 0 else 1
  | russian => if n % 10 = 1 ∧ n % 100 ≠ 11 then 0 else if isFew n then 1 else 2
  | polish => if n = 1 then 0 else if isFew n then 1 else 2
  | cjk => 0

/-- A rule never picks beyond its forms. -/
theorem pick_lt_arity (rule : PluralRule) (n : Nat) : rule.pick n < rule.arity := by
  cases rule with
  | english =>
      show (if n = 1 then 0 else 1) < 2
      split <;> omega
  | french =>
      show (if n ≤ 1 then 0 else 1) < 2
      split <;> omega
  | russian =>
      show (if n % 10 = 1 ∧ n % 100 ≠ 11 then 0 else if isFew n then 1 else 2) < 3
      split
      · omega
      · split <;> omega
  | polish =>
      show (if n = 1 then 0 else if isFew n then 1 else 2) < 3
      split
      · omega
      · split <;> omega
  | cjk => exact Nat.one_pos

/-- The name a rule is written with in locale files. -/
def name : PluralRule → String
  | english => "english"
  | french => "french"
  | russian => "russian"
  | polish => "polish"
  | cjk => "cjk"

/-- The rule of a name. -/
def ofName? (text : String) : Option PluralRule :=
  all.find? fun rule => rule.name == text

/-- The language of a locale identifier: what stands before its first `_`, `-` or `.`, in ASCII
lower case. -/
def language (id : String) : String :=
  String.ofList (lowerCase (id.toList.takeWhile fun c => !(c == '_' || c == '-' || c == '.')))

/-- The rule to expect of a locale by its identifier; English for a language not known here. -/
def ofLocale (id : String) : PluralRule :=
  match language id with
  | "fr" | "pt" => french
  | "ru" | "uk" | "be" => russian
  | "pl" => polish
  | "ja" | "zh" | "ko" | "th" | "vi" => cjk
  | _ => english

end PluralRule

end Elapsed
