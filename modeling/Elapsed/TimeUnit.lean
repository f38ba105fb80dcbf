/-!
# Units of time

The five units a duration is counted in, their lengths, letters and names, and the selectors a
template can ask for: one of the units, or whichever unit is the greatest in the duration at hand.
Names are read in any ASCII case, singular or plural (`TimeUnit.ofName?`).

What a unit is called where it is shown is a matter of the language (`Localizer`).
-/

namespace Elapsed

/-! ## Letter case -/

/-- ASCII lower case, letter by letter; every other character stays. -/
def lowerCase (text : List Char) : List Char :=
  text.map Char.toLower

/-- A word without one final `s`, if it has one. -/
def singular (word : List Char) : List Char :=
  if word.getLast? = some 's' then word.dropLast else word

/-! ## Units -/

/-- A unit of time, the shortest first. -/
inductive TimeUnit where
  | second
  | minute
  | hour
  | day
  | week
  deriving DecidableEq

namespace TimeUnit

/-- Every unit, the longest first. -/
def all : List TimeUnit :=
  [week, day, hour, minute, second]

/-- The length of a unit in seconds. -/
def seconds : TimeUnit → UInt64
  | second => 1
  | minute => 60
  | hour => 60 * 60
  | day => 60 * 60 * 24
  | week => 60 * 60 * 24 * 7

/-- The lower-case letter that stands for a unit in a template. -/
def letter : TimeUnit → Char
  | second => 's'
  | minute => 'm'
  | hour => 'h'
  | day => 'd'
  | week => 'w'

/-- The singular English name of a unit. -/
def name : TimeUnit → String
  | second => "second"
  | minute => "minute"
  | hour => "hour"
  | day => "day"
  | week => "week"

/-- The unit of a letter, in either case. -/
def ofLetter? (c : Char) : Option TimeUnit :=
  all.find? fun u => u.letter == c.toLower

/-- The unit of a name: singular or plural, in any ASCII case. -/
def ofName? (text : String) : Option TimeUnit :=
  all.find? fun u => u.name.toList == singular (lowerCase text.toList)

/-- Units from the shortest to the longest. -/
def ascending (units : List TimeUnit) : List TimeUnit :=
  units.mergeSort fun a b => a.seconds ≤ b.seconds

theorem mem_all (u : TimeUnit) : u ∈ all := by
  cases u <;> decide

end TimeUnit

/-- A text that names no unit. -/
structure UnknownUnit where
  text : String
  deriving DecidableEq

/-- The text shown for a name that names no unit; it lists the names that do. -/
def UnknownUnit.message (e : UnknownUnit) : String :=
  "unknown time unit '" ++ e.text ++ "'; valid units: "
    ++ ", ".intercalate (TimeUnit.all.map TimeUnit.name)

/-- The unit of a name, or the name itself when it names none. -/
def TimeUnit.ofName (text : String) : Except UnknownUnit TimeUnit :=
  match TimeUnit.ofName? text with
  | some u => .ok u
  | none => .error ⟨text⟩

/-! ## Selectors -/

/-- What a placeholder asks for: a given unit, or the greatest unit of the duration shown. -/
inductive Selector where
  | fixed (unit : TimeUnit)
  | greatest
  deriving DecidableEq

namespace Selector

/-- The lower-case letter that stands for a selector. -/
def letter : Selector → Char
  | fixed u => u.letter
  | greatest => 'g'

/-- The word a selector is spelled with. -/
def name : Selector → String
  | fixed u => u.name
  | greatest => "greatest"

/-- The selector of a letter, in either case. -/
def ofLetter? (c : Char) : Option Selector :=
  if c.toLower = 'g' then some greatest else (TimeUnit.ofLetter? c).map fixed

/-- The name of a selector without its letter: what follows the letters of a placeholder that
spells its unit out. -/
def stem (s : Selector) : List Char :=
  s.name.toList.tail

end Selector

/-! ## Languages -/

/-- The text that a language puts behind a number. -/
structure Localizer where
  /-- The short mark of a unit, written directly behind the number. -/
  abbreviation : TimeUnit → String
  /-- The word of a unit in the form that fits the number, with whatever separates the two. -/
  word : TimeUnit → UInt64 → String

end Elapsed
