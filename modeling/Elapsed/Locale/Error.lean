import Elapsed.Decimal
import Elapsed.Files
import Elapsed.Plural

/-!
# Locale errors

What can go wrong when a locale is looked up, validated or loaded: a cause each, and the text shown
for it.
-/

namespace Elapsed.Locale

/-- The format of a locale file. -/
inductive Format where
  | toml
  | hcl
  | json
  deriving DecidableEq

/-- The name of a format. -/
def Format.name : Format → String
  | toml => "TOML"
  | hcl => "HCL"
  | json => "JSON"

/-- Why a locale cannot be had. -/
inductive Error where
  /-- The identifier is not registered. -/
  | unknownLocale (id : String)
  /-- A definition names a unit that is none. -/
  | unknownUnit (id : String) (cause : UnknownUnit)
  /-- A definition names a unit twice. -/
  | duplicateUnit (id : String) (unit : TimeUnit)
  /-- A unit has no forms. -/
  | missingUnit (id : String) (unit : TimeUnit)
  /-- A unit has more or fewer words than the rule has forms. -/
  | wordCount (id : String) (unit : TimeUnit) (rule : PluralRule) (found : Nat)
  /-- The path does not tell the format. -/
  | unknownFormat (path : String)
  /-- The file cannot be read. -/
  | unreadable (path : String) (cause : ReadError)
  /-- The document is not well formed, or not a locale file; the message is the decoder's. -/
  | malformed (format : Format) (message : String)
  deriving DecidableEq

/-- The text shown for an error. -/
def Error.message : Error → String
  | unknownLocale id => "unknown locale '" ++ id ++ "'"
  | unknownUnit id cause => "locale '" ++ id ++ "': " ++ cause.message
  | duplicateUnit id unit =>
    "locale '" ++ id ++ "' defines unit '" ++ unit.name ++ "' more than once"
  | missingUnit id unit => "locale '" ++ id ++ "' has no forms for unit '" ++ unit.name ++ "'"
  | wordCount id unit rule found =>
    "locale '" ++ id ++ "', unit '" ++ unit.name ++ "': plural rule '" ++ rule.name ++ "' needs "
      ++ String.ofList (Decimal.digits rule.arity) ++ " word form(s), found "
      ++ String.ofList (Decimal.digits found)
  | unknownFormat path => "cannot determine locale file format for " ++ path
  | unreadable path cause => "failed to read locale file " ++ path ++ ": " ++ cause.message
  | malformed format message => format.name ++ " parse error: " ++ message

end Elapsed.Locale
