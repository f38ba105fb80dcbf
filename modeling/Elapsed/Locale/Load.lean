import Elapsed.Document.Hcl.Basic
import Elapsed.Document.Json.Basic
import Elapsed.Document.Toml.Basic
import Elapsed.Locale.Layout
import Elapsed.Locale.Registry

/-!
# Loading locale files

A locale file is decoded in the format its extension names, checked as a whole, and only then
registered. So loading either registers every locale of the file or none.

How a document is decoded is not decided here (`Decoder`), nor in which order the decoded maps are
walked through (`EntryOrder`): both are arguments of every load.
-/

namespace Elapsed.Locale

open Elapsed.Document

namespace Format

/-- The format that a file extension names. -/
def ofExtension? (extension : List Char) : Option Format :=
  if extension = "toml".toList then some toml
  else if extension = "hcl".toList then some hcl
  else if extension = "json".toList then some json
  else none

/-- The format of the file at a path. -/
def ofPath? (path : String) : Option Format :=
  Path.extension? path.toList >>= ofExtension?

end Format

/-! ## Decoders -/

/-- A way to decode documents: the catalogue that a document of a format writes down, or the message
that says why it writes down none. -/
abbrev Decoder : Type := Format → String → Except String Catalogue

/-- JSON counts the items of a record, and says with null that a name has no content. -/
def jsonConventions : Conventions Tree where
  shape := Tree.shape
  text? := Tree.text?
  isVoid
    | .null => true
    | _ => false
  surplusItems := false
  surplusNames := false

/-- TOML has no null: an empty list or table says that a name has no content. -/
def tomlConventions : Conventions Tree where
  shape := Tree.shape
  text? := Tree.text?
  isVoid
    | .list [] => true
    | .table [] => true
    | _ => false
  surplusItems := true
  surplusNames := false

/-- In HCL every value stands for a text where one is wanted. -/
def hclConventions : Conventions Hcl.Expr where
  shape := Hcl.Expr.shape
  text? := fun e => some e.toText
  isVoid
    | .null => true
    | _ => false
  surplusItems := true
  surplusNames := true

/-- The catalogue that a document of a format writes down, if it can be read. Of HCL, only documents
whose values need not be computed can be. -/
def Catalogue.ofText? (format : Format) (text : List Char) : Option Catalogue :=
  match format with
  | .toml => Toml.read text >>= ofDocument? tomlConventions
  | .hcl => Hcl.read text >>= ofDocument? hclConventions
  | .json => Json.read text >>= ofDocument? jsonConventions

/-- The decoder that reads documents with the readers at hand, given what it says of a document that
cannot be read. -/
def Decoder.standard (explain : Format → String → String) : Decoder := fun format content =>
  match Catalogue.ofText? format content.toList with
  | some c => .ok c
  | none => .error (explain format content)

/-- The decoder that reads documents with the readers at hand and gives no reasons. -/
def Decoder.terse : Decoder :=
  standard fun _ _ => ""

/-! ## Loading -/

/-- The catalogue that a document writes down. -/
def Catalogue.parse (decode : Decoder) (format : Format) (content : String) :
    Except Error Catalogue :=
  match decode format content with
  | .ok c => .ok c
  | .error message => .error (.malformed format message)

/-- The tables that a document defines, in ascending order of their identifiers. -/
def Table.parseAll (decode : Decoder) (order : EntryOrder) (format : Format) (content : String) :
    Except Error (List Table) := do
  (order.arrange (← Catalogue.parse decode format content)).toTables

/-- The tables that a file defines. The format is asked for before the file is read. -/
def Table.readAll (decode : Decoder) (order : EntryOrder) (read : Reader) (path : String) :
    Except Error (List Table) :=
  match Format.ofPath? path with
  | none => .error (.unknownFormat path)
  | some format =>
    match read path with
    | .error cause => .error (.unreadable path cause)
    | .ok content => Table.parseAll decode order format content

/-- What came of an operation on a registry: its result, the registry after it, and the events it
reported. -/
structure Outcome (α : Type) where
  result : Except Error α
  registry : Registry
  events : List Event

namespace Registry

/-- An operation that failed: the registry is as it was and nothing is reported. -/
def fail {α : Type} (r : Registry) (e : Error) : Outcome α :=
  ⟨.error e, r, []⟩

/-- Registers every locale that a document defines, and counts them. -/
def loadText (r : Registry) (decode : Decoder) (order : EntryOrder) (format : Format)
    (content : String) : Outcome Nat :=
  match Table.parseAll decode order format content with
  | .error e => r.fail e
  | .ok tables =>
    let done := r.registerAll tables
    ⟨.ok tables.length, done.value, done.events⟩

/-- Registers every locale that a file defines, and counts them; a last event tells so. -/
def loadFile (r : Registry) (decode : Decoder) (order : EntryOrder) (read : Reader)
    (path : String) : Outcome Nat :=
  match Table.readAll decode order read path with
  | .error e => r.fail e
  | .ok tables =>
    let done := r.registerAll tables
    ⟨.ok tables.length, done.value, done.events ++ [.fileLoaded path tables.length]⟩

end Registry

end Elapsed.Locale
