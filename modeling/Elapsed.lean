import Elapsed.Locale.Shared
import Elapsed.Proofs.Locale.Completeness
import Elapsed.Proofs.Template.Segmentation
import Elapsed.Template.Printer
import Elapsed.Proofs.Locale.Loading
import Elapsed.Proofs.Template.Printing
import Elapsed.Proofs.Template.Rendering
import Elapsed.Proofs.Template.Composition
import Elapsed.Proofs.Locale.Independence
import Elapsed.Proofs.Locale.Wording
import Elapsed.Proofs.Locale.Fallback
import Elapsed.Proofs.Template.Text
import Elapsed.Proofs.Locale.Checking
import Elapsed.Proofs.Document.Json
import Elapsed.Proofs.Locale.Ordering
import Elapsed.Proofs.Locale.Writing
import Elapsed.Proofs.Template.Optional
import Elapsed.Proofs.Locale.Sorting
import Elapsed.Proofs.UnitNames
import Elapsed.Proofs.Template.Diagnostics
import Elapsed.Proofs.Locale.FileLoading
import Elapsed.Proofs.Template.Clock
import Elapsed.Proofs.Locale.PluralForms
import Elapsed.Proofs.Template.TimeOfDay
import Elapsed.Proofs.Locale.Records
import Elapsed.Proofs.Locale.Places
import Elapsed.Proofs.Locale.Spelling
