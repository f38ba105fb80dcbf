import Elapsed.Proofs.Locale.Loading
import Elapsed.Proofs.Template.Grammar

/-!
# A file is loaded like its text

A locale file is loaded by its path.  Its name has to tell the format, it has to be read, and its
text has to be loaded, in this order; what goes wrong first is reported.

*Names.*  `Path.extension?_eq_some_iff`: the extension of a path is what stands behind the last dot
of its file name, with something in front of that dot.  So the format of a path is a matter of the
path alone (`Locale.Format.ofPath?_eq_some_iff`).

*Files.*  `Files.read_eq_ok_iff`: a path is read as the text whose bytes are in the file it leads
to.  It cannot be read if there is no such text.

*Loading.*  `Locale.Registry.loadFile_of_text`: a file that can be read is loaded like its text, but
for one event at the end.  So loading files and loading texts never part, whatever the decoder is
and in whatever order the decoded maps come (`Locale.Registry.loadFile_agrees`).
-/

namespace Elapsed

/-! ## Names of files -/

namespace Path

variable {path name ext : List Char}

/-- The last item of a kind is the one with none of the kind behind it. -/
theorem getLast?_filter_eq_some_iff {α : Type} {p : α → Bool} {items : List α} {a : α} :
    (items.filter p).getLast? = some a ↔ ∃ front behind, items = front ++ a :: behind ∧
      p a = true ∧ ∀ b ∈ behind, p b = false := by
  rw [List.getLast?_filter, List.find?_eq_some_iff_append]
  constructor
  · rintro ⟨ha, behind, front, hitems, hbehind⟩
    refine ⟨front.reverse, behind.reverse, ?_, ha, by simpa using hbehind⟩
    rw [← List.reverse_reverse items, hitems]
    simp
  · rintro ⟨front, behind, rfl, ha, hbehind⟩
    exact ⟨ha, behind.reverse, front.reverse, by simp, by simpa using hbehind⟩

/-- A path leads to a file by its last part that does not stay where it is. -/
theorem fileName?_eq_some_iff : fileName? path = some name ↔ name ≠ ['.', '.'] ∧
    ∃ front behind, parts path = front ++ name :: behind ∧ isIdle name = false ∧
      ∀ part ∈ behind, isIdle part = true := by
  have hlast : (names path).getLast? = some name ↔
      ∃ front behind, parts path = front ++ name :: behind ∧ isIdle name = false ∧
        ∀ part ∈ behind, isIdle part = true := by
    simp only [names, getLast?_filter_eq_some_iff, Bool.not_eq_true', Bool.not_eq_false']
  rw [← hlast, fileName?]
  split
  · rename_i h
    rw [h, Option.some.injEq]
    exact ⟨fun hnone => absurd hnone (by simp), fun ⟨hne, he⟩ => absurd he.symm hne⟩
  · rename_i hup
    exact ⟨fun h => ⟨fun he => hup (he ▸ h), h⟩, And.right⟩

/-- The extension stands behind the last dot of the file name, and something in front of it. -/
theorem extension?_eq_some_iff : extension? path = some ext ↔
    ∃ stem, stem ≠ [] ∧ '.' ∉ ext ∧ fileName? path = some (stem ++ '.' :: ext) := by
  rw [extension?, Option.bind_eq_bind, Option.bind_eq_some_iff]
  constructor
  · rintro ⟨name, hname, h⟩
    split at h
    · rename_i c d rest hdrop
      cases h
      have hc : c = '.' := by
        have hhead : c ∈ (name.reverse.dropWhile (· != '.')).head? := by rw [hdrop]; rfl
        simpa using head?_dropWhile hhead
      subst hc
      have hcut : name = (d :: rest).reverse
          ++ '.' :: (name.reverse.takeWhile (· != '.')).reverse := by
        rw [← List.reverse_inj, List.reverse_append, List.reverse_cons, List.reverse_reverse,
          List.reverse_reverse, List.append_assoc, List.singleton_append, ← hdrop,
          List.takeWhile_append_dropWhile]
      refine ⟨(d :: rest).reverse, by simp, ?_, by rw [hname, ← hcut]⟩
      intro hmem
      simpa using mem_takeWhile (List.mem_reverse.1 hmem)
    · cases h
  · rintro ⟨stem, hstem, hdot, hname⟩
    refine ⟨_, hname, ?_⟩
    have hreverse : (stem ++ '.' :: ext).reverse = ext.reverse ++ '.' :: stem.reverse := by simp
    have hfront : ∀ c ∈ ext.reverse, c != '.' := by
      intro c hc
      rw [bne_iff_ne]
      rintro rfl
      exact hdot (List.mem_reverse.1 hc)
    rw [hreverse, dropWhile_append_eq hfront (by simp), takeWhile_append_eq hfront (by simp),
      List.reverse_reverse]
    obtain ⟨d, rest, hd⟩ := List.exists_cons_of_ne_nil (List.reverse_ne_nil_iff.2 hstem)
    rw [hd]

end Path

/-! ## Texts of files -/

/-- Whether a path leads to a file that holds a text. -/
def Files.Holds (files : Files) (path content : String) : Prop :=
  path.toList ≠ [] ∧
    files.walk (files.start path.toList) (Path.parts path.toList) = .ok (.file content.toUTF8)

theorem fromUTF8?_eq_some_iff {data : ByteArray} {text : String} :
    String.fromUTF8? data = some text ↔ data = text.toUTF8 := by
  unfold String.fromUTF8?
  constructor
  · intro h
    split at h
    · cases h
      rfl
    · cases h
  · rintro rfl
    exact dif_pos text.isValidUTF8

theorem Files.read_eq_ok_iff {files : Files} {path content : String} :
    files.read path = .ok content ↔ files.Holds path content := by
  unfold read Holds
  by_cases hempty : path.toList = []
  · simp [hempty]
  · rw [if_neg (by simpa using hempty), and_iff_right hempty]
    cases files.walk (files.start path.toList) (Path.parts path.toList) with
    | error e => simp
    | ok found =>
        cases found with
        | directory => simp
        | file data =>
            rw [Except.ok.injEq, Content.file.injEq, ← fromUTF8?_eq_some_iff]
            cases hdata : String.fromUTF8? data with
            | none => simp [hdata]
            | some text => simp [hdata]

/-- A path that starts with a slash is followed from the root, any other from the working
directory. -/
example :
    let files := Files.ofPaths "/home/me" [("a.toml", .file "x".toUTF8)]
    files.read "a.toml" = .ok "x" ∧ files.read "/home/me/../me/a.toml" = .ok "x" ∧
      files.read "/a.toml" = .error .notFound := by
  decide +kernel

namespace Locale

/-! ## Formats -/

namespace Format

/-- The extension that names a format. -/
def extension : Format → List Char
  | toml => ['t', 'o', 'm', 'l']
  | hcl => ['h', 'c', 'l']
  | json => ['j', 's', 'o', 'n']

/-- Whether a path leads to a file whose name ends in the extension of a format, with something in
front of the dot. -/
def NamedBy (format : Format) (path : String) : Prop :=
  ∃ front stem behind, stem ≠ [] ∧
    Path.parts path.toList = front ++ (stem ++ '.' :: format.extension) :: behind ∧
    ∀ part ∈ behind, Path.isIdle part = true

variable {format : Format} {path : String}

theorem ofExtension?_eq_some_iff {ext : List Char} :
    ofExtension? ext = some format ↔ ext = format.extension := by
  unfold ofExtension?
  constructor
  · intro h
    split_ifs at h with htoml hhcl hjson
    · cases h
      exact htoml
    · cases h
      exact hhcl
    · cases h
      exact hjson
  · rintro rfl
    cases format <;> decide

/-- Such a name is not one of those that lead somewhere else. -/
theorem ne_of_extension (format : Format) {stem : List Char} (h : stem ≠ []) :
    stem ++ '.' :: format.extension ≠ ['.', '.'] ∧
      Path.isIdle (stem ++ '.' :: format.extension) = false := by
  have hlength : 4 < (stem ++ '.' :: format.extension).length := by
    have hstem := List.length_pos_iff.2 h
    rw [List.length_append, List.length_cons]
    cases format <;> simp only [extension, List.length_cons, List.length_nil] <;> omega
  have hne : ∀ short : List Char, short.length ≤ 2 → stem ++ '.' :: format.extension ≠ short := by
    rintro short hshort rfl
    omega
  refine ⟨hne _ (by simp), ?_⟩
  rw [Path.isIdle, Bool.or_eq_false_iff, List.isEmpty_eq_false_iff, beq_eq_false_iff_ne]
  exact ⟨hne [] (by simp), hne ['.'] (by simp)⟩

/-- The format of a path is a matter of its file name. -/
theorem ofPath?_eq_some_iff : ofPath? path = some format ↔ format.NamedBy path := by
  rw [ofPath?, Option.bind_eq_bind, Option.bind_eq_some_iff]
  simp only [ofExtension?_eq_some_iff, exists_eq_right, Path.extension?_eq_some_iff,
    Path.fileName?_eq_some_iff]
  constructor
  · rintro ⟨stem, hstem, -, -, front, behind, hparts, -, hbehind⟩
    exact ⟨front, stem, behind, hstem, hparts, hbehind⟩
  · rintro ⟨front, stem, behind, hstem, hparts, hbehind⟩
    obtain ⟨hup, hidle⟩ := format.ne_of_extension hstem
    refine ⟨stem, hstem, ?_, hup, front, behind, hparts, hidle, hbehind⟩
    cases format <;> decide

end Format

/-! ## Loading -/

namespace Outcome

/-- What comes of loading a file, when this comes of loading its text: a last event tells of the
file, if its text was loaded. -/
def ofFile (path : String) (done : Outcome Nat) : Outcome Nat :=
  { done with events := done.events ++ done.result.toOption.toList.map (.fileLoaded path) }

variable {done : Outcome Nat} {path : String}

theorem events_ofFile_of_ok {n : Nat} (h : done.result = .ok n) :
    (done.ofFile path).events = done.events ++ [.fileLoaded path n] := by
  rw [ofFile, h]
  rfl

theorem events_ofFile_of_error {e : Error} (h : done.result = .error e) :
    (done.ofFile path).events = done.events := by
  rw [ofFile, h]
  exact List.append_nil _

end Outcome

namespace Registry

variable {decode : Decoder} {order : EntryOrder} {read : Reader} {path content : String}
variable {format : Format} {cause : ReadError} {r : Registry}

/-- Without a format nothing is read. -/
theorem loadFile_of_none (hformat : Format.ofPath? path = none) (r : Registry) :
    r.loadFile decode order read path = r.fail (.unknownFormat path) := by
  rw [loadFile, Table.readAll, hformat]

theorem loadFile_of_unreadable (hformat : Format.ofPath? path = some format)
    (hread : read path = .error cause) (r : Registry) :
    r.loadFile decode order read path = r.fail (.unreadable path cause) := by
  simp only [loadFile, Table.readAll, hformat, hread]

/-- A file that can be read is loaded like its text. -/
theorem loadFile_of_text (hformat : Format.ofPath? path = some format)
    (hread : read path = .ok content) (r : Registry) : r.loadFile decode order read path
      = (r.loadText decode order format content).ofFile path := by
  simp only [loadFile, Table.readAll, hformat, hread]
  cases hparse : Table.parseAll decode order format content with
  | error e => rw [loadText_of_error hparse]; rfl
  | ok tables => rw [loadText_of_ok hparse]; rfl

/-- A load that fails leaves everything as it was, also if a file is behind it. -/
theorem loadFile_of_result_error {e : Error}
    (h : (r.loadFile decode order read path).result = .error e) :
    r.loadFile decode order read path = r.fail e := by
  rw [loadFile] at h ⊢
  split at h
  · cases h
    rfl
  · cases h

/-- What it is for the load of a file to be that of its text: they agree, and a last event tells of
the path and of the count if the text is loaded, after all the warnings. -/
structure IsLoadOf (file text : Outcome Nat) (Decodes : Catalogue → Prop) (path : String) :
    Prop where
  result : ResultsAgree Decodes file.result text.result
  registry : file.registry = text.registry
  /-- The text is loaded. -/
  loaded : ∀ n, text.result = .ok n → file.events = text.events ++ [.fileLoaded path n]
  /-- The text cannot be loaded. -/
  failed : ∀ e, text.result = .error e → file.events = text.events
  /-- All that is reported of the text is that locales were replaced. -/
  warnings : ∀ event ∈ text.events,
    event.level = .warn ∧ event.message = "locale file overrides registered locale"

/-- The text may meet its maps in another order than the file. -/
theorem isLoadOf (hformat : Format.ofPath? path = some format) (hread : read path = .ok content)
    (r : Registry) (order order' : EntryOrder) :
    IsLoadOf (r.loadFile decode order read path) (r.loadText decode order' format content)
      (decode format content = .ok ·) path := by
  have h := r.agrees_loadText decode order order' format content
  rw [loadFile_of_text hformat hread]
  refine ⟨h.result, h.registry, fun n hn => ?_, fun e he => ?_, fun _ => warns_of_mem_events⟩
  · rw [Outcome.events_ofFile_of_ok (h.result.eq_ok_iff.2 hn), h.events]
  · cases hresult : (r.loadText decode order format content).result with
    | error e' => rw [Outcome.events_ofFile_of_error hresult, h.events]
    | ok n => cases he.symm.trans (h.result.eq_ok_iff.1 hresult)

/-- **A file is loaded like its text.**  A path whose extension names no format fails for that
reason, and nothing is read.  A path that cannot be read fails for that one.  Every other path gives
the result and the registry that its text gives in its format, and reports what the text reports;
if its text was loaded, a last event tells of the path and of the count, after all the warnings.
The decoded maps may come in one order for the file and in another for the text: then either may
report another fault of the same definition, and if they come in the same order, the results are the
same.  A load that fails leaves the registry as it was and reports nothing.

The format is a matter of how the path's last part ends, and a file is read as a text exactly if it
holds the bytes of the text. -/
theorem loadFile_agrees (decode : Decoder) (order : EntryOrder) (r : Registry) (read : Reader)
    (path : String) :
    (Format.ofPath? path = none →
      r.loadFile decode order read path = r.fail (.unknownFormat path)) ∧
    (∀ format, Format.ofPath? path = some format →
      ((¬ ∃ content, read path = .ok content) →
        ∃ cause, read path = .error cause ∧
          r.loadFile decode order read path = r.fail (.unreadable path cause)) ∧
      ∀ content, read path = .ok content →
        (∀ order', IsLoadOf (r.loadFile decode order read path)
          (r.loadText decode order' format content) (decode format content = .ok ·) path) ∧
        (r.loadFile decode order read path).result
          = (r.loadText decode order format content).result) ∧
    (∀ e, (r.loadFile decode order read path).result = .error e →
      (r.loadFile decode order read path).registry = r ∧
      (r.loadFile decode order read path).events = []) ∧
    (∀ n, (Event.fileLoaded path n).level = .info ∧
      (Event.fileLoaded path n).message = "loaded locale file") ∧
    (∀ format, Format.ofPath? path = some format ↔ format.NamedBy path) ∧
    ∀ (files : Files) (content : String),
      files.read path = .ok content ↔ files.Holds path content := by
  refine ⟨fun hformat => loadFile_of_none hformat r, fun format hformat => ⟨?_, ?_⟩, ?_,
    fun n => ⟨rfl, rfl⟩, fun format => Format.ofPath?_eq_some_iff, fun files content =>
    Files.read_eq_ok_iff⟩
  · intro hread
    cases hcause : read path with
    | ok content => exact absurd ⟨content, hcause⟩ hread
    | error cause => exact ⟨cause, rfl, loadFile_of_unreadable hformat hcause r⟩
  · intro content hread
    refine ⟨isLoadOf hformat hread r order, ?_⟩
    rw [loadFile_of_text hformat hread]
    rfl
  · intro e he
    rw [loadFile_of_result_error he]
    exact ⟨rfl, rfl⟩

/-- A reader of one file. -/
def readBaseline : Reader := fun path =>
  if path = "locales/en.json" then .ok baselineDocument else .error .notFound

theorem loadFile_agrees_baseline :
    let load := initial.loadFile .terse .given readBaseline
    (load "locales/en.json").result = .ok 1 ∧
    (load "locales/en.json").events
      = (initial.loadText .terse .given .json baselineDocument).events
        ++ [.fileLoaded "locales/en.json" 1] ∧
    load "locales/en.toml" = initial.fail (.unreadable "locales/en.toml" .notFound) ∧
    load "locales/.json" = initial.fail (.unknownFormat "locales/.json") := by
  intro load
  have hread : readBaseline "locales/en.json" = .ok baselineDocument := if_pos rfl
  have hmissing : readBaseline "locales/en.toml" = .error .notFound := if_neg (by decide)
  have hone := result_baselineDocument .given initial
  obtain ⟨hload, hresult⟩ :=
    ((loadFile_agrees .terse .given initial readBaseline "locales/en.json").2.1 .json
      (by decide +kernel)).2 baselineDocument hread
  obtain ⟨cause, hcause, hfail⟩ :=
    ((loadFile_agrees .terse .given initial readBaseline "locales/en.toml").2.1 .toml
      (by decide +kernel)).1 (by simp [hmissing])
  rw [hmissing, Except.error.injEq] at hcause
  subst hcause
  exact ⟨hresult.trans hone, (hload .given).loaded 1 hone, hfail,
    (loadFile_agrees .terse .given initial readBaseline "locales/.json").1 (by decide +kernel)⟩

end Registry

end Locale

end Elapsed
