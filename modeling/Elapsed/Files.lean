/-!
# Files

A path is a text of parts between slashes. Empty parts and the part `.` mean nothing to a name, so
the file a path names is its last other part, unless that part is `..`.

Reading a text file by its path is a function from paths to texts (`Reader`); `Files.read` is the
reader of a given set of files and directories. A path is followed part by part, from the root if it
starts with a slash and from the working directory if it does not; every part before another one,
and every part before a slash, has to be a directory.
-/

namespace Elapsed

/-! ## Paths -/

namespace Path

/-- The parts of a path between its slashes, empty ones included. -/
def parts : List Char → List (List Char)
  | [] => [[]]
  | '/' :: rest => [] :: parts rest
  | c :: rest =>
    match parts rest with
    | [] => [[c]]
    | part :: more => (c :: part) :: more

/-- Whether a part of a path stays where it is. -/
def isIdle (part : List Char) : Bool :=
  part.isEmpty || part == ['.']

/-- The parts of a path that do not stay where they are. -/
def names (path : List Char) : List (List Char) :=
  (parts path).filter (!isIdle ·)

/-- The name of the file that a path leads to. -/
def fileName? (path : List Char) : Option (List Char) :=
  match (names path).getLast? with
  | some ['.', '.'] => none
  | name => name

/-- What stands behind the last dot of a path's file name. A name that has no dot, or none but
the one it starts with, has no extension. -/
def extension? (path : List Char) : Option (List Char) := do
  let name ← fileName? path
  match name.reverse.dropWhile (· != '.') with
  | _ :: _ :: _ => some (name.reverse.takeWhile (· != '.')).reverse
  | _ => none

end Path

/-! ## Readers -/

/-- Why a file cannot be read as text. -/
inductive ReadError where
  | notFound
  | isDirectory
  | notDirectory
  | notUtf8
  deriving DecidableEq

/-- The reason as the operating system words it. -/
def ReadError.message : ReadError → String
  | notFound => "No such file or directory (os error 2)"
  | isDirectory => "Is a directory (os error 21)"
  | notDirectory => "Not a directory (os error 20)"
  | notUtf8 => "stream did not contain valid UTF-8"

/-- A way to read text files by their paths. -/
abbrev Reader : Type := String → Except ReadError String

/-! ## Files and directories -/

/-- What a path leads to. -/
inductive Content where
  | file (data : ByteArray)
  | directory

/-- Files and directories by the names that lead to them from the root. The directories on the way
to one need not be listed. -/
structure Files where
  /-- The names that lead to the working directory. -/
  home : List (List Char)
  entries : List (List (List Char) × Content)

namespace Files

/-- The files and directories listed under paths relative to a working directory. -/
def ofPaths (home : String) (entries : List (String × Content)) : Files where
  home := Path.names home.toList
  entries := entries.map fun e => (Path.names home.toList ++ Path.names e.1.toList, e.2)

/-- What stands at a place: what is listed there, or a directory if it is on the way to something
listed or to the working directory. -/
def at? (files : Files) (place : List (List Char)) : Option Content :=
  match files.entries.find? (·.1 == place) with
  | some e => some e.2
  | none =>
    if place.isPrefixOf files.home || files.entries.any (fun e => place.isPrefixOf e.1) then
      some .directory
    else none

/-- Follows the parts of a path from a place. The root is above itself. -/
def walk (files : Files) (place : List (List Char)) :
    List (List Char) → Except ReadError Content
  | [] =>
    match files.at? place with
    | some content => .ok content
    | none => .error .notFound
  | part :: rest =>
    match files.at? place with
    | none => .error .notFound
    | some (.file _) => .error .notDirectory
    | some .directory =>
      if Path.isIdle part then walk files place rest
      else if part == ['.', '.'] then walk files place.dropLast rest
      else walk files (place ++ [part]) rest

/-- The place that a path starts from: the root if it starts with a slash, else the working
directory. -/
def start (files : Files) (path : List Char) : List (List Char) :=
  if path.head? = some '/' then [] else files.home

/-- The text of a file. The empty path leads to nothing. -/
def read (files : Files) : Reader := fun path =>
  if path.toList.isEmpty then .error .notFound
  else
    match files.walk (files.start path.toList) (Path.parts path.toList) with
    | .error e => .error e
    | .ok .directory => .error .isDirectory
    | .ok (.file data) =>
      match String.fromUTF8? data with
      | some text => .ok text
      | none => .error .notUtf8

end Files

end Elapsed
