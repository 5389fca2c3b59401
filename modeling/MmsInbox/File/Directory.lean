import MmsInbox.Bytes
import MmsInbox.File.Error

namespace MmsInbox.File

/-!
# The working directory

Files and folders below the working directory, found by path. A path is a row of names between
slashes. The empty name and `.` stay where they are, `..` leads to the folder above, and any other
name leads to an entry of the folder. What lies outside the working directory is taken to be empty.
-/

/-- What a path can lead to. -/
inductive Entry where
  | file (content : Bytes)
  | folder
  deriving DecidableEq

/-- Where an entry stands: the names on the way from the working directory. -/
abbrev Place :=
  List String

/-- The files and folders below the working directory. -/
structure Directory where
  entries : List (Place × Entry)
  deriving DecidableEq

/-- The longest name of an entry, in bytes. -/
def maxNameLength : Nat :=
  255

/-- The length in bytes from which a path is too long. -/
def maxPathLength : Nat :=
  4096

/-- The place of the file system's root, which is outside the working directory. -/
def rootPlace : Place :=
  ["/"]

/-- The names of a path. -/
def names (path : String) : List String :=
  path.splitOn "/"

/-- The place above a place. Above the working directory there is only the outside. -/
def above (place : Place) : Place :=
  if place = rootPlace then rootPlace
  else if place.all (· == "..") then place ++ [".."]
  else place.dropLast

namespace Directory

/-- A directory without entries. -/
def empty : Directory :=
  ⟨[]⟩

/-- The entry at a place. The working directory and the folders above it are always there. -/
def entry?
    (directory : Directory)
    (place : Place) :
    Option Entry :=
  if place = rootPlace || place.all (· == "..") then some .folder
  else directory.entries.lookup place

/-- Put an entry at a place, replacing what is there. -/
def put
    (directory : Directory)
    (place : Place)
    (entry : Entry) :
    Directory :=
  ⟨(place, entry) :: directory.entries.filter (·.1 ≠ place)⟩

/-- Take the entry at a place away. -/
def erase
    (directory : Directory)
    (place : Place) :
    Directory :=
  ⟨directory.entries.filter (·.1 ≠ place)⟩

/-- Follow names from a place. Whatever is passed through has to be a folder. -/
def follow
    (directory : Directory) :
    Place → List String → Except Error Place
  | place, [] => .ok place
  | place, name :: rest =>
      match directory.entry? place with
      | none => .error .absent
      | some (.file _) => .error .notDirectory
      | some .folder =>
          if name = "" ∨ name = "." then directory.follow place rest
          else if name = ".." then directory.follow (above place) rest
          else if maxNameLength < name.utf8ByteSize then .error .nameTooLong
          else directory.follow (place ++ [name]) rest

/-- The place that a path leads to, whether or not there is an entry. -/
def resolve
    (directory : Directory)
    (path : String) :
    Except Error Place :=
  if path.contains '\x00' then .error .nulInPath
  else if path = "" then .error .absent
  else if maxPathLength ≤ path.utf8ByteSize then .error .nameTooLong
  else directory.follow (if path.startsWith "/" then rootPlace else []) (names path)

/-- A path leads to an entry. -/
def holds
    (directory : Directory)
    (path : String) :
    Bool :=
  match directory.resolve path with
  | .ok place => (directory.entry? place).isSome
  | .error _ => false

/-- The place of the file that a path leads to, and its content. -/
def file
    (directory : Directory)
    (path : String) :
    Except Error (Place × Bytes) :=
  match directory.resolve path with
  | .error error => .error error
  | .ok place =>
      match directory.entry? place with
      | none => .error .absent
      | some .folder => .error .isDirectory
      | some (.file content) => .ok (place, content)

/-- Read a file. -/
def read
    (directory : Directory)
    (path : String) :
    Except Error Bytes :=
  (directory.file path).map (·.2)

/-- Read a file as text. -/
def readText
    (directory : Directory)
    (path : String) :
    Except Error String :=
  match directory.read path with
  | .error error => .error error
  | .ok content =>
      match content.text? with
      | some text => .ok text
      | none => .error .notUtf8

/-- Remove a file. -/
def remove
    (directory : Directory)
    (path : String) :
    Except Error Unit × Directory :=
  match directory.file path with
  | .error error => (.error error, directory)
  | .ok (place, _) => (.ok (), directory.erase place)

/-- Make an entry at the end of a path, if the folder it belongs to is there. -/
def make
    (directory : Directory)
    (path : String)
    (entry : Entry) :
    Directory :=
  match directory.resolve path with
  | .ok place => directory.put place entry
  | .error _ => directory

/-- Make sure that a path leads nowhere. -/
def discard
    (directory : Directory)
    (path : String) :
    Directory :=
  match directory.resolve path with
  | .ok place => directory.erase place
  | .error _ => directory

end Directory

end MmsInbox.File
