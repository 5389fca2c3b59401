import MmsInbox.File.SystemError

namespace MmsInbox.File

/-!
# File errors

Why a file could not be read or removed. An error that only carries a text comes from a
collaborator that reports one.
-/

/-- Why an operation on a file failed. -/
inductive Error where
  | system (code : Nat)
  | nulInPath
  | notUtf8
  | described (text : String)
  deriving Repr, DecidableEq

namespace Error

/-- There is no such file or directory. -/
def absent : Error := .system 2

/-- A path leads through something that is not a directory. -/
def notDirectory : Error := .system 20

/-- A directory stands where a file is needed. -/
def isDirectory : Error := .system 21

/-- A part of a path, or the whole of it, is too long. -/
def nameTooLong : Error := .system 36

/-- The error as it is reported. -/
def message : Error → String
  | .system code => systemMessage code
  | .nulInPath => "file name contained an unexpected NUL byte"
  | .notUtf8 => "stream did not contain valid UTF-8"
  | .described text => text

end Error

end MmsInbox.File
