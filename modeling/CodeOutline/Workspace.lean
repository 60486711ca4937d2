import CodeOutline.Path
import CodeOutline.Text.Utf8

/-!
# Workspaces

A workspace is what the commands see of a disk: the contents of files by the paths that lead to
them, and the reasons why other paths cannot be read.

## Main definitions

* `ReadFailure`: why a path cannot be read, and `ReadFailure.message`: how that is said
* `Workspace`: a disk as the commands see it, and `Workspace.readText`: a file as text
* `Workspace.ofFiles`: a directory with some files in it
-/

namespace CodeOutline

/-- Why a path cannot be read. -/
inductive ReadFailure where
  | notFound
  | notDirectory
  | isDirectory
  | nameTooLong
  /-- the bytes of the file are no text -/
  | notText
  /-- another reason, in words -/
  | other (reason : String)
deriving DecidableEq, Repr

/-- A reason in words, with its number in the system's list of errors where it has one. -/
def ReadFailure.message : ReadFailure → String
  | .notFound => "No such file or directory (os error 2)"
  | .notDirectory => "Not a directory (os error 20)"
  | .isDirectory => "Is a directory (os error 21)"
  | .nameTooLong => "File name too long (os error 36)"
  | .notText => "stream did not contain valid UTF-8"
  | .other reason => reason

/-- A disk as the commands see it: the bytes that a path leads to. -/
structure Workspace where
  read : String → Except ReadFailure (List UInt8)

namespace Workspace

/-- A file as text. -/
def readText (workspace : Workspace) (path : String) : Except ReadFailure String := do
  match Utf8.decode? (← workspace.read path) with
  | some text => return text
  | none => .error .notText

/-! ### A directory with files -/

/-- A file by the names on the way to it. -/
abbrev Listing := List (List String × List UInt8)

/-- Whether names lead to a directory: on to some file. -/
def isDirectory (listing : Listing) (names : List String) : Bool :=
  names.isEmpty || listing.any fun (file, _) => names.isPrefixOf file && file != names

/-- The longest name, in bytes. -/
def longestName : Nat := 255

/-- Goes on from a directory. Nothing is known of what lies around the listed directory. -/
def follow (listing : Listing) : (way directory : List String) → Except ReadFailure (List UInt8)
  | [], _ => .error .isDirectory
  | name :: way, directory =>
    if name = "" ∨ name = "." then follow listing way directory
    else if name = ".." then
      if directory.isEmpty then .error .notFound else follow listing way directory.dropLast
    else if name.utf8ByteSize > longestName then .error .nameTooLong
    else
      let names := directory ++ [name]
      match listing.lookup names with
      | some bytes => if way.isEmpty then .ok bytes else .error .notDirectory
      | none => if isDirectory listing names then follow listing way names else .error .notFound

/-- A directory with some files in it, of which nothing else is known to exist. -/
def ofFiles (files : List (String × List UInt8)) : Workspace where
  read path :=
    if path = "" then .error .notFound
    else if path.startsWith "/" then
      if (Path.steps path).isEmpty then .error .isDirectory else .error .notFound
    else
      let way := (Text.splitWhere (· == '/') path.toList).map String.ofList
      follow (files.map fun (name, bytes) => (Path.segments name, bytes)) way []

end Workspace

end CodeOutline
