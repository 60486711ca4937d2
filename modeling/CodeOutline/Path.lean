import CodeOutline.Text.Basic

/-!
# Paths

The path of a directory or file is the names on the way to it, with slashes between them. What
belongs to a file has the path of the file, a `#` and its own name; the name is free text and may
hold slashes and `#` itself.

## Main definitions

* `Path.owningFile`: what stands before the first `#`
* `Path.directory`: what stands before the last slash
* `Path.join`: names with slashes between them
* `Path.segments`: the names that slashes set apart
* `Path.extension?`: what stands behind the last dot of a name
* `Path.normal`: a path without the parts that lead nowhere
* `Path.fileName?`, `Path.suffix?`: the name of a file on disk, and its suffix
-/

namespace CodeOutline.Path

/-- The path of the file that a path belongs to: what stands before the first `#`. -/
def owningFile (path : String) : String :=
  String.ofList (path.toList.takeWhile (· != '#'))

/-- A text without its last segment, and without the slash before it. -/
def dropSegment (cs : List Char) : List Char :=
  ((cs.reverse.dropWhile (· != '/')).drop 1).reverse

/-- What stands before the last slash; nothing if there is none. -/
def directory (path : String) : String :=
  String.ofList (dropSegment path.toList)

/-- Names with slashes between them. -/
def join (names : List String) : String :=
  "/".intercalate names

/-- The names that slashes set apart. Slashes in a row, in front and at the end set nothing apart.
-/
def segments (path : String) : List String :=
  ((Text.splitWhere (· == '/') path.toList).filter (!·.isEmpty)).map String.ofList

/-- What stands behind the last dot of a name, if it has one. -/
def extension? (name : String) : Option String :=
  if name.toList.contains '.' then
    some (String.ofList (name.toList.reverse.takeWhile (· != '.')).reverse)
  else none

/-- The number of slashes in a path. -/
def slashes (path : String) : Nat :=
  path.toList.count '/'

/-! ### Paths on disk -/

/-- The names on the way a path goes, without those of a single dot, which lead nowhere. -/
def steps (path : String) : List String :=
  (segments path).filter (· != ".")

/-- A path without the parts that lead nowhere. -/
def normal (path : String) : String :=
  (if path.startsWith "/" then "/" else "") ++ join (steps path)

/-- The name of the file a path leads to; two dots are no name. -/
def fileName? (path : String) : Option String :=
  (steps path).getLast?.filter (· != "..")

/-- What stands behind the last dot of a file's name. A dot in front of a name sets nothing apart.
-/
def suffix? (name : String) : Option String :=
  let back := name.toList.reverse
  match back.dropWhile (· != '.') with
  | _ :: _ :: _ => some (String.ofList (back.takeWhile (· != '.')).reverse)
  | _ => none

/-- Whether a path leads to a file with a suffix, in small or capital letters. -/
def hasSuffix (suffix path : String) : Bool :=
  ((fileName? path).bind suffix?).any (Text.sameLetters suffix)

/-- A path with one more suffix on the name of its file. -/
def withSuffix? (suffix path : String) : Option String :=
  (fileName? path).map fun _ => normal path ++ "." ++ suffix

end CodeOutline.Path
