import CodeOutline.Json.Reader
import CodeOutline.Snapshot

/-!
# Snapshots as JSON

A snapshot is an object with a member for each file. The facts about a file and about an element may
be objects, in which unknown members are passed over, or arrays of their fields in order. The value
is decoded from left to right, and the first thing that is wrong is reported: a value of the wrong
shape, or the place where the text is not JSON any more.

A value that was read from a text and one that was handed over as a value differ in two rules: what
an array holds beyond the fields, and what stands in place of a kind, is a fault of the text in the
first case and of the value in the second.

## Main definitions

* `DecodeError`: why a JSON value is no snapshot, and `DecodeError.message`: how that is said
* `Snapshot.ofJson`: the snapshot a value describes
* `Snapshot.ofText`: the snapshot a JSON text describes
-/

namespace CodeOutline

/-- Why a JSON value is no snapshot. -/
inductive DecodeError where
  /-- the text is not JSON -/
  | malformed
  | wrongType (found expected : String)
  | wrongValue (found expected : String)
  | missingField (name : String)
  | duplicateField (name : String)
  | wrongLength (length : Nat) (expected : String)
deriving DecidableEq, Repr

/-- The complaint about a value; that a text is not JSON is left to the caller to say. -/
def DecodeError.message : DecodeError → String
  | .malformed => "malformed JSON"
  | .wrongType found expected => "invalid type: " ++ found ++ ", expected " ++ expected
  | .wrongValue found expected => "invalid value: " ++ found ++ ", expected " ++ expected
  | .missingField name => "missing field `" ++ name ++ "`"
  | .duplicateField name => "duplicate field `" ++ name ++ "`"
  | .wrongLength length expected =>
    "invalid length " ++ toString length ++ ", expected " ++ expected

/-- Where a JSON value comes from. -/
inductive Json.Origin where
  | text
  | value
deriving DecidableEq, Repr

namespace Json

/-- A way to decode values. -/
abbrev Decoder (α : Type) := Json → Except DecodeError α

/-- The complaint that a value is not what was expected. -/
def mismatch (value : Json) (expected : String) : DecodeError :=
  match value with
  | .broken | .unreadable => .malformed
  | value => .wrongType value.describe expected

/-- A string. -/
def decodeString : Decoder String
  | .string s => .ok s
  | value => .error (value.mismatch "a string")

/-- A boolean. -/
def decodeBool : Decoder Bool
  | .bool b => .ok b
  | value => .error (value.mismatch "a boolean")

/-- A natural number of 64 bits. -/
def decodeNat : Decoder Nat
  | .number (.natural n) => .ok n
  | .number (.negative n) => .error (.wrongValue (Number.negative n).describe "usize")
  | value => .error (value.mismatch "usize")

/-- Nothing. -/
def decodeNull : Decoder Unit
  | .null => .ok ()
  | value => .error (value.mismatch "unit")

/-- Items of one kind, in order. -/
def decodeItems {α : Type} (decode : Decoder α) : List Json → Except DecodeError (List α)
  | [] => .ok []
  | item :: items =>
    match decode item with
    | .error error => .error error
    | .ok a =>
      match decodeItems decode items with
      | .error error => .error error
      | .ok rest => .ok (a :: rest)

/-- A list of items of one kind. -/
def decodeList {α : Type} (decode : Decoder α) : Decoder (List α)
  | .array items => decodeItems decode items
  | value => .error (value.mismatch "a sequence")

/-- Passes over a value. -/
def skip (value : Json) : Except DecodeError Unit :=
  if value.isWhole then .ok () else .error .malformed

/-- What an array of fields holds beyond the last one. -/
def checkSurplus (origin : Origin) (length : Nat) : List Json → Except DecodeError Unit
  | [] => .ok ()
  | _ :: _ =>
    match origin with
    | .text => .error .malformed
    | .value => .error (.wrongLength length "fewer elements in array")

/-- Fills a field that must not be filled before. -/
def fill {α : Type} (name : String) (decode : Decoder α) (value : Json) :
    Option α → Except DecodeError (Option α)
  | some _ => .error (.duplicateField name)
  | none => (decode value).map some

/-- The next field of an array, if there is one. -/
def takeField {α : Type} (decode : Decoder α) :
    List Json → Except DecodeError (Option α × List Json)
  | [] => .ok (none, [])
  | item :: items => (decode item).map fun a => (some a, items)

end Json

/-! ### Kinds of elements -/

/-- The kind of a name; every unknown name stands for another kind. -/
def ElementKind.ofName (name : String) : ElementKind :=
  if name = "function" then .function
  else if name = "method" then .method
  else if name = "component" then .component
  else if name = "class" then .classType
  else if name = "variable" then .binding
  else if name = "import" then .importClause
  else if name = "export" then .exportClause
  else .other

/-- A kind: its name, or an object whose only member has that name and holds nothing. -/
def ElementKind.decode (origin : Json.Origin) : Json.Decoder ElementKind
  | .string name => .ok (.ofName name)
  | .object members =>
    match origin, members with
    | .text, [] => .error .malformed
    | .text, (none, _) :: _ => .error .malformed
    | .text, (some name, value) :: rest => do
      Json.decodeNull value
      if rest.isEmpty then return .ofName name else .error .malformed
    | .value, [(some name, value)] => do
      Json.decodeNull value
      return .ofName name
    | .value, _ => .error (.wrongValue "map" "map with a single key")
  | value =>
    match origin with
    | .text => .error .malformed
    | .value => .error (value.mismatch "string or map")

/-! ### Elements -/

namespace CodeElement

/-- The fields of an element that were met so far. -/
structure Fields where
  name : Option String
  kind : Option ElementKind
  line : Option Nat
  column : Option Nat
  isExported : Option Bool
  content : Option String
  calls : Option (List String)
  references : Option (List String)

/-- No field at all. -/
def Fields.none : Fields := ⟨.none, .none, .none, .none, .none, .none, .none, .none⟩

/-- The effect of a member of an object. -/
def Fields.member (origin : Json.Origin) (fields : Fields) (name : String) (value : Json) :
    Except DecodeError Fields := do
  if name = "name" then
    return { fields with name := ← Json.fill name Json.decodeString value fields.name }
  else if name = "kind" then
    return { fields with kind := ← Json.fill name (ElementKind.decode origin) value fields.kind }
  else if name = "line" then
    return { fields with line := ← Json.fill name Json.decodeNat value fields.line }
  else if name = "column" then
    return { fields with column := ← Json.fill name Json.decodeNat value fields.column }
  else if name = "isExported" then
    return { fields with isExported := ← Json.fill name Json.decodeBool value fields.isExported }
  else if name = "content" then
    return { fields with content := ← Json.fill name Json.decodeString value fields.content }
  else if name = "calls" then
    return { fields with
      calls := ← Json.fill name (Json.decodeList Json.decodeString) value fields.calls }
  else if name = "references" then
    return { fields with
      references := ← Json.fill name (Json.decodeList Json.decodeString) value fields.references }
  else
    Json.skip value
    return fields

/-- The effect of the members of an object, in order. -/
def Fields.members (origin : Json.Origin) (fields : Fields) :
    List (Option String × Json) → Except DecodeError Fields
  | [] => .ok fields
  | (.none, _) :: _ => .error .malformed
  | (some name, value) :: rest =>
    match fields.member origin name value with
    | .error error => .error error
    | .ok fields => fields.members origin rest

/-- The element that fields make; all but name and kind may be left out. -/
def Fields.element (fields : Fields) : Except DecodeError CodeElement :=
  match fields.name, fields.kind with
  | .none, _ => .error (.missingField "name")
  | _, .none => .error (.missingField "kind")
  | some name, some kind => .ok {
      name, kind
      line := fields.line.getD 0
      column := fields.column.getD 0
      isExported := fields.isExported.getD false
      content := fields.content.getD ""
      calls := fields.calls.getD []
      references := fields.references.getD [] }

/-- The element an array of fields makes. -/
def ofItems (origin : Json.Origin) (items : List Json) : Except DecodeError CodeElement := do
  let (name, rest) ← Json.takeField Json.decodeString items
  let some name := name | .error (.wrongLength 0 "struct CodeElement with 8 elements")
  let (kind, rest) ← Json.takeField (ElementKind.decode origin) rest
  let some kind := kind | .error (.wrongLength 1 "struct CodeElement with 8 elements")
  let (line, rest) ← Json.takeField Json.decodeNat rest
  let (column, rest) ← Json.takeField Json.decodeNat rest
  let (isExported, rest) ← Json.takeField Json.decodeBool rest
  let (content, rest) ← Json.takeField Json.decodeString rest
  let (calls, rest) ← Json.takeField (Json.decodeList Json.decodeString) rest
  let (references, rest) ← Json.takeField (Json.decodeList Json.decodeString) rest
  Json.checkSurplus origin items.length rest
  Fields.element ⟨some name, some kind, line, column, isExported, content, calls, references⟩

/-- An element. -/
def decode (origin : Json.Origin) : Json.Decoder CodeElement
  | .object members => do (← Fields.none.members origin members).element
  | .array items => ofItems origin items
  | value => .error (value.mismatch "struct CodeElement")

end CodeElement

/-! ### Files -/

namespace FileFacts

/-- The effect of the members of an object on the fields met so far. -/
def ofMembers (origin : Json.Origin) (elements : Option (List CodeElement))
    (contentHash : Option String) : List (Option String × Json) → Except DecodeError FileFacts
  | [] => .ok ⟨elements.getD [], contentHash.getD ""⟩
  | (none, _) :: _ => .error .malformed
  | (some name, value) :: rest =>
    if name = "elements" then
      match Json.fill name (Json.decodeList (CodeElement.decode origin)) value elements with
      | .error error => .error error
      | .ok elements => ofMembers origin elements contentHash rest
    else if name = "contentHash" then
      match Json.fill name Json.decodeString value contentHash with
      | .error error => .error error
      | .ok contentHash => ofMembers origin elements contentHash rest
    else
      match Json.skip value with
      | .error error => .error error
      | .ok _ => ofMembers origin elements contentHash rest

/-- The facts an array of fields makes. -/
def ofItems (origin : Json.Origin) (items : List Json) : Except DecodeError FileFacts := do
  let (elements, rest) ← Json.takeField (Json.decodeList (CodeElement.decode origin)) items
  let (contentHash, rest) ← Json.takeField Json.decodeString rest
  Json.checkSurplus origin items.length rest
  return ⟨elements.getD [], contentHash.getD ""⟩

/-- The facts about a file. -/
def decode (origin : Json.Origin) : Json.Decoder FileFacts
  | .object members => ofMembers origin none none members
  | .array items => ofItems origin items
  | value => .error (value.mismatch "struct FileAnalysis")

end FileFacts

/-! ### Snapshots -/

namespace Snapshot

/-- Adds the files that the members of an object describe. -/
def ofMembers (origin : Json.Origin) (snapshot : Snapshot) :
    List (Option String × Json) → Except DecodeError Snapshot
  | [] => .ok snapshot
  | (none, _) :: _ => .error .malformed
  | (some path, value) :: rest =>
    match FileFacts.decode origin value with
    | .error error => .error error
    | .ok facts => ofMembers origin (snapshot.insert path facts) rest

/-- The snapshot a value describes. -/
def decode (origin : Json.Origin) : Json.Decoder Snapshot
  | .object members => ofMembers origin .empty members
  | value => .error (value.mismatch "a map")

/-- The snapshot a value describes. The members of its objects are taken in order of their names. -/
def ofJson (value : Json) : Except DecodeError Snapshot :=
  decode .value value.sorted

/-- The snapshot a JSON text describes. -/
def ofText (text : String) : Except DecodeError Snapshot :=
  let (value, complete) := Json.read text
  match decode .text value with
  | .error error => .error error
  | .ok snapshot => if complete then .ok snapshot else .error .malformed

end Snapshot

end CodeOutline
