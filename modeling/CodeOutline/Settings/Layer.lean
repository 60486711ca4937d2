import CodeOutline.Keyed
import CodeOutline.Number.Numeral
import CodeOutline.Text.Case
import CodeOutline.Toml

/-!
# Layers of settings

Settings are gathered from layers: what nobody changed, what a file says, and what the caller asks
for. Each layer gives values to addresses. A later layer wins over an earlier one, but only where it
says something: tables are merged key by key, everything else is replaced. Keys of tables are small
letters.

An address is written as keys with dots between them, and an index in brackets leads into a list.

## Main definitions

* `Stored`: the values gathered so far
* `Address`: a way into them, and `Address.ofText?`: the written form
* `Stored.merge`: a value under a key
* `Stored.set`: a value at an address
* `Stored.apply`: a layer
-/

namespace CodeOutline

/-- A single value. -/
inductive Scalar where
  | nothing
  | boolean (b : Bool)
  | integer (n : Int)
  | real (x : Binary64)
  | text (s : String)
deriving DecidableEq, Repr

/-- A value gathered from layers, with the file it came from as long as it is as it was there. -/
inductive Stored where
  | scalar (value : Scalar) (file : Option String)
  | list (items : List Stored) (file : Option String)
  | table (members : List (String × Stored)) (file : Option String)

/-- A step into a value. A negative index counts from the end. -/
inductive Address.Step where
  | key (name : String)
  | index (i : Int)
deriving DecidableEq, Repr

/-- A way into a value. -/
abbrev Address := List Address.Step

/-- A layer: values and where they belong, in order. -/
abbrev Layer := List (Address × Stored)

/-! ### Addresses -/

namespace Address

/-- The characters of a key in an address. -/
def isKeyChar (c : Char) : Bool :=
  Text.isLetter c || Text.isDigit c || c = ' ' || c = '_' || c = '-'

/-- An index behind its opening bracket, and what follows its closing one. Blanks may stand around
it. -/
def readIndex (cs : List Char) : Option (Int × List Char) :=
  let cs := cs.dropWhile Toml.isGap
  let (isNegative, cs) :=
    match cs with
    | '-' :: cs => (true, cs)
    | cs => (false, cs)
  let digits := cs.takeWhile Text.isDigit
  let n : Int := Numeral.ofDigits 10 digits
  let n := if isNegative then -n else n
  match (cs.dropWhile Text.isDigit).dropWhile Toml.isGap with
  | ']' :: rest =>
    if digits.isEmpty || n < -(Int.pow 2 63) || n ≥ Int.pow 2 63 then none else some (n, rest)
  | _ => none

/-- The steps behind the first key. -/
def readSteps : (count : Nat) → List Char → Option Address
  | _, [] => some []
  | 0, _ => none
  | count + 1, '.' :: cs =>
    match cs.takeWhile isKeyChar with
    | [] => none
    | key => (readSteps count (cs.dropWhile isKeyChar)).map (.key (String.ofList key) :: ·)
  | count + 1, '[' :: cs =>
    (readIndex cs).bind fun (i, rest) => (readSteps count rest).map (.index i :: ·)
  | _, _ => none

/-- The address a text writes. -/
def ofText? (text : String) : Option Address :=
  let cs := text.toList
  match cs.takeWhile isKeyChar with
  | [] => none
  | key => (readSteps cs.length (cs.dropWhile isKeyChar)).map (.key (String.ofList key) :: ·)

/-- The address a key of a file stands for: a text that writes none is a key of its own. -/
def ofKey (key : String) : Address :=
  (ofText? key).getD [.key key]

end Address

/-! ### Values -/

namespace Stored

/-- The order of keys. -/
def keyLess (a b : String) : Bool :=
  a < b

/-- The members with a value for a key. -/
def put (key : String) (value : Stored) (members : List (String × Stored)) :
    List (String × Stored) :=
  Keyed.insert keyLess key value members

/-- No value. -/
def nothing : Stored := .scalar .nothing none

/-- The members of a table; anything else has none. -/
def members : Stored → List (String × Stored)
  | .table members _ => members
  | _ => []

/-- The items of a list; anything else has none. -/
def items : Stored → List Stored
  | .list items _ => items
  | _ => []

/-- The file a table came from; a table that takes the place of something else came from none. -/
def tableFile : Stored → Option String
  | .table _ file => file
  | _ => none

/-- The value under a key. -/
def member? (key : String) (value : Stored) : Option Stored :=
  value.members.lookup key

mutual

/-- Puts a value under a key, in small letters. A table is merged into what is there. -/
def merge (key : String) : Stored → List (String × Stored) → List (String × Stored)
  | .table incoming _, members =>
    let key := Text.lowercase key
    put key (mergeAll incoming ((members.lookup key).getD (.table [] none))) members
  | .scalar value file, members => put (Text.lowercase key) (.scalar value file) members
  | .list items file, members => put (Text.lowercase key) (.list items file) members

/-- Merges members into a value, which becomes a table if it is none and there are any. -/
def mergeAll : List (String × Stored) → Stored → Stored
  | [], value => value
  | (key, member) :: rest, value =>
    mergeAll rest (.table (merge key member value.members) value.tableFile)

end

mutual

/-- A value of a file. -/
def ofToml (file : String) : Toml → Stored
  | .text s | .moment s => .scalar (.text s) (some file)
  | .integer n => .scalar (.integer n) (some file)
  | .real x => .scalar (.real x) (some file)
  | .boolean b => .scalar (.boolean b) (some file)
  | .array items => .list (ofItems file items) (some file)
  | .table members => .table (ofMembers file members) (some file)

/-- The items of a list in a file. -/
def ofItems (file : String) : List Toml → List Stored
  | [] => []
  | item :: items => ofToml file item :: ofItems file items

/-- The members of a table in a file. -/
def ofMembers (file : String) : List (String × Toml) → List (String × Stored)
  | [] => []
  | (key, value) :: members => (key, ofToml file value) :: ofMembers file members

end

/-- Makes room for an index: the items, lengthened if need be, and where the index is among them. -/
def roomFor (i : Int) (items : List Stored) : List Stored × Nat :=
  if i ≥ 0 then (items ++ List.replicate (i.toNat + 1 - items.length) nothing, i.toNat)
  else
    let back := i.natAbs
    (List.replicate (back - items.length) nothing ++ items, items.length - back)

/-- Puts a value at an address. What stands in the way is replaced by a table or a list, as the
address has it. -/
def set (value : Stored) : Address → Stored → Stored
  | [], _ => value
  | [.key key], target => .table (merge key value target.members) target.tableFile
  | .key key :: step :: steps, target =>
    let key := Text.lowercase key
    let inner := (target.members.lookup key).getD nothing
    .table (put key (set value (step :: steps) inner) target.members) target.tableFile
  | .index i :: steps, target =>
    let (items, place) := roomFor i target.items
    let file :=
      match target with
      | .list _ file => file
      | _ => none
    .list (items.modify place (set value steps)) file

/-- Puts the values of a layer at their addresses. -/
def apply (layer : Layer) (target : Stored) : Stored :=
  layer.foldl (fun target (address, value) => set value address target) target

/-- The values of several layers, the last one winning. -/
def ofLayers (layers : List Layer) : Stored :=
  layers.foldl (fun target layer => apply layer target) (.table [] none)

end Stored

/-- The layer that the document of a file makes. -/
def Layer.ofDocument (file : String) (members : List (String × Toml)) : Layer :=
  members.map fun (key, value) => (Address.ofKey key, Stored.ofToml file value)

end CodeOutline
