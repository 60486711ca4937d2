import CodeOutline.Keyed
import CodeOutline.Number.Shortest
import CodeOutline.Text.Quoted

/-!
# JSON values

A JSON value as a reader meets it. A text that goes wrong somewhere is not simply refused: what
stands before the damage can already be of the wrong shape, and then the shape is what is reported.
So a value read from a text may contain, in the place where the text goes wrong, a part that is
`broken`; nothing follows it. A part that is `unreadable` is well formed, but stands for nothing: a
number too large for binary64, or a string with half of a surrogate pair. It can be passed over but
not used.

## Main definitions

* `Json`: JSON values, damaged ones included
* `Json.describe`: what a value is, for a message about its type
* `Json.isWhole`: the text did not go wrong inside the value
* `Json.sorted`: the value with the members of its objects in order of their names, each name once
-/

namespace CodeOutline

/-- A JSON number. Integers that fit into 64 bits are kept, every other number is rounded. -/
inductive Json.Number where
  | natural (n : Nat)
  /-- the number `-n`, with `n` at least one -/
  | negative (n : Nat)
  | real (x : Binary64)
deriving DecidableEq, Repr

/-- A JSON value, perhaps damaged. The name of a member is absent when it is unreadable. -/
inductive Json where
  | null
  | bool (b : Bool)
  | number (n : Json.Number)
  | string (s : String)
  | array (items : List Json)
  | object (members : List (Option String × Json))
  | unreadable
  | broken

namespace Json

/-- A number as a message shows it. -/
def Number.describe : Number → String
  | .natural n => "integer `" ++ toString n ++ "`"
  | .negative n => "integer `-" ++ toString n ++ "`"
  | .real x => "floating point `" ++ x.pointed ++ "`"

/-- What a value is, for a message about its type. -/
def describe : Json → String
  | .null => "null"
  | .bool b => "boolean `" ++ (if b then "true" else "false") ++ "`"
  | .number n => n.describe
  | .string s => "string " ++ Text.quoted s
  | .array _ => "sequence"
  | .object _ => "map"
  | .unreadable | .broken => "nothing"

mutual

/-- The text did not go wrong inside the value. -/
def isWhole : Json → Bool
  | .array items => areWhole items
  | .object members => membersWhole members
  | .broken => false
  | _ => true

/-- The text did not go wrong inside one of the items. -/
def areWhole : List Json → Bool
  | [] => true
  | item :: items => isWhole item && areWhole items

/-- The text did not go wrong inside one of the members. -/
def membersWhole : List (Option String × Json) → Bool
  | [] => true
  | (_, value) :: members => isWhole value && membersWhole members

end

/-- The order of names; an unreadable one counts as empty. -/
def nameLess (a b : Option String) : Bool :=
  a.getD "" < b.getD ""

mutual

/-- The value with the members of its objects in order of their names. Where a name occurs more than
once, the last member counts. -/
def sorted : Json → Json
  | .array items => .array (sortedItems items)
  | .object members => .object (sortedMembers members [])
  | value => value

/-- The items, each sorted. -/
def sortedItems : List Json → List Json
  | [] => []
  | item :: items => sorted item :: sortedItems items

/-- The members, each sorted, put into order among those of `done`. -/
def sortedMembers : List (Option String × Json) → List (Option String × Json) →
    List (Option String × Json)
  | [], done => done
  | (name, value) :: members, done =>
    sortedMembers members (Keyed.insert nameLess name (sorted value) done)

end

end Json

end CodeOutline
