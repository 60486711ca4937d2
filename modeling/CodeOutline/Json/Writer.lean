import CodeOutline.Json

/-!
# Writing JSON

A value is written with each item and each member on a line of its own, two blanks deeper than the
brackets around it; brackets with nothing between them stay together. Members keep their order. Of
the characters of a string only those are escaped that must be.

## Main definitions

* `Json.quote`: a string between quotes
* `Json.indented`: a value over several lines
-/

namespace CodeOutline.Json

/-- A character as it stands in a string. -/
def escape (c : Char) : List Char :=
  if c = '"' then ['\\', '"']
  else if c = '\\' then ['\\', '\\']
  else if c = '\x08' then ['\\', 'b']
  else if c = '\x0C' then ['\\', 'f']
  else if c = '\n' then ['\\', 'n']
  else if c = '\r' then ['\\', 'r']
  else if c = '\t' then ['\\', 't']
  else if c.toNat < 0x20 then
    ['\\', 'u', '0', '0', Nat.digitChar (c.toNat / 16), Nat.digitChar (c.toNat % 16)]
  else [c]

/-- A string between quotes. -/
def quote (s : String) : String :=
  String.ofList ('"' :: s.toList.flatMap escape ++ ['"'])

/-- A number. Infinite numbers, and what is no number, have no written form. -/
def Number.written : Number → String
  | .natural n => toString n
  | .negative n => "-" ++ toString n
  | .real (.finite isNegative m q) => (Binary64.finite isNegative m q).pointed
  | .real _ => "null"

/-- The end of a line, and the blanks in front of the next one at a depth. -/
def lineBreak (depth : Nat) : String :=
  String.ofList ('\n' :: List.replicate (2 * depth) ' ')

mutual

/-- A value that stands between brackets of a depth. What could not be read is written as nothing.
-/
def indentedAt (depth : Nat) : Json → String
  | .null | .unreadable | .broken => "null"
  | .bool b => if b then "true" else "false"
  | .number n => n.written
  | .string s => quote s
  | .array items =>
    if items.isEmpty then "[]" else "[" ++ indentedItems (depth + 1) items ++ lineBreak depth ++ "]"
  | .object members =>
    if members.isEmpty then "\x7b\x7d"
    else "\x7b" ++ indentedMembers (depth + 1) members ++ lineBreak depth ++ "\x7d"

/-- Items on lines of their own, with commas between them. -/
def indentedItems (depth : Nat) : List Json → String
  | [] => ""
  | item :: items =>
    lineBreak depth ++ indentedAt depth item ++ (if items.isEmpty then "" else ",")
      ++ indentedItems depth items

/-- Members on lines of their own, with commas between them. -/
def indentedMembers (depth : Nat) : List (Option String × Json) → String
  | [] => ""
  | (name, value) :: members =>
    lineBreak depth ++ quote (name.getD "") ++ ": " ++ indentedAt depth value
      ++ (if members.isEmpty then "" else ",") ++ indentedMembers depth members

end

/-- A value over several lines. -/
def indented (value : Json) : String :=
  indentedAt 0 value

/-! ### Building values -/

/-- An object with the given members. -/
def record (members : List (String × Json)) : Json :=
  .object (members.map fun (name, value) => (some name, value))

/-- A natural number. -/
def ofNat (n : Nat) : Json :=
  .number (.natural n)

/-- An array of strings. -/
def ofStrings (texts : List String) : Json :=
  .array (texts.map .string)

/-- A string, or null in its absence. -/
def ofString? : Option String → Json
  | some s => .string s
  | none => .null

theorem ofString?_eq (text : Option String) : ofString? text = text.elim .null .string := by
  cases text <;> rfl

end CodeOutline.Json
