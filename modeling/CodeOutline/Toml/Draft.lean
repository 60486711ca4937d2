import CodeOutline.Toml

/-!
# Putting a document together

A document is a sequence of entries: pairs of keys and a value, and headers that say to which table
the pairs behind them belong. Tables come into being on the way. A header makes the table it names,
and the ones around it if they are not there yet; a pair with several keys makes the ones around its
last key. How a table was made decides what may still be done to it:

* a header may name a table only once, and not one that a pair made;
* a pair may add to a table that pairs made, but not to one that a header named.

Nothing is ever given two values.

## Main definitions

* `Toml.Entry`: the entries of a document
* `Toml.Draft`: the tables as far as they are made
* `Toml.ofEntries`: the table that entries make
* `Toml.ofPairs`: the table that the pairs between braces make
-/

namespace CodeOutline.Toml

/-- An entry of a document. -/
inductive Entry where
  /-- keys, the last one apart, and a value -/
  | pair (around : List String) (key : String) (value : Toml)
  /-- the keys of a table -/
  | header (around : List String) (key : String)
  /-- the keys of an array that gets one more table -/
  | item (around : List String) (key : String)

/-- How a table was made. -/
inductive Making where
  /-- a header named it -/
  | named
  /-- it lies around a table that a header named -/
  | implied
  /-- a pair with several keys made it -/
  | dotted
deriving DecidableEq, Repr

/-- What a key stands for in a document that is not complete. -/
inductive Draft where
  | value (v : Toml)
  | table (making : Making) (members : List (String × Draft))
  /-- an array of tables, the last one apart, to which entries are added -/
  | tables (earlier : List (List (String × Draft))) (last : List (String × Draft))

namespace Draft

/-- The members with another value for a key, at the end if the key is new. -/
def put (key : String) (draft : Draft) : List (String × Draft) → List (String × Draft)
  | [] => [(key, draft)]
  | (other, old) :: members =>
    if other = key then (key, draft) :: members else (other, old) :: put key draft members

/-- Changes the table that keys lead to. A table on the way that is not there yet is made the way
`making` says; a `dotted` way may not lead through a table that a header named. -/
def within (making : Making)
    (change : Making → List (String × Draft) → Option (List (String × Draft))) :
    (keys : List String) → (own : Making) → List (String × Draft) → Option (List (String × Draft))
  | [], own, members => change own members
  | key :: keys, _, members =>
    match members.lookup key with
    | none => (within making change keys making []).map fun inner =>
        put key (.table making inner) members
    | some (.value _) => none
    | some (.table own inner) =>
      if making = .dotted ∧ own = .named then none
      else (within making change keys own inner).map fun inner => put key (.table own inner) members
    | some (.tables earlier last) =>
      (within making change keys .named last).map fun last =>
        put key (.tables earlier last) members

/-- Gives a key a value in a table, which a pair with several keys must have made, and which a pair
with one key must not find made so. -/
def assign (single : Bool) (key : String) (value : Toml) (own : Making)
    (members : List (String × Draft)) : Option (List (String × Draft)) :=
  if (own = .dotted) = single then none
  else if (members.lookup key).isSome then none
  else some (put key (.value value) members)

/-- Adds a pair to a table. -/
def addPair (around : List String) (key : String) (value : Toml) (own : Making)
    (members : List (String × Draft)) : Option (List (String × Draft)) :=
  within .dotted (assign around.isEmpty key value) around own members

/-- Makes the table that a header names. -/
def addTable (key : String) (members : List (String × Draft)) : Option (List (String × Draft)) :=
  match members.lookup key with
  | none => some (put key (.table .named []) members)
  | some (.table .implied inner) => some (put key (.table .named inner) members)
  | some _ => none

/-- Adds a table to the array that a header names. -/
def addItem (key : String) (members : List (String × Draft)) : Option (List (String × Draft)) :=
  match members.lookup key with
  | none => some (put key (.tables [] []) members)
  | some (.tables earlier last) => some (put key (.tables (earlier ++ [last]) []) members)
  | some _ => none

mutual

/-- What a key stands for once the document is complete. -/
def complete : Draft → Toml
  | .value v => v
  | .table _ members => .table (completeMembers members)
  | .tables earlier last => .array (completeTables earlier ++ [.table (completeMembers last)])

/-- The members, each complete. -/
def completeMembers : List (String × Draft) → List (String × Toml)
  | [] => []
  | (key, draft) :: members => (key, complete draft) :: completeMembers members

/-- The tables of an array, each complete. -/
def completeTables : List (List (String × Draft)) → List Toml
  | [] => []
  | members :: rest => .table (completeMembers members) :: completeTables rest

end

end Draft

/-- Adds entries to the whole document. The pairs among them belong to the table `current`. -/
def addEntries : (current : List String) → List (String × Draft) → List Entry →
    Option (List (String × Draft))
  | _, members, [] => some members
  | current, members, .pair around key value :: entries => do
    let members ←
      Draft.within .implied (Draft.addPair around key value) current .named members
    addEntries current members entries
  | _, members, .header around key :: entries => do
    let members ← Draft.within .implied (fun _ => Draft.addTable key) around .named members
    addEntries (around ++ [key]) members entries
  | _, members, .item around key :: entries => do
    let members ← Draft.within .implied (fun _ => Draft.addItem key) around .named members
    addEntries (around ++ [key]) members entries

/-- The table that the entries of a document make. -/
def ofEntries (entries : List Entry) : Option (List (String × Toml)) :=
  (addEntries [] [] entries).map Draft.completeMembers

/-- Adds the pairs between braces to their table. -/
def addPairs : List (String × Draft) → List (List String × String × Toml) →
    Option (List (String × Draft))
  | members, [] => some members
  | members, (around, key, value) :: pairs => do
    let members ← Draft.addPair around key value .named members
    addPairs members pairs

/-- The table that the pairs between braces make. -/
def ofPairs (pairs : List (List String × String × Toml)) : Option Toml :=
  (addPairs [] pairs).map fun members => .table (Draft.completeMembers members)

end CodeOutline.Toml
