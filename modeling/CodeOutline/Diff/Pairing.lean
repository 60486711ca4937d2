import CodeOutline.Diff.Refactoring
import CodeOutline.Diff.Relocation

/-!
# Pairing the nodes of two forests

Nodes carry nothing that would identify them across two forests, so a difference first pairs old
nodes with new ones. An identity that both forests know settles the matter for the last node that
each of them has under it. The other nodes are paired by content: every new node, in the order of a
walk, takes the first old node left that has the same comparable hash, or, where neither has one,
the same identity. Content that occurs more than once is thus served in the order in which it
stands.

A pair under one identity is a modification if the hashes differ. A pair under two identities is a
relocation. Old nodes without a partner were removed; new ones without a partner were added, unless
their identity was known already or is where another node went.

All this is meant for forests whose walks visit no node twice, as those of outlines and snapshots. A
root that was attached below another node later is visited twice, and would be paired twice.

## Main definitions

* `Entry`: a node as it is compared
* `Entry.isSettled`, `settledPairs`: pairing by identity
* `pairUp`: pairing by content
* `Diff.between`: the difference between two forests
-/

namespace CodeOutline

/-- A node as it is compared. -/
structure Entry where
  id : NodeId
  node : Node
  hash : Option String
deriving DecidableEq, Repr

/-- What two entries must agree on to be paired by content: the hash if there is one, else the
identity. -/
inductive MatchKey where
  | content (hash : String)
  | place (identity : Identity)
deriving DecidableEq, Repr

/-- The nodes of a forest as they are compared, in the order of a walk, which is to visit none of
them twice. -/
def Forest.entries (forest : Forest) : List Entry :=
  forest.preorder.filterMap fun id =>
    (forest.node? id).map fun node => ⟨id, node, forest.comparableHash? id⟩

namespace Entry

/-- The identity of an entry. -/
def identity (entry : Entry) : Identity :=
  entry.node.identity

/-- What the entry is matched by. -/
def key (entry : Entry) : MatchKey :=
  match entry.hash with
  | some hash => .content hash
  | none => .place entry.identity

/-- The last entry of an identity. -/
def lastOf? (identity : Identity) : List Entry → Option Entry
  | [] => none
  | entry :: entries =>
    match lastOf? identity entries with
    | some last => some last
    | none => if entry.identity = identity then some entry else none

/-- The entry is the last of its identity among `own`, and `other` knows that identity too. -/
def isSettled (own other : List Entry) (entry : Entry) : Bool :=
  (lastOf? entry.identity own).any (·.id == entry.id) && (lastOf? entry.identity other).isSome

end Entry

/-- The pairs of entries under one identity, in the order of the new ones. -/
def settledPairs (old new : List Entry) : List (Entry × Entry) :=
  (new.filter (Entry.isSettled new old)).filterMap fun entry =>
    (Entry.lastOf? entry.identity old).map fun partner => (partner, entry)

/-- Takes the first entry with a key out of a list. -/
def takeFirst? (key : MatchKey) : List Entry → Option (Entry × List Entry)
  | [] => none
  | entry :: entries =>
    if entry.key = key then some (entry, entries)
    else (takeFirst? key entries).map fun (found, rest) => (found, entry :: rest)

/-- What pairing by content yields. -/
structure Pairing where
  /-- pairs of an old and a new entry, in the order of the new ones -/
  pairs : List (Entry × Entry)
  /-- new entries without a partner, in order -/
  arrivals : List Entry
  /-- old entries without a partner, in order -/
  departures : List Entry
deriving DecidableEq, Repr

/-- Pairs every new entry with the first old one left that has its key. -/
def pairUp : (new : List Entry) → (old : List Entry) → Pairing
  | [], old => ⟨[], [], old⟩
  | entry :: new, old =>
    match takeFirst? entry.key old with
    | some (partner, rest) =>
      let pairing := pairUp new rest
      { pairing with pairs := (partner, entry) :: pairing.pairs }
    | none =>
      let pairing := pairUp new old
      { pairing with arrivals := entry :: pairing.arrivals }

namespace Diff

/-- The modification that a pair under one identity shows, if any. -/
def modification? : Entry × Entry → Option Modification
  | (old, new) => if old.hash = new.hash then none else some ⟨old.node, new.node⟩

/-- The relocation that a pair shows, if its identities differ. -/
def relocation? (detection : MoveDetection) : Entry × Entry → Option Relocation
  | (old, new) =>
    if old.identity = new.identity then none
    else some ⟨old.node, new.node, .classify detection old.node new.node, .exact⟩

/-- The difference between two forests, given by their entries: one for each node. -/
def ofEntries (options : DiffOptions) (old new : List Entry) : Diff :=
  let pairing := pairUp (new.filter fun entry => !entry.isSettled new old)
    (old.filter fun entry => !entry.isSettled old new)
  let modified := (settledPairs old new).filterMap modification?
  let relocated := pairing.pairs.filterMap (relocation? options.moveDetection)
  let known := old.map Entry.identity ++ relocated.map (·.new.identity)
  let added := (pairing.arrivals.filter fun entry => !known.contains entry.identity).map (·.node)
  let removed := pairing.departures.map (·.node)
  let refactorings :=
    if options.detectRefactorings then Refactoring.detect added removed modified else []
  ⟨added, removed, modified, relocated, refactorings⟩

/-- The difference between an old and a new forest, in each of which a walk visits no node twice. -/
def between (options : DiffOptions) (old new : Forest) : Diff :=
  ofEntries options old.entries new.entries

end Diff

end CodeOutline
