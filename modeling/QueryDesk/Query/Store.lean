import QueryDesk.Query.Record
import QueryDesk.Sorting.Sort

/-!
# The store of query records

Records are kept in the order of their creation, each under an id of its own.  A record is
completed once: completing it again, or completing an unknown one, is a fault and changes nothing.

Ids come from a source: first those that it was given, then `q-1`, `q-2` and so on.  An id that is
taken already is skipped.
-/

set_option autoImplicit false

namespace QueryDesk

/-! ## Ids -/

/-- Where new ids come from. -/
structure IdSource where
  /-- The ids to use first. -/
  given : List Text
  /-- How many ids the source has made up itself. -/
  made : Nat

namespace IdSource

/-- The `n`-th id that the source makes up. -/
def name (n : Nat) : Text := Text.of "q-" ++ Number.digits n

/-- The first number above `n` whose id is not taken; among one number more than there are ids
taken, there is one. -/
def firstFree (taken : List Text) : Nat → Nat → Nat
  | 0, n => n + 1
  | tries + 1, n =>
    if taken.contains (name (n + 1)) then firstFree taken tries (n + 1) else n + 1

/-- The next id that is not taken. -/
def fresh (taken : List Text) (source : IdSource) : Text × IdSource :=
  match source.given.dropWhile taken.contains with
  | id :: rest => (id, { source with given := rest })
  | [] =>
    let n := firstFree taken taken.length source.made
    (name n, ⟨[], n⟩)

end IdSource

/-! ## Records -/

/-- All query records, the oldest first. -/
structure Store where
  records : List QueryRecord

namespace Store

/-- No records. -/
def empty : Store := ⟨[]⟩

/-- The record with an id. -/
def find? (s : Store) (id : Text) : Option QueryRecord := s.records.find? (·.id == id)

/-- The record with an id; without one it is a fault. -/
def get (s : Store) (id : Text) : Except Fault QueryRecord :=
  match s.find? id with
  | some r => .ok r
  | none => .error (.unknownQuery id)

/-- The ids in use. -/
def ids (s : Store) : List Text := s.records.map (·.id)

/-- Adds a record of a question. -/
def add (s : Store) (id question : Text) (createdAt : Timestamp) : QueryRecord × Store :=
  let r : QueryRecord := ⟨id, question, createdAt, .processing⟩
  (r, ⟨s.records ++ [r]⟩)

/-- Puts a record in the place of the one with its id. -/
def replace (s : Store) (r : QueryRecord) : Store :=
  ⟨s.records.map fun old => if old.id = r.id then r else old⟩

/-- Completes a record that is being processed. -/
def complete (s : Store) (id : Text) (outcome : Outcome) : Except Fault (QueryRecord × Store) :=
  match s.find? id with
  | none => .error (.unknownQuery id)
  | some r =>
    if r.outcome.isOpen then
      let r := { r with outcome }
      .ok (r, s.replace r)
    else .error (.alreadyFinished id r.outcome.status)

/-! ## Views -/

/-- Tests that a record was created before another. -/
def isOlder (r s : QueryRecord) : Except Fault Bool :=
  match r.createdAt.compare? s.createdAt with
  | some o => .ok (o == .lt)
  | none => .error .mixedClocks

/-- All records, the newest first; records of one time stand in the order of their creation. -/
def history (s : Store) : Except Fault (List QueryRecord) :=
  (Sorting.sort isOlder s.records.reverse).map List.reverse

/-- The newest records, so many of them; none for a negative count. -/
def recent (s : Store) (count : Int) : Except Fault (List QueryRecord) :=
  (s.history).map (List.take count.toNat)

end Store

end QueryDesk
