import FiscalGateway.Table
import FiscalGateway.Text.Octets

/-!
# The backing store

Records under keys, each record a table of fields. Every access is one transaction; a transaction
that writes may be refused because another one came between (`conflict`), and it is refused before
anything is changed. Conflicts and an outage can be planned.

`Transaction` lists what can be asked of a store, and `Store.run` says what a store held in memory
does. A record without fields cannot be told from a missing one by reading it.
-/

namespace FiscalGateway.Vault

/-- A named field. -/
abbrev Field := String × Octets

/-- The fields of a record. -/
abbrev Record := Table Octets

/-- Why a store refuses a transaction. -/
inductive StoreFault where
  | backend (reason : String)
  | conflict
  deriving DecidableEq, Repr

/-- The wording of a refusal. -/
def StoreFault.message : StoreFault → String
  | .backend reason => "backing store failure: " ++ reason
  | .conflict => "transaction aborted by a concurrent write"

/-- What became of a renaming. -/
inductive Renaming where
  | renamed
  | sourceMissing
  | targetExists
  deriving DecidableEq, Repr

/-- Records in memory. -/
structure Store where
  records : Table Record
  /-- How many transactions that write will meet a conflict. -/
  pendingConflicts : Nat
  available : Bool
  deriving DecidableEq

/-- What can be asked of a store, with the type of the answer. -/
inductive Transaction : Type → Type 1 where
  /-- Writes a new record, unless the key is taken. -/
  | insert (key : String) (fields : List Field) : Transaction Bool
  /-- Reads a record; a missing one has no fields. -/
  | read (key : String) : Transaction Record
  | rename (source target : String) : Transaction Renaming
  | delete (key : String) : Transaction Bool
  /-- The keys that begin with a text. -/
  | scan (start : String) : Transaction (List String)
  /-- Reads a record and writes what follows from it, or gives up. -/
  | update {ε : Type} (key : String) (change : Record → Except ε (List Field)) :
      Transaction (Except ε Unit)
  | ping : Transaction Unit

/-- Whether a text begins with another. -/
def beginsWith (start key : String) : Bool := start.toList.isPrefixOf key.toList

namespace Store

variable {α ε : Type}

/-- A store without records. -/
def empty : Store := ⟨.empty, 0, true⟩

/-- The record under a key; a missing one has no fields. -/
def record (s : Store) (key : String) : Record := (s.records.get? key).getD .empty

/-- Ends a transaction that writes: it meets a conflict if one is pending. -/
def commit (s : Store) (answer : α) (records : Table Record) : Except StoreFault α × Store :=
  match s.pendingConflicts with
  | 0 => (.ok answer, { s with records := records })
  | n + 1 => (.error .conflict, { s with pendingConflicts := n })

/-- Writes a new record, unless the key is taken. -/
def insert (s : Store) (key : String) (fields : List Field) : Except StoreFault Bool × Store :=
  if s.records.contains key then (.ok false, s)
  else s.commit true (s.records.put key (.ofList fields))

/-- Moves a record to another key, unless that is taken. -/
def rename (s : Store) (source target : String) : Except StoreFault Renaming × Store :=
  match s.records.get? source with
  | none => (.ok .sourceMissing, s)
  | some r =>
    if s.records.contains target then (.ok .targetExists, s)
    else s.commit .renamed ((s.records.erase source).put target r)

/-- Takes a record out. -/
def delete (s : Store) (key : String) : Except StoreFault Bool × Store :=
  (.ok (s.records.contains key), { s with records := s.records.erase key })

/-- Adds fields to a record as they follow from it. -/
def update (s : Store) (key : String) (change : Record → Except ε (List Field)) :
    Except StoreFault (Except ε Unit) × Store :=
  match change (s.record key) with
  | .error e => (.ok (.error e), s)
  | .ok fields => s.commit (.ok ()) (s.records.put key ((s.record key).putAll fields))

/-- What a store answers while it is in reach. -/
def answer (s : Store) : Transaction α → Except StoreFault α × Store
  | .insert key fields => s.insert key fields
  | .read key => (.ok (s.record key), s)
  | .rename source target => s.rename source target
  | .delete key => s.delete key
  | .scan start => (.ok (s.records.keys.filter (beginsWith start)), s)
  | .update key change => s.update key change
  | .ping => (.ok (), s)

/-- What a store answers, and what becomes of it. -/
def run (s : Store) (t : Transaction α) : Except StoreFault α × Store :=
  if s.available then s.answer t else (.error (.backend "connection refused"), s)

end Store
end FiscalGateway.Vault
