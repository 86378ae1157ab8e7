import IamAuth.Repo.Identity

/-!
# repo.rs: the outbox as the relay reads it
-/

set_option autoImplicit false

namespace IamAuth

/-- `payload` is the text that Postgres gives for the stored JSON. -/
structure OutboxRow where
  id : Uuid
  eventType : String
  payload : String
  deriving DecidableEq, Repr

namespace Repo

open Relational

/-- The columns that the relay selects. -/
def outboxRow (jsonbText : EventPayload → String) (o : OutboxRecord) : OutboxRow :=
  ⟨o.id, o.eventType, jsonbText o.payload⟩

/-- `WHERE published_at IS NULL ORDER BY created_at LIMIT $1`, ties in insertion order. -/
def unpublished (limit : Nat) (db : Db) : List OutboxRecord :=
  ((db.outbox.filter fun o => o.publishedAt.isNone).insertionSort fun a b =>
    a.createdAt ≤ b.createdAt).take limit

def fetchUnpublishedOutbox (jsonbText : EventPayload → String) (limit : Nat) (db : Db) :
    List OutboxRow := (unpublished limit db).map (outboxRow jsonbText)

def markOutboxPublished (c : Choice) (id : Uuid) (db : Db) : Db :=
  { db with
    outbox := updateWhere (fun o => o.id == id) (fun o => { o with publishedAt := some c.now })
      db.outbox }

end Repo

end IamAuth
