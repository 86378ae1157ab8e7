import IamAuth.AccountTxns
import IamAuth.Repo.Outbox

/-!
# relay.rs

Any number of relays drain the outbox while transactions add to it. Fetching,
publishing, waiting for the acknowledgement and marking are separate steps of a relay;
each may fail, which ends the drain, and a relay may stop anywhere.
-/

set_option autoImplicit false

namespace IamAuth

open Interleave Relational

/-- A message as it is handed to JetStream: its `Nats-Msg-Id`, its subject, its body. -/
structure Message where
  msgId : String
  subject : String
  body : String
  deriving DecidableEq, Repr

/-- Where a relay stands in its drain: waiting for the next tick, or at some row of the
batch with the rest of it behind. -/
inductive Relay where
  | idle
  | publish (row : OutboxRow) (rest : List OutboxRow)
  | acknowledge (row : OutboxRow) (rest : List OutboxRow)
  | mark (row : OutboxRow) (rest : List OutboxRow)
  deriving DecidableEq, Repr

/-- The head of the loop over the rows of a batch. -/
def Relay.loop : List OutboxRow → Relay
  | [] => .idle
  | row :: rest => .publish row rest

/-- The rows of the batch that are not marked yet. -/
def Relay.batch : Relay → List OutboxRow
  | .idle => []
  | .publish row rest => row :: rest
  | .acknowledge row rest => row :: rest
  | .mark row rest => row :: rest

/-- What comes of a call: it succeeds, or it fails before or after it has taken effect. -/
inductive CallOutcome where
  | succeeds
  | failsBefore
  | failsAfter
  deriving DecidableEq, Repr

def CallOutcome.tookEffect : CallOutcome → Bool
  | .failsBefore => false
  | _ => true

/-- The rest of what the relay does, if the call has succeeded. -/
def CallOutcome.andThen (r : CallOutcome) (next : Relay) : Relay :=
  match r with
  | .succeeds => next
  | _ => .idle

/-- The database with its transactions, the relays, and the messages that JetStream was
sent and has acknowledged. -/
structure OutboxWorld where
  store : AccountStore
  relays : List Relay
  sent : List Message
  acked : List Message

inductive OutboxAct where
  | txn (l : AccountLabel)
  | startRelay
  | fetch (r : Nat) (outcome : CallOutcome)
  | publish (r : Nat) (outcome : CallOutcome)
  | acknowledge (r : Nat) (outcome : CallOutcome)
  | mark (r : Nat) (c : Choice) (outcome : CallOutcome)
  | crash (r : Nat)
  deriving DecidableEq, Repr

/-- What the relay is compiled with and what it is given: `SUBJECT_PREFIX`, the text of a
stored payload, the text of an id. -/
structure RelayEnv where
  subjectPrefix : String
  jsonbText : EventPayload → String
  formatUuid : Uuid → String
  injective : Function.Injective formatUuid

def RelayEnv.message (env : RelayEnv) (row : OutboxRow) : Message :=
  ⟨env.formatUuid row.id, env.subjectPrefix ++ row.eventType, row.payload⟩

/-- The message of a stored row. -/
def RelayEnv.messageOf (env : RelayEnv) (o : OutboxRecord) : Message :=
  env.message (Repo.outboxRow env.jsonbText o)

/-- The batch of one drain. -/
def drainLimit : Nat := 100

namespace OutboxWorld

def init (db : Db) : OutboxWorld := ⟨Store.init db, [], [], []⟩

def setRelay (w : OutboxWorld) (r : Nat) (relay : Relay) : OutboxWorld :=
  { w with relays := w.relays.set r relay }

def setDb (w : OutboxWorld) (db : Db) : OutboxWorld :=
  { w with store := { w.store with state := db } }

/-- One label. A step that is not the next one of its relay does nothing. -/
def next (conn : DbRole) (env : RelayEnv) (w : OutboxWorld) : OutboxAct → OutboxWorld
  | .txn l => { w with store := AccountStore.next conn w.store l }
  | .startRelay => { w with relays := w.relays ++ [.idle] }
  | .fetch r outcome =>
    match w.relays[r]? with
    | some .idle =>
      w.setRelay r (outcome.andThen
        (.loop (Repo.fetchUnpublishedOutbox env.jsonbText drainLimit w.store.state)))
    | _ => w
  | .publish r outcome =>
    match w.relays[r]? with
    | some (.publish row rest) =>
      { w.setRelay r (outcome.andThen (.acknowledge row rest)) with
        sent := if outcome.tookEffect then w.sent ++ [env.message row] else w.sent }
    | _ => w
  | .acknowledge r outcome =>
    match w.relays[r]? with
    | some (.acknowledge row rest) =>
      { w.setRelay r (outcome.andThen (.mark row rest)) with
        acked := if outcome.tookEffect then w.acked ++ [env.message row] else w.acked }
    | _ => w
  | .mark r c outcome =>
    match w.relays[r]? with
    | some (.mark row rest) =>
      (w.setRelay r (outcome.andThen (.loop rest))).setDb
        (if outcome.tookEffect then Repo.markOutboxPublished c row.id w.store.state
          else w.store.state)
    | _ => w
  | .crash r => w.setRelay r .idle

abbrev run (conn : DbRole) (env : RelayEnv) (w : OutboxWorld) (ls : List OutboxAct) : OutboxWorld :=
  Steps.run (next conn env) w ls

variable {conn : DbRole} {env : RelayEnv} {w : OutboxWorld}

/-- What a label does, said once. -/
theorem next_cases (conn : DbRole) (env : RelayEnv) (w : OutboxWorld) (a : OutboxAct) :
    (∃ l, a = .txn l ∧ next conn env w a = { w with store := AccountStore.next conn w.store l }) ∨
    (a = .startRelay ∧ next conn env w a = { w with relays := w.relays ++ [.idle] }) ∨
    (∃ r oc, a = .fetch r oc ∧ w.relays[r]? = some .idle ∧
      next conn env w a = w.setRelay r (oc.andThen
        (.loop (Repo.fetchUnpublishedOutbox env.jsonbText drainLimit w.store.state)))) ∨
    (∃ r oc row rest, a = .publish r oc ∧ w.relays[r]? = some (.publish row rest) ∧
      next conn env w a = { w.setRelay r (oc.andThen (.acknowledge row rest)) with
        sent := if oc.tookEffect then w.sent ++ [env.message row] else w.sent }) ∨
    (∃ r oc row rest, a = .acknowledge r oc ∧ w.relays[r]? = some (.acknowledge row rest) ∧
      next conn env w a = { w.setRelay r (oc.andThen (.mark row rest)) with
        acked := if oc.tookEffect then w.acked ++ [env.message row] else w.acked }) ∨
    (∃ r c oc row rest, a = .mark r c oc ∧ w.relays[r]? = some (.mark row rest) ∧
      next conn env w a = (w.setRelay r (oc.andThen (.loop rest))).setDb
        (if oc.tookEffect then Repo.markOutboxPublished c row.id w.store.state
          else w.store.state)) ∨
    (∃ r, a = .crash r ∧ next conn env w a = w.setRelay r .idle) ∨
    next conn env w a = w := by
  cases a with
  | txn l => exact .inl ⟨l, rfl, rfl⟩
  | startRelay => exact .inr (.inl ⟨rfl, rfl⟩)
  | crash r => exact .inr (.inr (.inr (.inr (.inr (.inr (.inl ⟨r, rfl, rfl⟩))))))
  | fetch r oc =>
    simp only [next]
    split
    · next hr => exact .inr (.inr (.inl ⟨r, oc, rfl, hr, rfl⟩))
    · exact .inr (.inr (.inr (.inr (.inr (.inr (.inr rfl))))))
  | publish r oc =>
    simp only [next]
    split
    · next row rest hr => exact .inr (.inr (.inr (.inl ⟨r, oc, row, rest, rfl, hr, rfl⟩)))
    · exact .inr (.inr (.inr (.inr (.inr (.inr (.inr rfl))))))
  | acknowledge r oc =>
    simp only [next]
    split
    · next row rest hr => exact .inr (.inr (.inr (.inr (.inl ⟨r, oc, row, rest, rfl, hr, rfl⟩))))
    · exact .inr (.inr (.inr (.inr (.inr (.inr (.inr rfl))))))
  | mark r c oc =>
    simp only [next]
    split
    · next row rest hr =>
      exact .inr (.inr (.inr (.inr (.inr (.inl ⟨r, c, oc, row, rest, rfl, hr, rfl⟩)))))
    · exact .inr (.inr (.inr (.inr (.inr (.inr (.inr rfl))))))

end OutboxWorld

/-! ## The outbox table -/

section Outbox

variable {db : Db} {c : Choice} {id : Uuid} {jsonbText : EventPayload → String}

/-- A mark keeps the columns that the relay reads. -/
theorem mem_mark (jsonbText : EventPayload → String) {o' : OutboxRecord}
    (h : o' ∈ (Repo.markOutboxPublished c id db).outbox) :
    ∃ o ∈ db.outbox, Repo.outboxRow jsonbText o = Repo.outboxRow jsonbText o' ∧
      (o' = o ∨ o.id = id) := by
  obtain ⟨o, ho, rfl⟩ := mem_updateWhere.1 h
  refine ⟨o, ho, ?_⟩
  by_cases hid : o.id = id
  · simp [hid, Repo.outboxRow]
  · simp [hid]

theorem mark_mem (c : Choice) (id : Uuid) (jsonbText : EventPayload → String) {o : OutboxRecord}
    (h : o ∈ db.outbox) :
    ∃ o' ∈ (Repo.markOutboxPublished c id db).outbox,
      Repo.outboxRow jsonbText o' = Repo.outboxRow jsonbText o := by
  refine ⟨_, mem_updateWhere.2 ⟨o, h, rfl⟩, ?_⟩
  split <;> rfl

theorem mark_ids : (Repo.markOutboxPublished c id db).outbox.map (·.id) = db.outbox.map (·.id) := by
  apply map_updateWhere
  intro o ho
  rfl

theorem keys_mark (h : AccountKeys db) : AccountKeys (Repo.markOutboxPublished c id db) where
  users := h.users
  tokens := h.tokens
  events := by
    rw [mark_ids]
    exact h.events

theorem guarded_mark {t : Txn AccountTxn AccountStmt AccountWrite LockedRow Choice}
    (h : Guarded t db) : Guarded t (Repo.markOutboxPublished c id db) := by
  intro w hw
  obtain ⟨hlocks, hfits⟩ := h w hw
  refine ⟨hlocks, ?_⟩
  cases w with
  | insertOutbox row =>
    intro o' ho'
    obtain ⟨o, ho, hrow, -⟩ := mem_mark (fun _ => "") ho'
    have hid : o.id = o'.id := congrArg OutboxRow.id hrow
    rw [← hid]
    exact hfits o ho
  | _ => exact hfits

theorem mem_unpublished {limit : Nat} {o : OutboxRecord} (h : o ∈ Repo.unpublished limit db) :
    o ∈ db.outbox ∧ o.publishedAt = none := by
  have hmem := (List.mem_insertionSort _).mp (List.mem_of_mem_take h)
  simpa using hmem

end Outbox

namespace Sample

def relayEnv : RelayEnv where
  subjectPrefix := "iam."
  jsonbText p := match p with
    | .userRegistered userId email _ => userId ++ email
    | .userDeleted userId hard => userId ++ if hard then " hard" else " soft"
    | .userRestored userId => userId
  formatUuid := formatUuid
  injective := formatUuid_injective

end Sample

end IamAuth
