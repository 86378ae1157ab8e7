import IamAuth.Delivery

/-!
# The order of the events of one user

One relay that never fails publishes every row once. It takes the rows in the order in
which their transactions began, so that the order of the commits is kept exactly as far
as a transaction that commits began after those whose rows still wait.
-/

set_option autoImplicit false

namespace IamAuth

open Interleave Relational

/-- Nothing of what the relay does fails, and there is no other. -/
def OutboxAct.Faultless : OutboxAct → Prop
  | .txn _ => True
  | .startRelay => False
  | .fetch _ oc => oc = .succeeds
  | .publish _ oc => oc = .succeeds
  | .acknowledge _ oc => oc = .succeeds
  | .mark _ _ oc => oc = .succeeds
  | .crash _ => False

instance : DecidablePred OutboxAct.Faultless := fun a => by
  cases a <;> unfold OutboxAct.Faultless <;> infer_instance

/-- A transaction commits later than it began all rows of its user that wait for a
later drain. -/
def BeganLast (w : OutboxWorld) : OutboxAct → Bool
  | .txn (.commit i) =>
    match w.store.txns[i]? with
    | some t => w.store.state.outbox.all fun o =>
      o.aggregateId != t.call.id || o.publishedAt.isSome ||
        w.relays.any (fun relay => relay.batch.any fun row => row.id == o.id) ||
        decide (o.createdAt < t.draw.now)
    | none => true
  | _ => true

/-- The message of a committed transaction. -/
def RelayEnv.committed (env : RelayEnv) (x : AccountTxn × Choice) : Message :=
  env.messageOf (x.1.event x.2)

/-- Of two transactions of one user, the event of the one that has committed first is
published first. -/
def PublishedInOrder (env : RelayEnv) (w : OutboxWorld) : Prop :=
  ∀ x y, Before w.store.commits x y → x.1.id = y.1.id →
    ∀ xs ys, w.sent = xs ++ env.committed y :: ys → env.committed x ∈ xs

/-- The rows of the batch that are not published yet. -/
def Relay.unsent : Relay → List OutboxRow
  | .idle => []
  | .publish row rest => row :: rest
  | .acknowledge _ rest => rest
  | .mark _ rest => rest

/-- The messages of the relay: those it has published, and those it is about to. -/
def line (env : RelayEnv) (w : OutboxWorld) (relay : Relay) : List Message :=
  w.sent ++ relay.unsent.map env.message

/-- One relay, and where the rows stand in its line. -/
structure Queued (conn : DbRole) (env : RelayEnv) (w : OutboxWorld) (relay : Relay) : Prop where
  sound : RelaysSound conn env w
  only : w.relays = [relay]
  nodup : (line env w relay).Nodup
  mem : ∀ o ∈ w.store.state.outbox, env.messageOf o ∈ line env w relay ↔
    o.publishedAt ≠ none ∨ Repo.outboxRow env.jsonbText o ∈ relay.batch
  order : ∀ a b, Before w.store.state.outbox a b → a.aggregateId = b.aggregateId →
    env.messageOf b ∈ line env w relay →
      Before (line env w relay) (env.messageOf a) (env.messageOf b)
  waiting : ∀ a b, Before w.store.state.outbox a b → a.aggregateId = b.aggregateId →
    env.messageOf a ∉ line env w relay → a.createdAt < b.createdAt

section Steps

variable {conn : DbRole} {env : RelayEnv} {w : OutboxWorld} {relay : Relay}

theorem messageOf_inj {db : Db} (hkeys : AccountKeys db) {a b : OutboxRecord} (ha : a ∈ db.outbox)
    (hb : b ∈ db.outbox) (h : env.messageOf a = env.messageOf b) : a = b :=
  List.inj_on_of_nodup_map hkeys.events ha hb (env.injective (congrArg Message.msgId h))

theorem outboxRow_inj {db : Db} (hkeys : AccountKeys db) {a b : OutboxRecord} (ha : a ∈ db.outbox)
    (hb : b ∈ db.outbox) (h : Repo.outboxRow env.jsonbText a = Repo.outboxRow env.jsonbText b) :
    a = b := List.inj_on_of_nodup_map hkeys.events ha hb (congrArg OutboxRow.id h)

/-- What stands in the line in the order of the table is published in that order. -/
theorem Queued.inOrder (h : Queued conn env w relay) {a b : OutboxRecord}
    (hbefore : Before w.store.state.outbox a b) (huser : a.aggregateId = b.aggregateId)
    {xs ys : List Message} (hsent : w.sent = xs ++ env.messageOf b :: ys) :
    env.messageOf a ∈ xs := by
  have hline : line env w relay =
      xs ++ env.messageOf b :: (ys ++ relay.unsent.map env.message) := by
    simp [line, hsent]
  have horder := h.order a b hbefore huser (by simp [hline])
  have hnodup := h.nodup
  rw [hline] at horder hnodup
  rcases List.mem_append.mp horder.left with hin | hafter
  · exact hin
  · rcases List.mem_cons.mp hafter with heq | hlater
    · exact absurd heq (horder.ne hnodup)
    · have hback : Before (env.messageOf b :: (ys ++ relay.unsent.map env.message))
          (env.messageOf b) (env.messageOf a) := before_cons.2 (.inr ⟨rfl, hlater⟩)
      exact absurd (hback.mono (List.sublist_append_right xs _)) (horder.asymm hnodup)

theorem unsent_subset (relay : Relay) : relay.unsent ⊆ relay.batch := by
  cases relay with
  | idle => exact List.Subset.refl _
  | publish row rest => exact List.Subset.refl _
  | acknowledge row rest => exact List.subset_cons_self row rest
  | mark row rest => exact List.subset_cons_self row rest

theorem Queued.mem_batch (h : Queued conn env w relay) {row : OutboxRow} (hrow : row ∈ relay.batch) :
    ∃ o ∈ w.store.state.outbox, Repo.outboxRow env.jsonbText o = row :=
  h.sound.batch relay (by simp [h.only]) row hrow

/-- The messages of the line are those of committed rows. -/
theorem Queued.mem_line (h : Queued conn env w relay) {m : Message} (hm : m ∈ line env w relay) :
    ∃ o ∈ w.store.state.outbox, m = env.messageOf o := by
  rcases List.mem_append.mp hm with hsent | hunsent
  · exact h.sound.delivered.messages m hsent
  · obtain ⟨row, hrow, rfl⟩ := List.mem_map.mp hunsent
    obtain ⟨o, ho, rfl⟩ := h.mem_batch (unsent_subset relay hrow)
    exact ⟨o, ho, rfl⟩

/-- A step that moves nothing in the line. -/
theorem Queued.of_line (h : Queued conn env w relay) {w' : OutboxWorld} {relay' : Relay}
    (hsound : RelaysSound conn env w') (honly : w'.relays = [relay'])
    (houtbox : w'.store.state.outbox = w.store.state.outbox)
    (hline : line env w' relay' = line env w relay) (hbatch : relay'.batch = relay.batch) :
    Queued conn env w' relay' := by
  refine ⟨hsound, honly, ?_, ?_, ?_, ?_⟩
  · rw [hline]
    exact h.nodup
  · rw [hline, hbatch, houtbox]
    exact h.mem
  · rw [hline, houtbox]
    exact h.order
  · rw [hline, houtbox]
    exact h.waiting

/-- A transaction that commits has begun after every row of its user that waits. -/
theorem Queued.txn (h : Queued conn env w relay) (l : AccountLabel)
    (hbegan : BeganLast w (.txn l) = true) :
    Queued conn env { w with store := AccountStore.next conn w.store l } relay := by
  have hsound := h.sound.txn l
  rcases Store.state_next (accountEngine conn) AccountTxn.body w.store l with
    ⟨hstate, -⟩ | ⟨i, t, rfl, ht, hrest, hstate, -⟩
  · exact h.of_line hsound h.only (congrArg Db.outbox hstate) rfl rfl
  · have houtbox : (AccountStore.next conn w.store (.commit i)).state.outbox =
        w.store.state.outbox ++ [t.call.event t.draw] := by
      rw [hstate]
      exact ran_outbox (h.sound.sound.ran ht hrest) w.store.state
    have hkeys := hsound.sound.state
    have hnew : ∀ o ∈ w.store.state.outbox, o.id ≠ (t.call.event t.draw).id := by
      have hnodup := hkeys.events
      rw [houtbox, List.map_append] at hnodup
      intro o ho heq
      exact List.disjoint_of_nodup_append hnodup (List.mem_map_of_mem ho) (by simp [heq])
    have hout : env.messageOf (t.call.event t.draw) ∉ line env w relay := by
      intro hin
      obtain ⟨o, ho, heq⟩ := h.mem_line hin
      exact hnew o ho (env.injective (congrArg Message.msgId heq)).symm
    have hbatch : Repo.outboxRow env.jsonbText (t.call.event t.draw) ∉ relay.batch := by
      intro hin
      obtain ⟨o, ho, heq⟩ := h.mem_batch hin
      exact hnew o ho (congrArg OutboxRow.id heq)
    refine ⟨hsound, h.only, h.nodup, ?_, ?_, ?_⟩
    · rw [houtbox]
      intro o ho
      rcases List.mem_append.mp ho with hold | hlast
      · exact h.mem o hold
      · obtain rfl := List.mem_singleton.mp hlast
        refine iff_of_false hout ?_
        intro hor
        rcases hor with hpublished | hin
        · exact hpublished rfl
        · exact hbatch hin
    · rw [houtbox]
      intro a b hbefore huser hb
      rcases before_concat.1 hbefore with hold | ⟨-, rfl⟩
      · exact h.order a b hold huser hb
      · exact absurd hb hout
    · rw [houtbox]
      intro a b hbefore huser ha
      rcases before_concat.1 hbefore with hold | ⟨hin, rfl⟩
      · exact h.waiting a b hold huser ha
      · have hwaits := (h.mem a hin).not.mp ha
        have hcond := hbegan
        simp only [BeganLast, ht.1, h.only, List.all_eq_true, Bool.or_eq_true, bne_iff_ne,
          List.any_cons, List.any_nil, Bool.or_false, List.any_eq_true, beq_iff_eq,
          decide_eq_true_eq] at hcond
        rcases hcond a hin with ((hother | hpublished) | ⟨row, hrow, hid⟩) | hearlier
        · exact absurd huser hother
        · exact absurd (.inl (Option.isSome_iff_ne_none.mp hpublished)) hwaits
        · obtain ⟨o, ho, rfl⟩ := h.mem_batch hrow
          obtain rfl : o = a := List.inj_on_of_nodup_map h.sound.sound.state.events ho hin hid
          exact absurd (.inr hrow) hwaits
        · exact hearlier

theorem unsent_loop (rows : List OutboxRow) : (Relay.loop rows).unsent = rows := by
  cases rows <;> rfl

theorem outbox_nodup {db : Db} (hkeys : AccountKeys db) : db.outbox.Nodup := hkeys.events.of_map _

theorem unpublished_nodup {db : Db} (hkeys : AccountKeys db) (n : Nat) :
    (Repo.unpublished n db).Nodup := by
  have hfilter := (outbox_nodup hkeys).filter fun o => o.publishedAt.isNone
  have hsorted := ((List.perm_insertionSort (fun a b : OutboxRecord => a.createdAt ≤ b.createdAt)
    (db.outbox.filter fun o => o.publishedAt.isNone)).nodup_iff).mpr hfilter
  exact hsorted.sublist (List.take_sublist _ _)

/-- A drain starts with the rows that wait, in the order in which their transactions
began. -/
theorem Queued.fetch (h : Queued conn env w .idle) {w' : OutboxWorld}
    (hsound : RelaysSound conn env w') (hstate : w'.store.state = w.store.state)
    (hsent : w'.sent = w.sent) (honly : w'.relays =
      [.loop (Repo.fetchUnpublishedOutbox env.jsonbText drainLimit w.store.state)]) :
    Queued conn env w' (.loop (Repo.fetchUnpublishedOutbox env.jsonbText drainLimit
      w.store.state)) := by
  have hkeys := h.sound.sound.state
  have hidle : ∀ o ∈ w.store.state.outbox, env.messageOf o ∈ w.sent ↔ o.publishedAt ≠ none := by
    intro o ho
    have hmem := h.mem o ho
    simpa [line, Relay.unsent, Relay.batch] using hmem
  have hline : line env w' (.loop (Repo.fetchUnpublishedOutbox env.jsonbText drainLimit
      w.store.state)) = w.sent ++ (Repo.unpublished drainLimit w.store.state).map env.messageOf := by
    rw [line, unsent_loop, hsent, Repo.fetchUnpublishedOutbox, List.map_map]
    rfl
  have hfetched : ∀ {o}, o ∈ w.store.state.outbox →
      (env.messageOf o ∈ (Repo.unpublished drainLimit w.store.state).map env.messageOf ↔
        o ∈ Repo.unpublished drainLimit w.store.state) := by
    intro o ho
    refine ⟨fun hin => ?_, List.mem_map_of_mem⟩
    obtain ⟨o', ho', heq⟩ := List.mem_map.mp hin
    exact messageOf_inj hkeys (mem_unpublished ho').1 ho heq ▸ ho'
  refine ⟨hsound, honly, ?_, ?_, ?_, ?_⟩
  · rw [hline]
    refine List.nodup_append.mpr ⟨by simpa [line, Relay.unsent] using h.nodup, ?_, ?_⟩
    · refine (unpublished_nodup hkeys _).map_on ?_
      intro a ha b hb heq
      exact messageOf_inj hkeys (mem_unpublished ha).1 (mem_unpublished hb).1 heq
    · intro m hm m' hm' heq
      obtain ⟨o, ho, rfl⟩ := List.mem_map.mp hm'
      obtain ⟨hin, hnone⟩ := mem_unpublished ho
      exact (hidle o hin).mp (heq ▸ hm) hnone
  · rw [hstate, hline, batch_loop]
    intro o ho
    rw [List.mem_append, hidle o ho, hfetched ho, Repo.fetchUnpublishedOutbox]
    refine or_congr Iff.rfl ⟨List.mem_map_of_mem, fun hin => ?_⟩
    obtain ⟨o', ho', heq⟩ := List.mem_map.mp hin
    exact outboxRow_inj hkeys (mem_unpublished ho').1 ho heq ▸ ho'
  · rw [hstate, hline]
    intro a b hbefore huser hb
    by_cases ha : env.messageOf a ∈ w.sent
    · rcases List.mem_append.mp hb with hsent | hnew
      · have hold := h.order a b hbefore huser (List.mem_append_left _ hsent)
        exact hold.mono (by simp [line, Relay.unsent])
      · exact before_append ha hnew
    · have hwaiting := h.waiting a b hbefore huser (by simpa [line, Relay.unsent] using ha)
      have hb' : b ∈ Repo.unpublished drainLimit w.store.state := by
        rcases List.mem_append.mp hb with hsent | hnew
        · have hold := h.order a b hbefore huser (List.mem_append_left _ hsent)
          exact absurd (by simpa [line, Relay.unsent] using hold.left) ha
        · exact (hfetched hbefore.right).mp hnew
      have hwaits : a ∈ w.store.state.outbox.filter fun o => o.publishedAt.isNone := by
        have hnone : a.publishedAt = none := by
          by_contra hpublished
          exact ha ((hidle a hbefore.left).mpr hpublished)
        simp [hbefore.left, hnone]
      have hbatch := before_limit OutboxRecord.createdAt hwaits ((outbox_nodup hkeys).filter _)
        hwaiting hb'
      exact (hbatch.map env.messageOf).mono (List.sublist_append_right _ _)
  · rw [hstate, hline]
    intro a b hbefore huser ha
    apply h.waiting a b hbefore huser
    intro hin
    exact ha (List.mem_append_left _ (by simpa [line, Relay.unsent] using hin))

/-- What a mark leaves of a row: everything but `published_at`. -/
theorem before_mark (env : RelayEnv) {c : Choice} {id : Uuid} {db : Db} {a' b' : OutboxRecord}
    (h : Before (Repo.markOutboxPublished c id db).outbox a' b') :
    ∃ a b, Before db.outbox a b ∧ env.messageOf a = env.messageOf a' ∧
      env.messageOf b = env.messageOf b' ∧ a.aggregateId = a'.aggregateId ∧
      b.aggregateId = b'.aggregateId ∧ a.createdAt = a'.createdAt ∧ b.createdAt = b'.createdAt := by
  obtain ⟨a, b, hab, rfl, rfl⟩ := Before.of_map h
  refine ⟨a, b, hab, ?_, ?_, ?_, ?_, ?_, ?_⟩ <;> split <;> rfl

/-- The relay marks the row that it has published, and goes on. -/
theorem Queued.mark {row : OutboxRow} {rest : List OutboxRow}
    (h : Queued conn env w (.mark row rest)) {w' : OutboxWorld} (hsound : RelaysSound conn env w')
    (c : Choice) (hstate : w'.store.state = Repo.markOutboxPublished c row.id w.store.state)
    (hsent : w'.sent = w.sent) (honly : w'.relays = [.loop rest]) :
    Queued conn env w' (.loop rest) := by
  have hline : line env w' (.loop rest) = line env w (.mark row rest) := by
    rw [line, unsent_loop, hsent]
    rfl
  refine ⟨hsound, honly, ?_, ?_, ?_, ?_⟩
  · rw [hline]
    exact h.nodup
  · rw [hstate, hline, batch_loop]
    intro o' ho'
    obtain ⟨o, ho, rfl⟩ := mem_updateWhere.1 ho'
    have hmem := h.mem o ho
    by_cases hid : o.id = row.id
    · obtain ⟨o₁, ho₁, hrow⟩ := h.mem_batch (List.mem_cons_self (a := row))
      obtain rfl : o = o₁ := List.inj_on_of_nodup_map h.sound.sound.state.events ho ho₁
        (hid.trans (congrArg OutboxRow.id hrow).symm)
      rw [if_pos (beq_iff_eq.mpr hid)]
      exact iff_of_true (hmem.mpr (.inr (by simp [Relay.batch, hrow]))) (.inl (by simp))
    · have hne : Repo.outboxRow env.jsonbText o ≠ row := fun heq => hid (congrArg OutboxRow.id heq)
      rw [if_neg (by simpa using hid), hmem]
      simp [Relay.batch, hne]
  · rw [hstate, hline]
    intro a' b' hbefore huser hb
    obtain ⟨a, b, hab, ha, hb', hua, hub, -, -⟩ := before_mark env hbefore
    rw [← ha, ← hb']
    rw [← hb'] at hb
    exact h.order a b hab (hua.trans (huser.trans hub.symm)) hb
  · rw [hstate, hline]
    intro a' b' hbefore huser ha'
    obtain ⟨a, b, hab, ha, -, hua, hub, hca, hcb⟩ := before_mark env hbefore
    rw [← hca, ← hcb]
    rw [← ha] at ha'
    exact h.waiting a b hab (hua.trans (huser.trans hub.symm)) ha'

theorem relay_zero {relay' : Relay} {r : Nat} (h : w.relays = [relay])
    (hr : w.relays[r]? = some relay') : r = 0 ∧ relay' = relay := by
  rw [h] at hr
  cases r with
  | zero => exact ⟨rfl, (Option.some.inj hr).symm⟩
  | succ r => cases hr

theorem queued_next {a : OutboxAct} (hfaultless : a.Faultless) (hbegan : BeganLast w a = true)
    (h : ∃ relay, Queued conn env w relay) :
    ∃ relay, Queued conn env (OutboxWorld.next conn env w a) relay := by
  obtain ⟨relay, h⟩ := h
  have hsound := relaysSound_next a h.sound
  rcases OutboxWorld.next_cases conn env w a with ⟨l, rfl, hw⟩ | ⟨rfl, -⟩ | ⟨r, oc, rfl, hr, hw⟩ |
    ⟨r, oc, row, rest, rfl, hr, hw⟩ | ⟨r, oc, row, rest, rfl, hr, hw⟩ |
    ⟨r, c, oc, row, rest, rfl, hr, hw⟩ | ⟨r, rfl, -⟩ | hw
  · exact ⟨relay, h.txn l hbegan⟩
  · exact hfaultless.elim
  · obtain rfl : oc = .succeeds := hfaultless
    obtain ⟨rfl, rfl⟩ := relay_zero h.only hr
    rw [hw] at hsound ⊢
    exact ⟨_, h.fetch hsound rfl rfl (by simp [OutboxWorld.setRelay, h.only, CallOutcome.andThen])⟩
  · obtain rfl : oc = .succeeds := hfaultless
    obtain ⟨rfl, rfl⟩ := relay_zero h.only hr
    rw [hw] at hsound ⊢
    refine ⟨.acknowledge row rest, h.of_line hsound ?_ rfl ?_ rfl⟩
    · simp [OutboxWorld.setRelay, h.only, CallOutcome.andThen]
    · simp [line, Relay.unsent, CallOutcome.tookEffect]
  · obtain rfl : oc = .succeeds := hfaultless
    obtain ⟨rfl, rfl⟩ := relay_zero h.only hr
    rw [hw] at hsound ⊢
    refine ⟨.mark row rest, h.of_line hsound ?_ rfl rfl rfl⟩
    simp [OutboxWorld.setRelay, h.only, CallOutcome.andThen]
  · obtain rfl : oc = .succeeds := hfaultless
    obtain ⟨rfl, rfl⟩ := relay_zero h.only hr
    rw [hw] at hsound ⊢
    refine ⟨.loop rest, h.mark hsound c rfl rfl ?_⟩
    simp [OutboxWorld.setRelay, OutboxWorld.setDb, h.only, CallOutcome.andThen]
  · exact hfaultless.elim
  · rw [hw]
    exact ⟨relay, h⟩

end Steps

/-- A database and one relay. -/
def OutboxWorld.single (db : Db) : OutboxWorld := { OutboxWorld.init db with relays := [.idle] }

/-- The columns of a row that a mark leaves alone. -/
def OutboxRecord.asInserted (o : OutboxRecord) : OutboxRecord := { o with publishedAt := none }

/-- The outbox is in the order of the commits. -/
def CommitOrder (w : OutboxWorld) : Prop :=
  w.store.state.outbox.map OutboxRecord.asInserted = w.store.commits.map fun x => x.1.event x.2

section Runs

variable {conn : DbRole} {env : RelayEnv} {w : OutboxWorld}

theorem commitOrder_next (a : OutboxAct) (hsound : RelaysSound conn env w) (h : CommitOrder w) :
    CommitOrder (OutboxWorld.next conn env w a) := by
  rcases OutboxWorld.next_cases conn env w a with ⟨l, -, hw⟩ | ⟨-, hw⟩ | ⟨r, oc, -, -, hw⟩ |
    ⟨r, oc, row, rest, -, -, hw⟩ | ⟨r, oc, row, rest, -, -, hw⟩ |
    ⟨r, c, oc, row, rest, -, -, hw⟩ | ⟨r, -, hw⟩ | hw
  · rw [hw]
    rcases Store.state_next (accountEngine conn) AccountTxn.body w.store l with
      ⟨hstate, hcommits⟩ | ⟨i, t, -, ht, hrest, hstate, hcommits⟩
    · simp only [CommitOrder, hstate, hcommits]
      exact h
    · have houtbox : (AccountStore.next conn w.store l).state.outbox =
          w.store.state.outbox ++ [t.call.event t.draw] := by
        rw [hstate]
        exact ran_outbox (hsound.sound.ran ht hrest) w.store.state
      simp only [CommitOrder, houtbox, hcommits, List.map_append, List.map_cons, List.map_nil]
      rw [show w.store.state.outbox.map OutboxRecord.asInserted = _ from h]
      rfl
  · rw [hw]
    exact h
  · rw [hw]
    exact h
  · rw [hw]
    exact h
  · rw [hw]
    exact h
  · rw [hw]
    cases oc with
    | failsBefore => exact h
    | _ =>
      have hsame : (Repo.markOutboxPublished c row.id w.store.state).outbox.map
          OutboxRecord.asInserted = w.store.state.outbox.map OutboxRecord.asInserted := by
        apply map_updateWhere
        intro o ho
        rfl
      exact hsame.trans h
  · rw [hw]
    exact h
  · rw [hw]
    exact h

/-- With one relay that does not fail, the events of a user are published in the order of
the commits, as long as a transaction only commits when it began after all those of its user
whose rows wait. -/
theorem published_inOrder (conn : DbRole) (env : RelayEnv) {db : Db} (hkeys : AccountKeys db)
    (hempty : db.outbox = []) {ls : List OutboxAct}
    (hls : Steps.Each (OutboxWorld.next conn env) (fun w a => a.Faultless ∧ BeganLast w a = true)
      (OutboxWorld.single db) ls) :
    PublishedInOrder env (OutboxWorld.run conn env (OutboxWorld.single db) ls) := by
  have hinv : (∃ relay, Queued conn env
        (OutboxWorld.run conn env (OutboxWorld.single db) ls) relay) ∧
      CommitOrder (OutboxWorld.run conn env (OutboxWorld.single db) ls) := by
    apply hls.run_inv (I := fun w => (∃ relay, Queued conn env w relay) ∧ CommitOrder w)
    · intro w a ha h
      obtain ⟨⟨relay, hqueued⟩, hcommits⟩ := h
      exact ⟨queued_next ha.1 ha.2 ⟨relay, hqueued⟩, commitOrder_next a hqueued.sound hcommits⟩
    · have hnone : ∀ o, o ∉ (OutboxWorld.single db).store.state.outbox := by
        intro o ho
        rw [show (OutboxWorld.single db).store.state.outbox = db.outbox from rfl, hempty] at ho
        cases ho
      refine ⟨⟨.idle, ⟨Store.sound_init hkeys, ?_, ?_, ⟨?_, ?_⟩⟩, rfl, List.nodup_nil, ?_, ?_, ?_⟩, ?_⟩
      · intro relay hrelay row hrow
        obtain rfl := List.mem_singleton.mp hrelay
        cases hrow
      · intro row rest hmem
        cases List.mem_singleton.mp hmem
      · exact fun o ho => absurd ho (hnone o)
      · intro m hm
        cases hm
      · exact fun o ho => absurd ho (hnone o)
      · exact fun a b hbefore => absurd hbefore.left (hnone a)
      · exact fun a b hbefore => absurd hbefore.left (hnone a)
      · exact congrArg (List.map OutboxRecord.asInserted) hempty
  obtain ⟨⟨relay, hqueued⟩, hcommits⟩ := hinv
  intro x y hbefore huser xs ys hsent
  have hevents := hbefore.map fun x : AccountTxn × Choice => x.1.event x.2
  rw [← hcommits] at hevents
  obtain ⟨a, b, hab, ha, hb⟩ := Before.of_map hevents
  have hma : env.messageOf a = env.committed x := by
    rw [RelayEnv.committed, ← ha]
    rfl
  have hmb : env.messageOf b = env.committed y := by
    rw [RelayEnv.committed, ← hb]
    rfl
  rw [← hma]
  rw [← hmb] at hsent
  apply hqueued.inOrder hab _ hsent
  exact (congrArg OutboxRecord.aggregateId ha).trans
    (huser.trans (congrArg OutboxRecord.aggregateId hb).symm)

end Runs

namespace Sample

/-- One drain over two rows. -/
def drainTwo : List OutboxAct :=
  [.fetch 0 .succeeds, .publish 0 .succeeds, .acknowledge 0 .succeeds, .mark 0 (choice 9 0 "") .succeeds,
    .publish 0 .succeeds, .acknowledge 0 .succeeds, .mark 0 (choice 9 0 "") .succeeds]

theorem published_inOrder_removal :
    PublishedInOrder relayEnv (OutboxWorld.run .superuser relayEnv (OutboxWorld.single migrated)
      ((wholeTxn 0 signUp (choice 0 100 "") ++ wholeTxn 1 removal (choice 1 101 "")).map .txn ++
        drainTwo)) :=
  published_inOrder .superuser relayEnv accountKeys rfl (by decide)

/-- The deletion begins first and commits last. -/
def overtaking : List AccountLabel :=
  .start removal (choice 1 101 "") :: wholeTxn 1 restoration (choice 2 102 "") ++
    [.stmt 0, .stmt 0, .stmt 0, .commit 0]

def overtakenEvents : OutboxWorld :=
  OutboxWorld.run .superuser relayEnv
    (OutboxWorld.single { migrated with users := [newUser 10 "u@iam.local" "password"] })
    (overtaking.map .txn ++ drainTwo)

theorem overtakenEvents_outOfOrder : ¬PublishedInOrder relayEnv overtakenEvents := by
  intro h
  have hcommits : overtakenEvents.store.commits =
      [(restoration, choice 2 102 ""), (removal, choice 1 101 "")] := by decide
  have hsent : overtakenEvents.sent = [] ++ relayEnv.committed (removal, choice 1 101 "") ::
      [relayEnv.committed (restoration, choice 2 102 "")] := by decide
  have hbefore : Before overtakenEvents.store.commits (restoration, choice 2 102 "")
      (removal, choice 1 101 "") := by
    rw [hcommits]
    exact List.Sublist.refl _
  cases h _ _ hbefore rfl _ _ hsent

end Sample

end IamAuth
