import IamAuth.Relay
import IamAuth.Relational.Limit

/-!
# The outbox loses nothing

Whatever fails and whenever, a row that is marked as published has been acknowledged,
and everything published was committed.
-/

set_option autoImplicit false

namespace IamAuth

open Interleave Relational

/-- A row is still to be published, or JetStream has acknowledged its message. -/
structure Delivered (env : RelayEnv) (w : OutboxWorld) : Prop where
  rows : ∀ o ∈ w.store.state.outbox, o.publishedAt = none ∨ env.messageOf o ∈ w.acked
  messages : ∀ m ∈ w.sent, ∃ o ∈ w.store.state.outbox, m = env.messageOf o

/-- What the relays rely on between two of their steps. -/
structure RelaysSound (conn : DbRole) (env : RelayEnv) (w : OutboxWorld) : Prop where
  sound : Store.Sound (accountEngine conn) AccountTxn.body AccountKeys Guarded w.store
  batch : ∀ relay ∈ w.relays, ∀ row ∈ relay.batch,
    ∃ o ∈ w.store.state.outbox, Repo.outboxRow env.jsonbText o = row
  mark : ∀ row rest, .mark row rest ∈ w.relays → env.message row ∈ w.acked
  delivered : Delivered env w

section Steps

variable {conn : DbRole} {env : RelayEnv} {w : OutboxWorld}

theorem batch_loop (rows : List OutboxRow) : (Relay.loop rows).batch = rows := by
  cases rows <;> rfl

/-- What a relay goes on with is what it would go on with after a success, or nothing. -/
theorem mem_andThen {oc : CallOutcome} {next : Relay} {row : OutboxRow}
    (h : row ∈ (oc.andThen next).batch) : row ∈ next.batch := by
  cases oc with
  | succeeds => exact h
  | failsBefore => cases h
  | failsAfter => cases h

theorem andThen_mark {oc : CallOutcome} {next : Relay} {row : OutboxRow} {rest : List OutboxRow}
    (h : Relay.mark row rest = oc.andThen next) : next = .mark row rest ∧ oc.tookEffect = true := by
  cases oc with
  | succeeds => exact ⟨h.symm, rfl⟩
  | failsBefore => cases h
  | failsAfter => cases h

theorem RelaysSound.setRelay (h : RelaysSound conn env w) (r : Nat) {relay : Relay}
    (hbatch : ∀ row ∈ relay.batch, ∃ o ∈ w.store.state.outbox,
      Repo.outboxRow env.jsonbText o = row)
    (hmark : ∀ row rest, .mark row rest = relay → env.message row ∈ w.acked) :
    RelaysSound conn env (w.setRelay r relay) where
  sound := h.sound
  batch := by
    intro relay' hrelay'
    rcases List.mem_or_eq_of_mem_set hrelay' with hold | rfl
    · exact h.batch relay' hold
    · exact hbatch
  mark := by
    intro row rest hmem
    rcases List.mem_or_eq_of_mem_set hmem with hold | hnew
    · exact h.mark row rest hold
    · exact hmark row rest hnew
  delivered := ⟨h.delivered.rows, h.delivered.messages⟩

/-- A relay goes on with rows of its batch. -/
theorem RelaysSound.advance (h : RelaysSound conn env w) {r : Nat} {relay : Relay}
    (hr : w.relays[r]? = some relay) (oc : CallOutcome) (next : Relay) (hsub : next.batch ⊆ relay.batch)
    (hmark : ∀ row rest, next = .mark row rest → oc.tookEffect = true → env.message row ∈ w.acked) :
    RelaysSound conn env (w.setRelay r (oc.andThen next)) := by
  apply h.setRelay
  · intro row hrow
    exact h.batch relay (List.mem_of_getElem? hr) row (hsub (mem_andThen hrow))
  · intro row rest heq
    obtain ⟨hnext, heffect⟩ := andThen_mark heq
    exact hmark row rest hnext heffect

/-- More has been acknowledged, of what was published. -/
theorem RelaysSound.acked (h : RelaysSound conn env w) {acked : List Message}
    (hsub : w.acked ⊆ acked) : RelaysSound conn env { w with acked := acked } where
  sound := h.sound
  batch := h.batch
  mark row rest hmem := hsub (h.mark row rest hmem)
  delivered := ⟨fun o ho => (h.delivered.rows o ho).imp_right fun hacked => hsub hacked,
    h.delivered.messages⟩

/-- A transaction commits its row unpublished. -/
theorem RelaysSound.txn (h : RelaysSound conn env w) (l : AccountLabel) :
    RelaysSound conn env { w with store := AccountStore.next conn w.store l } := by
  have hsound := Store.sound_next (guard_account conn) l h.sound
  rcases Store.state_next (accountEngine conn) AccountTxn.body w.store l with
    ⟨hstate, -⟩ | ⟨i, t, -, ht, hrest, hstate, -⟩
  · refine ⟨hsound, ?_, h.mark, ?_, ?_⟩
    · intro relay hrelay row hrow
      rw [hstate]
      exact h.batch relay hrelay row hrow
    · rw [hstate]
      exact h.delivered.rows
    · rw [hstate]
      exact h.delivered.messages
  · have houtbox : (AccountStore.next conn w.store l).state.outbox =
        w.store.state.outbox ++ [t.call.event t.draw] := by
      rw [hstate]
      exact ran_outbox (h.sound.ran ht hrest) w.store.state
    refine ⟨hsound, ?_, h.mark, ?_, ?_⟩
    · intro relay hrelay row hrow
      obtain ⟨o, ho, heq⟩ := h.batch relay hrelay row hrow
      rw [houtbox]
      exact ⟨o, List.mem_append_left _ ho, heq⟩
    · rw [houtbox]
      intro o ho
      rcases List.mem_append.mp ho with hold | hnew
      · exact h.delivered.rows o hold
      · obtain rfl := List.mem_singleton.mp hnew
        exact .inl rfl
    · rw [houtbox]
      intro m hm
      obtain ⟨o, ho, heq⟩ := h.delivered.messages m hm
      exact ⟨o, List.mem_append_left _ ho, heq⟩

/-- A relay marks a row whose message has been acknowledged. -/
theorem RelaysSound.marked (h : RelaysSound conn env w) {row : OutboxRow}
    (hrow : ∃ o ∈ w.store.state.outbox, Repo.outboxRow env.jsonbText o = row)
    (hacked : env.message row ∈ w.acked) (c : Choice) :
    RelaysSound conn env (w.setDb (Repo.markOutboxPublished c row.id w.store.state)) := by
  refine ⟨h.sound.update (keys_mark h.sound.state) fun t => guarded_mark, ?_, h.mark, ?_, ?_⟩
  · intro relay hrelay row' hrow'
    obtain ⟨o, ho, heq⟩ := h.batch relay hrelay row' hrow'
    obtain ⟨o', ho', hsame⟩ := mark_mem c row.id env.jsonbText ho
    exact ⟨o', ho', hsame.trans heq⟩
  · intro o' ho'
    obtain ⟨o, ho, hsame, hmarked⟩ := mem_mark env.jsonbText ho'
    rcases hmarked with rfl | hid
    · exact h.delivered.rows o' ho
    · -- The id is a key, so the row that is marked is the one that was acknowledged.
      obtain ⟨o₁, ho₁, rfl⟩ := hrow
      obtain rfl : o = o₁ := List.inj_on_of_nodup_map h.sound.state.events ho ho₁ hid
      right
      rw [RelayEnv.messageOf, ← hsame]
      exact hacked
  · intro m hm
    obtain ⟨o, ho, rfl⟩ := h.delivered.messages m hm
    obtain ⟨o', ho', hsame⟩ := mark_mem c row.id env.jsonbText ho
    exact ⟨o', ho', by rw [RelayEnv.messageOf, RelayEnv.messageOf, hsame]⟩

theorem relaysSound_next (a : OutboxAct) (h : RelaysSound conn env w) :
    RelaysSound conn env (OutboxWorld.next conn env w a) := by
  rcases OutboxWorld.next_cases conn env w a with ⟨l, -, hw⟩ | ⟨-, hw⟩ | ⟨r, oc, -, hr, hw⟩ |
    ⟨r, oc, row, rest, -, hr, hw⟩ | ⟨r, oc, row, rest, -, hr, hw⟩ |
    ⟨r, c, oc, row, rest, -, hr, hw⟩ | ⟨r, -, hw⟩ | hw
  · rw [hw]
    exact h.txn l
  · rw [hw]
    refine ⟨h.sound, ?_, ?_, ⟨h.delivered.rows, h.delivered.messages⟩⟩
    · intro relay hrelay
      rcases List.mem_append.mp hrelay with hold | hnew
      · exact h.batch relay hold
      · obtain rfl := List.mem_singleton.mp hnew
        intro row hrow
        cases hrow
    · intro row rest hmem
      rcases List.mem_append.mp hmem with hold | hnew
      · exact h.mark row rest hold
      · cases List.mem_singleton.mp hnew
  · rw [hw]
    apply h.setRelay
    · intro row hrow
      have hin := mem_andThen hrow
      rw [batch_loop] at hin
      obtain ⟨o, ho, heq⟩ := List.mem_map.mp hin
      exact ⟨o, (mem_unpublished ho).1, heq⟩
    · intro row rest heq
      obtain ⟨hnext, -⟩ := andThen_mark heq
      exact absurd hnext (by cases Repo.fetchUnpublishedOutbox _ _ _ <;> simp [Relay.loop])
  · rw [hw]
    have hadvance := h.advance hr oc (.acknowledge row rest) (List.Subset.refl _)
      (fun _ _ hnext => by cases hnext)
    refine ⟨hadvance.sound, hadvance.batch, hadvance.mark, hadvance.delivered.rows, ?_⟩
    intro m hm
    split at hm
    · rcases List.mem_append.mp hm with hold | hnew
      · exact h.delivered.messages m hold
      · obtain rfl := List.mem_singleton.mp hnew
        obtain ⟨o, ho, heq⟩ := h.batch _ (List.mem_of_getElem? hr) row (by simp [Relay.batch])
        exact ⟨o, ho, by rw [RelayEnv.messageOf, heq]⟩
    · exact h.delivered.messages m hm
  · rw [hw]
    have hsub : w.acked ⊆ if oc.tookEffect then w.acked ++ [env.message row] else w.acked := by
      split
      · exact List.subset_append_left _ _
      · exact List.Subset.refl _
    refine (h.acked hsub).advance hr oc (.mark row rest) (List.Subset.refl _) ?_
    intro row' rest' hnext heffect
    cases hnext
    simp [heffect]
  · rw [hw]
    have hrow := h.batch _ (List.mem_of_getElem? hr) row (by simp [Relay.batch])
    have hacked := h.mark row rest (List.mem_of_getElem? hr)
    have hmarked : RelaysSound conn env (w.setDb
        (if oc.tookEffect then Repo.markOutboxPublished c row.id w.store.state
          else w.store.state)) := by
      split
      · exact h.marked hrow hacked c
      · exact h
    refine hmarked.advance hr oc (.loop rest) ?_ ?_
    · rw [batch_loop]
      exact List.subset_cons_self row rest
    · intro row' rest' hnext
      exact absurd hnext (by cases rest <;> simp [Relay.loop])
  · rw [hw]
    apply h.setRelay
    · intro row hrow
      cases hrow
    · intro row rest heq
      cases heq
  · rw [hw]
    exact h

end Steps

namespace Sample

end Sample

end IamAuth
