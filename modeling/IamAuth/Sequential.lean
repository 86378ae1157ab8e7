import IamAuth.Along
import IamAuth.Frame
import IamAuth.Interleave.Alone

/-!
# Calls that nothing interrupts

What the building blocks of the handlers do to a state when one call runs alone,
and every statement to Postgres is answered.
-/

set_option autoImplicit false

namespace IamAuth

open Interleave

/-- The result, the state and the events of one call that runs alone. -/
abbrev serve (cr : Crates) (conn : DbRole) (st : State) (t : Turn Call Choice) :
    Except Failure Response × State × List (Event Resp) :=
  t.eval (machine cr conn) (Call.body cr) st

/-- Where calls lead, one after another. -/
abbrev served (cr : Crates) (conn : DbRole) (st : State) (ts : List (Turn Call Choice)) : State :=
  play (machine cr conn) (Call.body cr) st ts

theorem served_cons (cr : Crates) (conn : DbRole) (st : State) (t : Turn Call Choice)
    (ts : List (Turn Call Choice)) :
    served cr conn st (t :: ts) = served cr conn (serve cr conn st t).2.1 ts := rfl

theorem served_snoc (cr : Crates) (conn : DbRole) (st : State) (ts : List (Turn Call Choice))
    (t : Turn Call Choice) :
    served cr conn st (ts ++ [t]) = (serve cr conn (served cr conn st ts) t).2.1 :=
  play_append st ts [t]

/-- The event is not a Postgres statement that failed. -/
def committed : Event Resp → Bool
  | ⟨.sql _, .error _⟩ => false
  | _ => true

/-- Every statement meets a choice in `P`, and Postgres answers it. -/
def Steady (P : List (Event Resp) → Choice → Prop) (_ : State) (h : List (Event Resp))
    (c : Choice) (e : Event Resp) : Prop := P h c ∧ committed e = true

/-- The statements of a turn all meet a choice in `P` and are answered. -/
def SteadyTurn (cr : Crates) (conn : DbRole) (P : Choice → Prop) (st : State)
    (t : Turn Call Choice) : Prop :=
  (∀ n, P (t.choices n)) ∧ ∀ e ∈ (serve cr conn st t).2.2, committed e = true

section Rules

variable {α : Type} {cr : Crates} {conn : DbRole} {P : List (Event Resp) → Choice → Prop}
  {st : State} {h : List (Event Resp)}

/-- A turn of which the handler's rules say how it ends. -/
theorem ends_turn {t : Turn Call Choice} (hdb : ∀ e ∈ (serve cr conn st t).2.2, committed e = true)
    {Q : Except Failure Response → State → List (Event Resp) → Prop}
    (hQ : (t.call.body cr).Ends (machine cr conn)
      (Steady fun h c => c = t.choices h.length) Q st []) :
    Q (serve cr conn st t).1 (serve cr conn st t).2.1 (serve cr conn st t).2.2 :=
  hQ.eval_choices hdb

theorem SteadyTurn.ends {P : Choice → Prop} {t : Turn Call Choice}
    (ht : SteadyTurn cr conn P st t) {Q : Except Failure Response → State → List (Event Resp) → Prop}
    (hQ : (t.call.body cr).Ends (machine cr conn) (Steady fun _ => P) Q st []) :
    Q (serve cr conn st t).1 (serve cr conn st t).2.1 (serve cr conn st t).2.2 := by
  have heval := hQ.eval_meets (Prog.meets_of_events t.choices fun n e _ he =>
    ⟨ht.1 n, ht.2 e (List.mem_of_getElem? he)⟩)
  rw [List.nil_append] at heval
  exact heval

theorem ends_sys {A : State → List (Event Resp) → Choice → Event Resp → Prop} (s : Sys)
    {Q : Except Failure (SysReply s) → State → List (Event Resp) → Prop}
    (hQ : ∀ c, A st h c ⟨.sys s, s.exec cr c⟩ → Q (.ok (s.exec cr c)) st (h ++ [⟨.sys s, s.exec cr c⟩])) :
    (sys s).Ends (machine cr conn) A Q st h := hQ

theorem ends_addSeconds {A : State → List (Event Resp) → Choice → Event Resp → Prop}
    (now : DateTime) (n : Int) {Q : Except Failure DateTime → State → List (Event Resp) → Prop}
    (hfits : FitsChrono now n → Q (.ok (now + seconds n)) st h)
    (hpanic : ¬FitsChrono now n → Q (.error .panic) st h) :
    (addSeconds now n).Ends (machine cr conn) A Q st h := by
  unfold addSeconds
  split
  · next hin => exact hfits hin
  · next hout => exact hpanic hout

theorem ends_redis {A : State → List (Event Resp) → Choice → Event Resp → Prop} (cmd : RedisCmd)
    {Q : Except Failure (RedisReply cmd) → State → List (Event Resp) → Prop}
    (hQ : ∀ c, A st h c ⟨.redis cmd, (Redis.exec c st.redis cmd).1⟩ →
      Q (.ok (Redis.exec c st.redis cmd).1) { st with redis := (Redis.exec c st.redis cmd).2 }
        (h ++ [⟨.redis cmd, (Redis.exec c st.redis cmd).1⟩])) :
    (redis cmd).Ends (machine cr conn) A Q st h := hQ

/-- The two outcomes of a statement. -/
theorem ends_attempt {A : State → List (Event Resp) → Choice → Event Resp → Prop} (s : Sql)
    {Q : Except Failure (Except DbError (Reply s)) → State → List (Event Resp) → Prop}
    (hok : ∀ c r db', A st h c ⟨.sql s, .ok r⟩ → s.exec conn c st.db = .ok (r, db') →
      Q (.ok (.ok r)) { st with db := db' } (h ++ [⟨.sql s, .ok r⟩]))
    (herror : ∀ c e, A st h c ⟨.sql s, .error e⟩ →
      (c.fails = false → s.exec conn c st.db = .error e) →
      Q (.ok (.error e)) st (h ++ [⟨.sql s, .error e⟩])) :
    (attempt s).Ends (machine cr conn) A Q st h := by
  intro c ha
  have hexec : (machine cr conn).exec (.sql s) c st =
      ((s.run conn c st.db).1, { st with db := (s.run conn c st.db).2 }) := rfl
  rw [hexec] at ha ⊢
  cases hfails : c.fails with
  | true =>
    have hrun : s.run conn c st.db = (.error .connection, st.db) := by rw [Sql.run, if_pos hfails]
    rw [hrun] at ha ⊢
    exact herror c _ ha fun hno => absurd (hfails.symm.trans hno) (by simp)
  | false =>
    rcases Sql.run_cases conn s c st.db with ⟨e, he⟩ | ⟨r, db', hx, hr⟩
    · rw [he] at ha ⊢
      refine herror c e ha fun _ => ?_
      rw [Sql.run, hfails] at he
      cases hx : s.exec conn c st.db with
      | ok x => simp [hx] at he
      | error e' => simpa [hx] using he
    · rw [hr] at ha ⊢
      exact hok c r db' ha hx

theorem ends_query {A : State → List (Event Resp) → Choice → Event Resp → Prop} (s : Sql) (f : Failure)
    {Q : Except Failure (Reply s) → State → List (Event Resp) → Prop}
    (hok : ∀ c r db', A st h c ⟨.sql s, .ok r⟩ → s.exec conn c st.db = .ok (r, db') →
      Q (.ok r) { st with db := db' } (h ++ [⟨.sql s, .ok r⟩]))
    (herror : ∀ c e, A st h c ⟨.sql s, .error e⟩ →
      (c.fails = false → s.exec conn c st.db = .error e) →
      Q (.error f) st (h ++ [⟨.sql s, .error e⟩])) :
    (query s f).Ends (machine cr conn) A Q st h :=
  .bind (ends_attempt s hok herror)

/-- A statement that Postgres refuses only when the connection is lost. -/
theorem ends_attempt_total {A : State → List (Event Resp) → Choice → Event Resp → Prop} (s : Sql)
    (f : Choice → Reply s × Db) (hf : ∀ c, s.exec conn c st.db = .ok (f c))
    {Q : Except Failure (Except DbError (Reply s)) → State → List (Event Resp) → Prop}
    (hok : ∀ c, A st h c ⟨.sql s, .ok (f c).1⟩ → c.fails = false →
      Q (.ok (.ok (f c).1)) { st with db := (f c).2 } (h ++ [⟨.sql s, .ok (f c).1⟩]))
    (hlost : ∀ c e, A st h c ⟨.sql s, .error e⟩ → c.fails = true →
      Q (.ok (.error e)) st (h ++ [⟨.sql s, .error e⟩])) :
    (attempt s).Ends (machine cr conn) A Q st h := by
  intro c ha
  have hexec : (machine cr conn).exec (.sql s) c st =
      ((s.run conn c st.db).1, { st with db := (s.run conn c st.db).2 }) := rfl
  rw [hexec] at ha ⊢
  cases hfails : c.fails with
  | true =>
    have hrun : s.run conn c st.db = (.error .connection, st.db) := by rw [Sql.run, if_pos hfails]
    rw [hrun] at ha ⊢
    exact hlost c _ ha hfails
  | false =>
    have hrun : s.run conn c st.db = (.ok (f c).1, (f c).2) := by simp [Sql.run, hfails, hf]
    rw [hrun] at ha ⊢
    exact hok c ha hfails

theorem ends_query_total {A : State → List (Event Resp) → Choice → Event Resp → Prop} (s : Sql)
    (e : Failure) (f : Choice → Reply s × Db) (hf : ∀ c, s.exec conn c st.db = .ok (f c))
    {Q : Except Failure (Reply s) → State → List (Event Resp) → Prop}
    (hok : ∀ c, A st h c ⟨.sql s, .ok (f c).1⟩ → c.fails = false →
      Q (.ok (f c).1) { st with db := (f c).2 } (h ++ [⟨.sql s, .ok (f c).1⟩]))
    (hlost : ∀ c e', A st h c ⟨.sql s, .error e'⟩ → c.fails = true →
      Q (.error e) st (h ++ [⟨.sql s, .error e'⟩])) :
    (query s e).Ends (machine cr conn) A Q st h :=
  .bind (ends_attempt_total s f hf hok hlost)

theorem steady_attempt (s : Sql)
    {Q : Except Failure (Except DbError (Reply s)) → State → List (Event Resp) → Prop}
    (hQ : ∀ c r db', P h c → s.exec conn c st.db = .ok (r, db') →
      Q (.ok (.ok r)) { st with db := db' } (h ++ [⟨.sql s, .ok r⟩])) :
    (attempt s).Ends (machine cr conn) (Steady P) Q st h :=
  ends_attempt s (fun c r db' ha hx => hQ c r db' ha.1 hx) fun _ _ ha _ => absurd ha.2 (by simp [committed])

theorem steady_query (s : Sql) (e : Failure)
    {Q : Except Failure (Reply s) → State → List (Event Resp) → Prop}
    (hQ : ∀ c r db', P h c → s.exec conn c st.db = .ok (r, db') →
      Q (.ok r) { st with db := db' } (h ++ [⟨.sql s, .ok r⟩])) :
    (query s e).Ends (machine cr conn) (Steady P) Q st h :=
  .bind (steady_attempt s hQ)

theorem steady_ignore (s : Sql)
    {Q : Except Failure Unit → State → List (Event Resp) → Prop}
    (hQ : ∀ c r db', P h c → s.exec conn c st.db = .ok (r, db') →
      Q (.ok ()) { st with db := db' } (h ++ [⟨.sql s, .ok r⟩])) :
    (ignore s).Ends (machine cr conn) (Steady P) Q st h :=
  .bind (steady_attempt s hQ)

/-- An audit event leaves the other tables alone, and its failure is ignored. -/
theorem ends_auditAs {A : State → List (Event Resp) → Choice → Event Resp → Prop} (svc : AuthSvc)
    {actorId actorEmail action target detail : String} {tenant : Option Uuid}
    {Q : Except Failure Unit → State → List (Event Resp) → Prop}
    (hQ : ∀ db' es, Frame [.auditEvents] st.db db' →
      (∀ e ∈ es, e.1 = .sql (.insertAudit actorId actorEmail action target detail tenant)) →
      Q (.ok ()) { st with db := db' } (h ++ es)) :
    (auditAs svc actorId actorEmail action target detail tenant).Ends (machine cr conn) A Q st h := by
  have hsingle : ∀ r, ∀ e ∈ ([⟨.sql (.insertAudit actorId actorEmail action target detail tenant), r⟩] :
      List (Event Resp)), e.1 = .sql (.insertAudit actorId actorEmail action target detail tenant) := by
    intro r e he
    cases List.mem_singleton.mp he
    rfl
  unfold auditAs
  split
  · refine .bind (ends_attempt _ (fun c r db' _ hx => ?_) fun c e _ _ => ?_)
    · exact hQ db' _ (Sql.exec_frame hx) (hsingle _)
    · exact hQ st.db _ (Frame.refl _ _) (hsingle _)
  · have hq := hQ st.db [] (Frame.refl _ _) (by simp)
    rwa [List.append_nil] at hq

theorem ends_delKeys {A : State → List (Event Resp) → Choice → Event Resp → Prop} (keys : List String)
    {Q : Except Failure Unit → State → List (Event Resp) → Prop}
    (hQ : ∀ redis' h', Q (.ok ()) { st with redis := redis' } h') :
    (delKeys keys).Ends (machine cr conn) A Q st h := by
  unfold delKeys
  split
  · exact hQ st.redis h
  · exact .bind (ends_redis _ fun c _ => hQ _ _)

/-- A scan deletes keys of Redis, and its failure is ignored. -/
theorem ends_scanLoop {A : State → List (Event Resp) → Choice → Event Resp → Prop} (pattern : String)
    {Q : Except Failure Unit → State → List (Event Resp) → Prop}
    (hQ : ∀ redis' h', Q (.ok ()) { st with redis := redis' } h') (fuel cursor : Nat) :
    (scanLoop pattern fuel cursor).Ends (machine cr conn) A Q st h := by
  induction fuel generalizing cursor st h with
  | zero => exact hQ st.redis h
  | succ fuel ih =>
    refine .bind (ends_redis _ fun c _ => ?_)
    rw [Prog.endsThen_ok]
    split
    · exact hQ _ _
    · next next' keys _ =>
      refine .bind (ends_delKeys keys fun redis' h' => ?_)
      rw [Prog.endsThen_ok]
      split
      · exact hQ _ _
      · apply ih
        exact hQ

theorem ends_invalidatePerms {A : State → List (Event Resp) → Choice → Event Resp → Prop} (svc : AuthSvc)
    (id : String) {Q : Except Failure Unit → State → List (Event Resp) → Prop}
    (hQ : ∀ redis' h', Q (.ok ()) { st with redis := redis' } h') :
    (invalidatePerms svc id).Ends (machine cr conn) A Q st h := by
  unfold invalidatePerms
  split
  · exact ends_scanLoop _ hQ _ _
  · exact hQ st.redis h

end Rules

end IamAuth
