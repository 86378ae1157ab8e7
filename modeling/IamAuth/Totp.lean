import IamAuth.Along
import IamAuth.Frame

/-!
# The second factor under concurrent calls

enroll_totp, activate_totp and disable_totp read the user row, decide, and then
write with an unconditional `UPDATE`. `TotpRule` says what each of them has read
and checked when it writes; the columns of the row are a fold over the log, so
what a write meets is the last write since that read.
-/

set_option autoImplicit false

namespace IamAuth

open Interleave Relational

/-- The calls that use a user's second factor. -/
def Call.isTotp : Call → Bool
  | .rpc _ _ .enrollTotp => true
  | .rpc _ _ (.activateTotp _) => true
  | .rpc _ _ (.disableTotp _) => true
  | .rpc _ _ (.loginTotp _) => true
  | _ => false

abbrev TotpCall := {k : Call // k.isTotp = true}

def TotpCall.body (cr : Crates) (k : TotpCall) : Handler Response := k.1.body cr

abbrev TotpWorld := Pool TotpCall Resp Failure Response State

abbrev TotpAct := Label TotpCall Choice Outage

/-! ## What a call has done when it writes -/

def readsUser : Event Resp → Bool
  | ⟨.sql (.getUserById _), _⟩ => true
  | _ => false

/-- The code was valid for the secret in the row of `u` that the call has read, or it was an
unused recovery code of `u`, which the call has spent. -/
def showsCode (cr : Crates) (svc : AuthSvc) (u : Uuid) (code : String)
    (h : List (Event Resp)) : Prop :=
  (∃ row secret, ⟨.sql (.getUserById u), .ok (some row)⟩ ∈ h ∧
    row.totpSecret.bind (svc.totpEnc.decrypt cr) = some secret ∧
    ⟨.sys (.validateTotp code secret), true⟩ ∈ h) ∨
  ⟨.sql (.consumeRecoveryCode u (hashToken cr code)), .ok true⟩ ∈ h

/-- What the history `h` of call `k` says when it issues a statement. -/
def TotpRule (cr : Crates) (k : Call) (h : List (Event Resp)) : Op → Prop
  | .sql (.getUserById _) => ∀ e ∈ h, readsUser e = false
  | .sql (.setTotpSecret u _) => ∃ svc md row, k = .rpc svc md .enrollTotp ∧
      ⟨.sql (.getUserById u), .ok (some row)⟩ ∈ h ∧ row.totpEnabled = false
  | .sql (.enableTotp u) => ∃ svc md req row secret, k = .rpc svc md (.activateTotp req) ∧
      ⟨.sql (.getUserById u), .ok (some row)⟩ ∈ h ∧
      row.totpSecret.bind (svc.totpEnc.decrypt cr) = some secret ∧
      ⟨.sys (.validateTotp req.code secret), true⟩ ∈ h ∧
      ∀ other, ⟨.sys (.validateTotp req.code other), true⟩ ∈ h → other = secret
  | .sql (.disableTotp u) => ∃ svc md req, k = .rpc svc md (.disableTotp req) ∧
      showsCode cr svc u req.code h
  | .sql (.createUserWithRole ..) => False
  | .sql (.createUserWithRoleEvent ..) => False
  | .sql (.deleteUserEventSoft ..) => False
  | _ => True

/-- Statements that neither read the user row nor write its second factor. -/
def Calm : Op → Prop
  | .sql (.getUserById _) => False
  | .sql (.setTotpSecret ..) => False
  | .sql (.enableTotp _) => False
  | .sql (.disableTotp _) => False
  | .sql (.createUserWithRole ..) => False
  | .sql (.createUserWithRoleEvent ..) => False
  | .sql (.deleteUserEventSoft ..) => False
  | _ => True

theorem Calm.rule {cr : Crates} {k : Call} {o : Op} (ho : Calm o) (h : List (Event Resp)) :
    TotpRule cr k h o := by
  cases o with
  | sql s => cases s <;> first | exact ho.elim | trivial
  | redis c => trivial
  | sys s => trivial

theorem SignIn.calm (o : Op) (h : SignIn o) : Calm o := by
  cases o with
  | sql s => cases s <;> first | exact h.elim | trivial
  | redis c => trivial
  | sys s => trivial

theorem Check.calm (o : Op) (h : Check o) : Calm o := (h.signIn o).calm o

def totpMonitor (cr : Crates) (k : Call) : Monitor Resp (List (Event Resp)) :=
  .history fun h e => TotpRule cr k h e.1

section Handlers

variable (cr : Crates) (svc : AuthSvc) (md : MetadataMap) (k : Call) (h : List (Event Resp))

@[simp] theorem totpMonitor_upd (e : Event Resp) : (totpMonitor cr k).upd h e = h ++ [e] := rfl

@[simp] theorem totpMonitor_ok (e : Event Resp) :
    (totpMonitor cr k).ok h e = TotpRule cr k h e.1 := rfl

theorem along_calm {α : Type} {p : Handler α} (hp : p.Emits Calm) :
    p.Along (totpMonitor cr k) (fun _ _ => True) h :=
  hp.along_of (fun g _ he => he.rule g) h

/-- From some point on a call is calm. -/
theorem along_calm_then {α β : Type} {p : Handler α} {f : α → Handler β}
    (hp : (p >>= f).Emits Calm) :
    p.Along (totpMonitor cr k) (Prog.Then (totpMonitor cr k) (fun _ _ => True) f) h :=
  (Prog.along_bind _ _ _ p f).mp (along_calm cr k h hp)

theorem along_enrollTotp :
    (enrollTotp cr svc md).Along (totpMonitor cr (.rpc svc md .enrollTotp)) (fun _ _ => True) [] := by
  simp [enrollTotp, TotpRule]
  intro uid _ user henabled _ _ _ _ _ _ _
  refine ⟨fun _ => ⟨henabled, fun _ => along_calm_then cr _ _ ?_⟩, fun _ => henabled⟩
  refine .bind (Prog.emits_forEach (fun code => ?_) _) fun _ => ?_
  · simp [Prog.Emits, Calm]
  · simp [audit, Prog.Emits, Calm]

theorem along_activateTotp (req : CodeRequest) :
    (activateTotp cr svc md req).Along (totpMonitor cr (.rpc svc md (.activateTotp req)))
      (fun _ _ => True) [] := by
  simp only [activateTotp, Prog.along_bind]
  simp [audit, TotpRule]
  intro uid _ user stored hstored secret hsecret
  have hread : user.totpSecret.bind (svc.totpEnc.decrypt cr) = some secret := by
    rw [hstored, Option.bind_some, hsecret]
  exact ⟨hread, fun _ => hread⟩

theorem along_disableTotp (req : CodeRequest) :
    (disableTotp cr svc md req).Along (totpMonitor cr (.rpc svc md (.disableTotp req)))
      (fun _ _ => True) [] := by
  simp [disableTotp, checkCode, checkTotp, TotpRule]
  intro uid _ user _
  cases hsecret : user.totpSecret.bind (svc.totpEnc.decrypt cr) with
  | none => simp [audit, TotpRule, showsCode]
  | some secret =>
    simp only [along_sys, totpMonitor_ok, totpMonitor_upd, Prog.then_ok]
    intro valid
    cases valid with
    | true => simp [audit, TotpRule, showsCode, hsecret]
    | false => simp [audit, TotpRule, showsCode]

theorem along_loginTotp (req : LoginTotpRequest) :
    (loginTotp cr svc req).Along (totpMonitor cr k) (fun _ _ => True) [] := by
  simp [loginTotp, TotpRule]
  intro parsed claims _ _ uid _
  refine ⟨fun found => ⟨rfl, fun user _ _ => along_calm_then cr k _ ?_⟩, fun _ => rfl⟩
  refine .bind ((check_refuseIfLocked user).imp Check.calm) fun _ => ?_
  refine .bind ((check_checkCode cr _ _ _).imp Check.calm) fun ok => ?_
  split
  · refine .bind ((check_countFailure cr svc _ _ _).imp Check.calm) fun _ => ?_
    simp [Prog.Emits, Calm]
  · refine .bind (by simp [Prog.Emits, Calm]) fun _ => ?_
    refine .bind (by simp [Prog.Emits, Calm]) fun _ => ?_
    exact (signIn_issueForActiveTenant cr svc _ _).imp SignIn.calm

end Handlers

theorem along_totpBody (cr : Crates) (k : TotpCall) :
    (k.body cr).Along (totpMonitor cr k.1) (fun _ _ => True) [] := by
  obtain ⟨k, hk⟩ := k
  cases k with
  | rpc svc md r =>
    cases r <;> try exact (Bool.false_ne_true hk).elim
    case loginTotp req => exact along_wrap _ (along_loginTotp cr svc _ req)
    case enrollTotp => exact along_wrap _ (along_enrollTotp cr svc md)
    case activateTotp req => exact along_wrap _ (along_activateTotp cr svc md req)
    case disableTotp req => exact along_wrap _ (along_disableTotp cr svc md req)
  | start env => cases hk
  | profileCreationFailed userId reason => cases hk

/-! ## The columns as a fold over the log -/

/-- `totp_secret` and `totp_enabled` of user `u`, if it exists. -/
def totpOf (u : Uuid) (st : State) : Option (Option String × Bool) :=
  (Repo.getUserById u st.db).map fun x => (x.totpSecret, x.totpEnabled)

def totpUpd (u : Uuid) (b : Option (Option String × Bool)) :
    Event Resp → Option (Option String × Bool)
  | ⟨.sql (.setTotpSecret v secret), .ok _⟩ => if v = u then b.map fun _ => (some secret, false) else b
  | ⟨.sql (.enableTotp v), .ok _⟩ => if v = u then b.map fun p => (p.1, true) else b
  | ⟨.sql (.disableTotp v), .ok _⟩ => if v = u then b.map fun _ => (none, false) else b
  | _ => b

/-- What a committed statement stores as the secret of `u`. -/
def secretWrite (u : Uuid) : Event Resp → Option (Option String)
  | ⟨.sql (.setTotpSecret v secret), .ok _⟩ => if v = u then some (some secret) else none
  | ⟨.sql (.disableTotp v), .ok _⟩ => if v = u then some none else none
  | _ => none

/-- What a committed statement stores as `totp_enabled` of `u`. -/
def enabledWrite (u : Uuid) : Event Resp → Option Bool
  | ⟨.sql (.setTotpSecret v _), .ok _⟩ => if v = u then some false else none
  | ⟨.sql (.enableTotp v), .ok _⟩ => if v = u then some true else none
  | ⟨.sql (.disableTotp v), .ok _⟩ => if v = u then some false else none
  | _ => none

/-- An update of one user row, as the columns see it. -/
theorem totpOf_updateUser {u id : Uuid} {f : UserRow → UserRow} {b : Option String × Bool →
    Option String × Bool} (hid : ∀ x, (f x).id = x.id)
    (hb : ∀ x, ((f x).totpSecret, (f x).totpEnabled) = b (x.totpSecret, x.totpEnabled))
    (db : Db) (redis : Redis) :
    totpOf u ⟨Repo.updateUser id f db, redis⟩ =
      if id = u then (totpOf u ⟨db, redis⟩).map b else totpOf u ⟨db, redis⟩ := by
  have hfind : Repo.getUserById u (Repo.updateUser id f db) =
      (Repo.getUserById u db).map fun x => if x.id == id then f x else x :=
    find?_updateWhere (fun x _ => by rw [hid]) db.users
  unfold totpOf
  rw [hfind]
  cases hx : Repo.getUserById u db with
  | none => simp
  | some x =>
    have hxu := getUserById_id hx
    by_cases h : id = u
    · simp [h, hxu, hb]
    · have : x.id ≠ id := fun hx => h (hx.symm.trans hxu)
      simp [h, this]

/-- An update that keeps both columns. -/
theorem totpOf_keep {u id : Uuid} {f : UserRow → UserRow} (hid : ∀ x, (f x).id = x.id)
    (hsecret : ∀ x, (f x).totpSecret = x.totpSecret)
    (henabled : ∀ x, (f x).totpEnabled = x.totpEnabled) (db : Db) (redis : Redis) :
    totpOf u ⟨Repo.updateUser id f db, redis⟩ = totpOf u ⟨db, redis⟩ := by
  rw [totpOf_updateUser hid (fun x => Prod.ext (hsecret x) (henabled x)) db redis (b := fun p => p)]
  simp

theorem totpOf_frame {ts : List Table} {db db' : Db} (h : Frame ts db db') (hn : .users ∉ ts)
    (u : Uuid) (redis : Redis) : totpOf u ⟨db', redis⟩ = totpOf u ⟨db, redis⟩ := by
  simp only [totpOf, Repo.getUserById, h.users hn]

/-- Statements that neither create nor delete users. -/
def KeepsUsers : Op → Prop
  | .sql (.createUserWithRole ..) => False
  | .sql (.createUserWithRoleEvent ..) => False
  | .sql (.deleteUserEventSoft ..) => False
  | _ => True

theorem TotpRule.keepsUsers {cr : Crates} {k : Call} {h : List (Event Resp)} {o : Op}
    (ho : TotpRule cr k h o) : KeepsUsers o := by
  cases o with
  | sql s => cases s <;> first | exact ho.elim | trivial
  | redis c => trivial
  | sys s => trivial

theorem totpOf_exec {conn : DbRole} {c : Choice} {s : Sql} {db db' : Db} {r : Reply s}
    (hs : KeepsUsers (.sql s)) (h : s.exec conn c db = .ok (r, db')) (u : Uuid) (redis : Redis) :
    totpOf u ⟨db', redis⟩ = totpUpd u (totpOf u ⟨db, redis⟩) ⟨.sql s, .ok r⟩ := by
  by_cases hw : .users ∈ s.writes
  · cases s <;> first | exact hs.elim | skip
    case setTotpSecret id secret =>
      cases h
      exact totpOf_updateUser (by simp) (by simp) db redis
    case enableTotp id =>
      cases h
      exact totpOf_updateUser (by simp) (by simp) db redis
    case disableTotp id =>
      cases h
      exact totpOf_updateUser (by simp) (by simp) db redis
    case lockUser id until_ =>
      cases h
      exact totpOf_keep (by simp) (by simp) (by simp) db redis
    case resetLoginState id =>
      cases h
      exact totpOf_keep (by simp) (by simp) (by simp) db redis
    case markEmailVerified id =>
      cases h
      exact totpOf_keep (by simp) (by simp) (by simp) db redis
    case updatePassword id hash =>
      cases h
      exact totpOf_keep (by simp) (by simp) (by simp) db redis
    case incrementLoginFailure id =>
      simp only [Sql.exec, Repo.incrementLoginFailure] at h
      split at h
      · cases h
      · split at h <;> cases h
        exact totpOf_keep (by simp) (by simp) (by simp) db redis
    case restoreUserEvent id eventType payload =>
      have h := restoreUserEvent_ok h
      rw [totpOf_frame (frame_insertOutbox h) (by simp) u redis]
      exact totpOf_keep (by simp) (by simp) (by simp) db redis
    all_goals simp [Sql.writes] at hw
  · have hsame := totpOf_frame (Sql.exec_frame h) hw u redis
    cases s <;> first | exact hsame | exact (hw (by simp [Sql.writes])).elim

theorem totpColumn (cr : Crates) (conn : DbRole) (u : Uuid) :
    Pool.Column (machine cr conn) KeepsUsers (totpOf u) (totpUpd u) where
  exec o c s ho := by
    cases o with
    | redis r => rfl
    | sys r => rfl
    | sql q =>
      obtain ⟨db, redis⟩ := s
      rcases Sql.run_cases conn q c db with ⟨e, he⟩ | ⟨r, db', hx, hr⟩
      · change totpOf u ⟨(q.run conn c db).2, redis⟩ = totpUpd u _ ⟨.sql q, (q.run conn c db).1⟩
        rw [he]
        cases q <;> rfl
      · change totpOf u ⟨(q.run conn c db).2, redis⟩ = totpUpd u _ ⟨.sql q, (q.run conn c db).1⟩
        rw [hr]
        exact totpOf_exec ho hx u redis
  env e s := by cases e; rfl

/-- What one event writes, column by column. -/
theorem totpUpd_some (u : Uuid) (p : Option String × Bool) (e : Event Resp) :
    totpUpd u (some p) e = some ((secretWrite u e).getD p.1, (enabledWrite u e).getD p.2) := by
  obtain ⟨o, r⟩ := e
  cases o with
  | redis c => rfl
  | sys c => rfl
  | sql q =>
    cases r with
    | error d => cases q <;> rfl
    | ok r =>
      cases q <;> try rfl
      case setTotpSecret v secret => by_cases h : v = u <;> simp [totpUpd, secretWrite, enabledWrite, h]
      case enableTotp v => by_cases h : v = u <;> simp [totpUpd, secretWrite, enabledWrite, h]
      case disableTotp v => by_cases h : v = u <;> simp [totpUpd, secretWrite, enabledWrite, h]

/-- What a stretch of the log writes, column by column. -/
theorem totpFold_some (u : Uuid) (p : Option String × Bool) (log : List (Nat × Event Resp)) :
    Pool.fold (totpUpd u) (some p) log =
      some ((Pool.lastWrite (secretWrite u) log).getD p.1,
        (Pool.lastWrite (enabledWrite u) log).getD p.2) := by
  induction log generalizing p with
  | nil => rfl
  | cons x log ih =>
    rw [Pool.fold_cons, totpUpd_some, ih, Pool.lastWrite_cons, Pool.lastWrite_cons]

/-! ## What a write meets -/

/-- The invariants of a run: every call follows its rule, and the columns are a
fold over the log. -/
structure TotpInv (cr : Crates) (conn : DbRole) (u : Uuid) (b : Option (Option String × Bool))
    (w : TotpWorld) : Prop where
  tracks : Pool.Tracks (fun k => totpMonitor cr k.1) (fun _ _ _ => True) (fun _ => []) w
  folded : Pool.Folded (machine cr conn) (totpOf u) (totpUpd u) b w

variable {cr : Crates} {conn : DbRole} {u : Uuid} {b : Option (Option String × Bool)}
  {w : TotpWorld}

/-- The statement a call is about to issue follows the rule for its history. -/
theorem TotpInv.pending (h : TotpInv cr conn u b w) {i : Nat} {o : Op}
    (hp : w.pending i = some o) : ∃ k, w.callOf i = some k ∧ TotpRule cr k.1 (w.hist i) o := by
  obtain ⟨k, hk, hok⟩ :=
    h.tracks.pending_history hp ((machine cr conn).exec o (Sample.choice 0 0 "") w.state).1
  exact ⟨k, hk, hok⟩

theorem totpInv_init (st : State) : TotpInv cr conn u (totpOf u st) (Pool.init st) :=
  ⟨Pool.tracks_init st, Pool.folded_init st⟩

theorem totpInv_next (h : TotpInv cr conn u b w) (l : TotpAct) :
    TotpInv cr conn u b (Pool.next (machine cr conn) (TotpCall.body cr) w l) where
  tracks := Pool.tracks_next (along_totpBody cr) l h.tracks
  folded := by
    refine Pool.folded_next (totpColumn cr conn u) (fun i o hp => ?_) h.folded l
    obtain ⟨k, -, hrule⟩ := h.pending hp
    exact hrule.keepsUsers

/-- A row that was read is the one in the state. -/
theorem totpOf_read {c : Choice} {s : State} {row : UserRow}
    (h : ((machine cr conn).exec (.sql (.getUserById u)) c s).1 = .ok (some row)) :
    totpOf u s = some (row.totpSecret, row.totpEnabled) := by
  rw [exec_sql_reply] at h
  rcases Sql.run_cases conn (.getUserById u) c s.db with ⟨e, he⟩ | ⟨r, db', hx, hr⟩
  · rw [he] at h
    cases h
  · rw [hr] at h
    cases h
    have hfound : Repo.getUserById u s.db = some row := congrArg Prod.fst (Except.ok.inj hx)
    simp [totpOf, hfound]

/-- What a call read of `u` is what the log had left there, and what is there
now is the last write since, if any. -/
theorem TotpInv.since_read (h : TotpInv cr conn u b w) {i : Nat} {row : UserRow}
    (hread : ⟨.sql (.getUserById u), .ok (some row)⟩ ∈ w.hist i) :
    totpOf u w.state =
      some ((Pool.lastWrite (secretWrite u) (Pool.since readsUser i w.log)).getD row.totpSecret,
        (Pool.lastWrite (enabledWrite u) (Pool.since readsUser i w.log)).getD row.totpEnabled) := by
  obtain ⟨xs, ys, hlog⟩ := List.append_of_mem (Pool.mem_hist.1 hread)
  -- A call reads the row once, so `ys` is what the log holds since the read.
  have honce : ∀ e', (i, e') ∈ ys → readsUser e' = false := by
    intro e' he'
    obtain ⟨ys₁, ys₂, rfl⟩ := List.append_of_mem he'
    rw [← List.cons_append, ← List.append_assoc] at hlog
    obtain ⟨k, -, hok⟩ := h.tracks.past_history hlog
    cases hr : readsUser e' with
    | false => rfl
    | true =>
      obtain ⟨o, r⟩ := e'
      cases o with
      | redis c => cases hr
      | sys c => cases hr
      | sql s =>
        cases s <;> try exact (Bool.false_ne_true hr).elim
        have hnone := hok ⟨.sql (.getUserById u), .ok (some row)⟩
          (by simp [Pool.ownEvent, List.filterMap_append])
        cases hnone
  obtain ⟨c, s, hs, hreply⟩ := h.folded.reply xs i _ ys hlog
  have hrow := totpOf_read hreply.symm
  rw [h.folded.now, hlog, Pool.since_eq rfl honce, Pool.fold_append, ← hs, hrow, Pool.fold_cons,
    totpUpd_some]
  exact totpFold_some u _ ys

/-- What one event does to the columns of `u`. -/
theorem totpUpd_cases (u : Uuid) (e : Event Resp) :
    (∃ secret, e = ⟨.sql (.setTotpSecret u secret), .ok ()⟩) ∨
    e = ⟨.sql (.enableTotp u), .ok ()⟩ ∨ e = ⟨.sql (.disableTotp u), .ok ()⟩ ∨
    ∀ b, totpUpd u b e = b := by
  obtain ⟨o, r⟩ := e
  cases o with
  | redis c => exact .inr (.inr (.inr fun _ => rfl))
  | sys c => exact .inr (.inr (.inr fun _ => rfl))
  | sql q =>
    cases r with
    | error d => exact .inr (.inr (.inr fun b => by cases q <;> rfl))
    | ok r =>
      cases q <;> try exact .inr (.inr (.inr fun _ => rfl))
      case setTotpSecret v secret =>
        by_cases h : v = u
        · exact .inl ⟨secret, by rw [h]⟩
        · exact .inr (.inr (.inr fun b => by simp [totpUpd, h]))
      case enableTotp v =>
        by_cases h : v = u
        · exact .inr (.inl (by rw [h]))
        · exact .inr (.inr (.inr fun b => by simp [totpUpd, h]))
      case disableTotp v =>
        by_cases h : v = u
        · exact .inr (.inr (.inl (by rw [h])))
        · exact .inr (.inr (.inr fun b => by simp [totpUpd, h]))

/-- The columns after a step are those its event leaves. -/
theorem TotpInv.step (h : TotpInv cr conn u b w) {i : Nat} {o : Op} (hp : w.pending i = some o)
    (c : Choice) : totpOf u ((machine cr conn).exec o c w.state).2 =
      totpUpd u (totpOf u w.state) ⟨o, ((machine cr conn).exec o c w.state).1⟩ := by
  obtain ⟨k, -, hrule⟩ := h.pending hp
  exact (totpColumn cr conn u).exec o c _ hrule.keepsUsers

/-! ## Enabled implies a secret -/

def secured (u : Uuid) (st : State) : Prop :=
  ∀ p, totpOf u st = some p → p.2 = true → p.1.isSome = true

/-- When an activation writes, the last write of the secret since it read the
row is not one of disable_totp. -/
def noStaleEnable (u : Uuid) (w : TotpWorld) : TotpAct → Prop
  | .step i c => w.pending i = some (.sql (.enableTotp u)) → c.fails = false →
      Pool.lastWrite (secretWrite u) (Pool.since readsUser i w.log) ≠ some none
  | _ => True

/-- Only the flag write of an activation can leave 2FA on without a secret. -/
theorem secured_upd {st st' : State} {e : Event Resp}
    (hupd : totpOf u st' = totpUpd u (totpOf u st) e)
    (he : e ≠ ⟨.sql (.enableTotp u), .ok ()⟩) (hst : secured u st) : secured u st' := by
  intro p hp henabled
  rw [hupd] at hp
  rcases totpUpd_cases u e with ⟨secret, rfl⟩ | rfl | rfl | hquiet
  · simp only [totpUpd, ↓reduceIte, Option.map_eq_some_iff] at hp
    obtain ⟨_, -, rfl⟩ := hp
    rfl
  · exact absurd rfl he
  · simp only [totpUpd, ↓reduceIte, Option.map_eq_some_iff] at hp
    obtain ⟨_, -, rfl⟩ := hp
    cases henabled
  · rw [hquiet] at hp
    exact hst p hp henabled

/-- The flag write of an activation, when it goes through. -/
theorem secured_enable (h : TotpInv cr conn u b w) {i : Nat}
    (hp : w.pending i = some (.sql (.enableTotp u))) {c : Choice} (hc : c.fails = false) :
    secured u ((machine cr conn).exec (.sql (.enableTotp u)) c w.state).2 ↔
      Pool.lastWrite (secretWrite u) (Pool.since readsUser i w.log) ≠ some none := by
  obtain ⟨k, -, svc, md, req, row, secret, -, hread, hstored, -, -⟩ := h.pending hp
  have hcol := h.step hp c
  have hreply : ((machine cr conn).exec (.sql (.enableTotp u)) c w.state).1 = .ok () := by
    simp [Sql.run, hc, Sql.exec]
  rw [hreply, h.since_read hread] at hcol
  simp only [totpUpd, ↓reduceIte, Option.map_some] at hcol
  have hrow : row.totpSecret.isSome = true := by
    cases hs : row.totpSecret with
    | none => simp [hs] at hstored
    | some x => rfl
  simp only [secured, hcol, Option.some.injEq, forall_eq', forall_const]
  rcases hl : Pool.lastWrite (secretWrite u) (Pool.since readsUser i w.log) with _ | _ | x <;>
    simp [hrow]

theorem secured_step (h : TotpInv cr conn u b w) (l : TotpAct) (hw : secured u w.state) :
    secured u (Pool.next (machine cr conn) (TotpCall.body cr) w l).state ↔
      noStaleEnable u w l := by
  rcases Pool.next_cases (machine cr conn) (TotpCall.body cr) w l with
    ⟨k, rfl, hn⟩ | ⟨i, c, k, o, f, rfl, ht, hn⟩ | ⟨i, c, rfl, hp, hn⟩ | ⟨e, rfl, hn⟩
  · simp [hn, noStaleEnable, hw]
  · have hp : w.pending i = some o := Pool.pending_eq_some.2 ⟨k, f, ht⟩
    simp only [hn, noStaleEnable, hp, Option.some.injEq]
    by_cases ho : o = .sql (.enableTotp u) ∧ c.fails = false
    · obtain ⟨rfl, hc⟩ := ho
      simpa [hc] using secured_enable h hp hc
    · refine iff_of_true (secured_upd (h.step hp c) ?_ hw) fun hop hc => absurd ⟨hop, hc⟩ ho
      intro he
      obtain ⟨rfl, hr⟩ := Sigma.mk.inj he
      cases hc : c.fails with
      | false => exact ho ⟨rfl, hc⟩
      | true => simp [Sql.run, hc] at hr
  · simp [hn, noStaleEnable, hp, hw]
  · have : secured u ((machine cr conn).env e w.state) := by
      unfold secured
      rw [(totpColumn cr conn u).env]
      exact hw
    simp [hn, noStaleEnable, this]

/-- In every run of the calls that use a second factor, 2FA is never on without
a secret exactly as long as no activation writes after a disable_totp that it has
not seen. -/
theorem always_secured_iff (cr : Crates) (conn : DbRole) (u : Uuid) (st : State)
    (hst : secured u st) (ls : List TotpAct) :
    Pool.Always (machine cr conn) (TotpCall.body cr) (fun w => secured u w.state)
      (Pool.init st) ls ↔
    Pool.Each (machine cr conn) (TotpCall.body cr) (noStaleEnable u) (Pool.init st) ls :=
  Pool.always_iff_each (J := TotpInv cr conn u (totpOf u st)) (fun _ l h => totpInv_next h l)
    (fun _ l h hw => secured_step h l hw) (totpInv_init st) hst

/-! The failing order: two activations read the pending secret, one of them
writes, the user disables 2FA, and then the other one writes. -/

def activation : TotpCall :=
  ⟨.rpc Sample.svc (Sample.metadata 10 defaultTenantId "") (.activateTotp ⟨"s1"⟩), rfl⟩

def disabling : TotpCall :=
  ⟨.rpc Sample.svc (Sample.metadata 10 defaultTenantId "") (.disableTotp ⟨"s1"⟩), rfl⟩

def enrolling : TotpCall :=
  ⟨.rpc Sample.svc (Sample.metadata 10 defaultTenantId "") .enrollTotp, rfl⟩

/-- `n` steps of call `i`. -/
def totpSteps (i n : Nat) : List TotpAct :=
  List.replicate n (.step i (Sample.choice 0 0 "s2"))

def staleEnable : List TotpAct :=
  .start activation :: totpSteps 0 2 ++ .start activation :: totpSteps 1 3 ++
    .start disabling :: totpSteps 2 4 ++ totpSteps 0 1

theorem staleEnable_stuck :
    ¬secured 10 (Pool.run (machine Sample.crates .superuser) (TotpCall.body Sample.crates)
      (Pool.init (Sample.stateOf (Sample.user 10 (some "s1") false))) staleEnable).state := by
  intro h
  have hstuck : totpOf 10 (Pool.run (machine Sample.crates .superuser)
      (TotpCall.body Sample.crates)
      (Pool.init (Sample.stateOf (Sample.user 10 (some "s1") false))) staleEnable).state =
      some (none, true) := by decide
  exact absurd (h _ hstuck rfl) (by decide)

theorem always_secured_iff_sample :
    Pool.Always (machine Sample.crates .superuser) (TotpCall.body Sample.crates)
      (fun w => secured 10 w.state) (Pool.init (Sample.stateOf (Sample.user 10 (some "s1") false)))
      staleEnable ↔
    Pool.Each (machine Sample.crates .superuser) (TotpCall.body Sample.crates) (noStaleEnable 10)
      (Pool.init (Sample.stateOf (Sample.user 10 (some "s1") false))) staleEnable :=
  always_secured_iff Sample.crates .superuser 10 _ (by
    rintro p hp henabled
    have hp' : totpOf 10 (Sample.stateOf (Sample.user 10 (some "s1") false)) =
      some (some "s1", false) := by decide
    cases hp'.symm.trans hp
    cases henabled) _

/-! ## Changes only with proof -/

/-- The call that switches 2FA on has validated a code against the secret that is
stored, and the one that switches it off has shown a code that is valid for the secret
it has read from the user's row, or a recovery code of the user. -/
def provenChange (cr : Crates) (conn : DbRole) (u : Uuid) (w : TotpWorld) (l : TotpAct) : Prop :=
  let w' := Pool.next (machine cr conn) (TotpCall.body cr) w l
  (∀ s s', totpOf u w.state = some (s, false) → totpOf u w'.state = some (s', true) →
    ∃ i c svc md req h secret, l = .step i c ∧
      w.callOf i = some ⟨.rpc svc md (.activateTotp req), h⟩ ∧
      ⟨.sys (.validateTotp req.code secret), true⟩ ∈ w.hist i ∧
      s'.bind (svc.totpEnc.decrypt cr) = some secret) ∧
  (∀ s s', totpOf u w.state = some (s, true) → totpOf u w'.state = some (s', false) →
    ∃ i c svc md req h, l = .step i c ∧
      w.callOf i = some ⟨.rpc svc md (.disableTotp req), h⟩ ∧
      showsCode cr svc u req.code (w.hist i))

/-- Whoever writes the flag still knows the row: the secret an activation has
validated is not replaced by another one before it writes, and 2FA is not switched
on between the read and the write of an enrolment. -/
def freshWrite (cr : Crates) (u : Uuid) (w : TotpWorld) : TotpAct → Prop
  | .step i c => c.fails = false →
    (∀ svc md req h secret, w.pending i = some (.sql (.enableTotp u)) →
      w.callOf i = some ⟨.rpc svc md (.activateTotp req), h⟩ →
      ⟨.sys (.validateTotp req.code secret), true⟩ ∈ w.hist i →
      (∃ s, totpOf u w.state = some (s, false)) →
      ∀ s, Pool.lastWrite (secretWrite u) (Pool.since readsUser i w.log) = some s →
        s.bind (svc.totpEnc.decrypt cr) = some secret) ∧
    (∀ secret, w.pending i = some (.sql (.setTotpSecret u secret)) →
      Pool.lastWrite (enabledWrite u) (Pool.since readsUser i w.log) ≠ some true)
  | _ => True

section Proven

variable {i : Nat} {c : Choice}

theorem exec_ok_of_not_fails {q : Sql} {st : State} {r : Reply q} {db' : Db}
    (hx : q.exec conn c st.db = .ok (r, db')) (hc : c.fails = false) :
    ((machine cr conn).exec (.sql q) c st).1 = .ok r := by
  simp [Sql.run, hc, hx]

theorem fails_of_exec_ok {q : Sql} {st : State} {r : Reply q}
    (h : ((machine cr conn).exec (.sql q) c st).1 = .ok r) : c.fails = false := by
  cases hc : c.fails with
  | false => rfl
  | true => simp [Sql.run, hc] at h

/-- Nothing to prove where the columns stay. -/
theorem provenChange_same {l : TotpAct}
    (h : totpOf u (Pool.next (machine cr conn) (TotpCall.body cr) w l).state = totpOf u w.state) :
    provenChange cr conn u w l := by
  refine ⟨fun s s' hs hs' => ?_, fun s s' hs hs' => ?_⟩
  · cases (hs.symm.trans (h.symm.trans hs'))
  · cases (hs.symm.trans (h.symm.trans hs'))

theorem provenChange_set (h : TotpInv cr conn u b w) {secret : String}
    (hp : w.pending i = some (.sql (.setTotpSecret u secret))) (hc : c.fails = false) :
    provenChange cr conn u w (.step i c) ↔ freshWrite cr u w (.step i c) := by
  obtain ⟨k, hk, svc, md, row, hcall, hread, hrow⟩ := h.pending hp
  have hnow := h.since_read hread
  have hcol := h.step hp c
  rw [exec_ok_of_not_fails rfl hc] at hcol
  simp only [provenChange, freshWrite, (Pool.next_step hp c).1, hcol, hp, hnow, totpUpd, ↓reduceIte, hc, hrow,
    Option.map_some, Option.some.injEq, Prod.mk.injEq, reduceCtorEq, Op.sql.injEq]
  constructor
  · rintro ⟨-, hoff⟩ -
    refine ⟨by simp, ?_⟩
    rintro _ - hon
    -- Were 2FA on by now, this write would be a change made by an enrolment.
    obtain ⟨j, c', svc', md', req, h', hl, hk', -⟩ := hoff _ _ ⟨rfl, by rw [hon]; rfl⟩ ⟨rfl, trivial⟩
    cases hl
    have := hk.symm.trans hk'
    cases this
    cases hcall
  · intro hfresh
    refine ⟨by simp, ?_⟩
    rintro s s' ⟨-, hon⟩
    cases hw : Pool.lastWrite (enabledWrite u) (Pool.since readsUser i w.log) with
    | none => simp [hw] at hon
    | some v =>
      have hv : v = true := by simpa [hw] using hon
      exact absurd (by rw [hw, hv]) ((hfresh trivial).2 secret rfl)

theorem provenChange_enable (h : TotpInv cr conn u b w)
    (hp : w.pending i = some (.sql (.enableTotp u))) (hc : c.fails = false) :
    provenChange cr conn u w (.step i c) ↔ freshWrite cr u w (.step i c) := by
  obtain ⟨⟨k, hkt⟩, hk, svc, md, req, row, secret, rfl, hread, hsecret, hvalid, honly⟩ := h.pending hp
  have hcol := h.step hp c
  rw [exec_ok_of_not_fails rfl hc] at hcol
  constructor
  · rintro ⟨hon, -⟩ -
    refine ⟨?_, by simp [hp]⟩
    rintro svc' md' req' h' secret' - hk' hvalid' ⟨s, hs⟩ v hv
    cases hk.symm.trans hk'
    have hsv : v = s := by
      have hnow := h.since_read hread
      rw [hs, hv] at hnow
      simpa using (congrArg Prod.fst (Option.some.inj hnow)).symm
    obtain ⟨j, c', svc', md', req', h', secret'', hl, hk'', hvalid'', hs''⟩ :=
      hon s s hs (by rw [(Pool.next_step hp c).1, hcol, hs]; simp [totpUpd])
    cases hl
    cases hk.symm.trans hk''
    rw [hsv, hs'', honly _ hvalid', honly _ hvalid'']
  · intro hfresh
    refine ⟨?_, ?_⟩
    · intro s s' hs hs'
      refine ⟨i, c, svc, md, req, hkt, secret, rfl, hk, hvalid, ?_⟩
      have hsame : s' = s := by
        rw [(Pool.next_step hp c).1, hcol, hs] at hs'
        simpa [totpUpd] using hs'.symm
      have hnow := h.since_read hread
      rw [hs] at hnow
      have hfst : s = _ := congrArg Prod.fst (Option.some.inj hnow)
      rw [hsame, hfst]
      cases hl : Pool.lastWrite (secretWrite u) (Pool.since readsUser i w.log) with
      | none => exact hsecret
      | some v => exact (hfresh hc).1 svc md req hkt secret hp hk hvalid ⟨s, hs⟩ v hl
    · intro s s' hs hs'
      rw [(Pool.next_step hp c).1, hcol, hs] at hs'
      simp [totpUpd] at hs'

theorem provenChange_disable (h : TotpInv cr conn u b w)
    (hp : w.pending i = some (.sql (.disableTotp u))) (hc : c.fails = false) :
    provenChange cr conn u w (.step i c) := by
  obtain ⟨⟨k, hkt⟩, hk, svc, md, req, rfl, hproof⟩ := h.pending hp
  have hcol := h.step hp c
  rw [exec_ok_of_not_fails rfl hc] at hcol
  refine ⟨?_, ?_⟩
  · intro s s' hs hs'
    rw [(Pool.next_step hp c).1, hcol, hs] at hs'
    simp [totpUpd] at hs'
  · intro s s' hs hs'
    exact ⟨i, c, svc, md, req, hkt, rfl, hk, hproof⟩

end Proven

theorem provenChange_iff (h : TotpInv cr conn u b w) (l : TotpAct) :
    provenChange cr conn u w l ↔ freshWrite cr u w l := by
  rcases Pool.next_cases (machine cr conn) (TotpCall.body cr) w l with
    ⟨k, rfl, hn⟩ | ⟨i, c, k, o, f, rfl, ht, hn⟩ | ⟨i, c, rfl, hp, hn⟩ | ⟨e, rfl, hn⟩
  · exact iff_of_true (provenChange_same (by rw [hn])) trivial
  · have hp : w.pending i = some o := Pool.pending_eq_some.2 ⟨k, f, ht⟩
    have hcol := h.step hp c
    have hnext : (Pool.next (machine cr conn) (TotpCall.body cr) w (.step i c)).state =
      ((machine cr conn).exec o c w.state).2 := by rw [hn]
    rcases totpUpd_cases u ⟨o, ((machine cr conn).exec o c w.state).1⟩ with
      ⟨secret, he⟩ | he | he | hquiet
    · obtain ⟨rfl, hr⟩ := Sigma.mk.inj he
      exact provenChange_set h hp (fails_of_exec_ok (eq_of_heq hr))
    · obtain ⟨rfl, hr⟩ := Sigma.mk.inj he
      exact provenChange_enable h hp (fails_of_exec_ok (eq_of_heq hr))
    · obtain ⟨rfl, hr⟩ := Sigma.mk.inj he
      refine iff_of_true (provenChange_disable h hp (fails_of_exec_ok (eq_of_heq hr))) ?_
      simp [freshWrite, hp]
    · refine iff_of_true (provenChange_same (by rw [(Pool.next_step hp c).1, h.step hp c, hquiet])) ?_
      intro hc
      refine ⟨fun _ _ _ _ _ hp' => ?_, fun _ hp' => ?_⟩
      · cases hp.symm.trans hp'
        rw [exec_ok_of_not_fails rfl hc] at hquiet
        simpa [totpUpd] using hquiet (some (none, false))
      · cases hp.symm.trans hp'
        rw [exec_ok_of_not_fails rfl hc] at hquiet
        simpa [totpUpd] using hquiet (some (none, false))
  · exact iff_of_true (provenChange_same (by rw [hn])) (by simp [freshWrite, hp])
  · refine iff_of_true (provenChange_same ?_) trivial
    rw [hn]
    exact (totpColumn cr conn u).env e w.state

/-- In every run of the calls that use a second factor, 2FA changes only with
proof exactly as long as no activation or enrolment writes over a change that it
has not seen. -/
theorem each_provenChange_iff (cr : Crates) (conn : DbRole) (u : Uuid) (st : State)
    (ls : List TotpAct) :
    Pool.Each (machine cr conn) (TotpCall.body cr) (provenChange cr conn u) (Pool.init st) ls ↔
    Pool.Each (machine cr conn) (TotpCall.body cr) (freshWrite cr u) (Pool.init st) ls :=
  Pool.each_iff_each (J := TotpInv cr conn u (totpOf u st)) (fun _ l h => totpInv_next h l)
    (fun _ l h => provenChange_iff h l) (totpInv_init st)

/-- An enrolment reads the row before an activation and writes after it. -/
def lateEnrolment : List TotpAct :=
  .start enrolling :: totpSteps 0 1 ++ .start activation :: totpSteps 1 3 ++ totpSteps 0 3

theorem lateEnrolment_disables :
    ¬Pool.Each (machine Sample.crates .superuser) (TotpCall.body Sample.crates)
      (provenChange Sample.crates .superuser 10)
      (Pool.init (Sample.stateOf (Sample.user 10 (some "s1") false)))
      (lateEnrolment ++ [.step 0 (Sample.choice 0 0 "s2")]) := by
  intro h
  obtain ⟨-, hoff⟩ := h.at
  obtain ⟨i, c, svc, md, req, h', hl, hk, -⟩ :=
    hoff (some "s1") (some "s2") (by decide) (by decide)
  cases hl
  cases hk

end IamAuth
