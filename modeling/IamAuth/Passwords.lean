import IamAuth.Totp
import IamAuth.Sequential

/-!
# Changing and resetting passwords

change_password checks the old password against a row that it read before, and both
calls write the new hash whatever is stored by then. The stored hash is a fold over
the log, so what a write meets is the last write since that read. When a statement
in the middle fails, what the earlier ones have done stays.
-/

set_option autoImplicit false

namespace IamAuth

open Interleave Relational

/-! ## The calls that write passwords -/

def Call.isPassword : Call → Bool
  | .rpc _ _ (.changePassword _) => true
  | .rpc _ _ (.resetPassword _) => true
  | _ => false

abbrev PasswordCall := {k : Call // k.isPassword = true}

def PasswordCall.body (cr : Crates) (k : PasswordCall) : Handler Response := k.1.body cr

abbrev PasswordWorld := Pool PasswordCall Resp Failure Response State

abbrev PasswordAct := Label PasswordCall Choice Outage

/-- What the history `h` of call `k` says when it issues a statement. -/
def PasswordRule (k : Call) (h : List (Event Resp)) : Op → Prop
  | .sql (.getUserById _) => ∀ e ∈ h, readsUser e = false
  | .sql (.updatePassword u _) => ∀ svc md req, k = .rpc svc md (.changePassword req) →
      ∃ row, ⟨.sql (.getUserById u), .ok (some row)⟩ ∈ h ∧
        ⟨.sys (.verifyPassword row.passwordHash req.oldPassword), true⟩ ∈ h
  | .sql (.consumePasswordReset _) => True
  | .sql (.revokeAllUserRefreshTokens _) => True
  | .sql (.insertAudit ..) => True
  | .sys _ => True
  | _ => False

def passwordMonitor (k : Call) : Monitor Resp (List (Event Resp)) :=
  .history fun h e => PasswordRule k h e.1

section Handlers

variable (cr : Crates) (svc : AuthSvc) (md : MetadataMap)

@[simp] theorem passwordMonitor_upd (k : Call) (h : List (Event Resp)) (e : Event Resp) :
    (passwordMonitor k).upd h e = h ++ [e] := rfl

@[simp] theorem passwordMonitor_ok (k : Call) (h : List (Event Resp)) (e : Event Resp) :
    (passwordMonitor k).ok h e = PasswordRule k h e.1 := rfl

theorem along_changePassword (req : ChangePasswordRequest) :
    (changePassword cr svc md req).Along (passwordMonitor (.rpc svc md (.changePassword req)))
      (fun _ _ => True) [] := by
  simp [changePassword, callerUser, callerUuid, storePassword, PasswordRule]
  intro u _ _ found row hfound
  have hread : ∃ row', some row' = found ∧ row'.passwordHash = row.passwordHash :=
    ⟨row, hfound.symm, rfl⟩
  exact ⟨hread, fun _ => hread⟩

theorem along_resetPassword (req : ResetPasswordRequest) :
    (resetPassword cr svc req).Along (passwordMonitor (.rpc svc md (.resetPassword req)))
      (fun _ _ => True) [] := by
  simp [resetPassword, storePassword, PasswordRule]

end Handlers

theorem along_passwordBody (cr : Crates) (k : PasswordCall) :
    (k.body cr).Along (passwordMonitor k.1) (fun _ _ => True) [] := by
  obtain ⟨k, hk⟩ := k
  cases k with
  | rpc svc md r =>
    cases r <;> try exact (Bool.false_ne_true hk).elim
    case resetPassword req => exact along_wrap _ (along_resetPassword cr svc md req)
    case changePassword req => exact along_wrap _ (along_changePassword cr svc md req)
  | start env => cases hk
  | profileCreationFailed userId reason => cases hk

/-! ## The stored hash as a fold over the log -/

def passwordOf (u : Uuid) (st : State) : Option String :=
  (Repo.getUserById u st.db).map (·.passwordHash)

/-- What a committed statement stores as the hash of `u`. -/
def passwordWrite (u : Uuid) : Event Resp → Option String
  | ⟨.sql (.updatePassword v hash), .ok _⟩ => if v = u then some hash else none
  | _ => none

def passwordUpd (u : Uuid) (b : Option String) (e : Event Resp) : Option String :=
  b.map fun stored => (passwordWrite u e).getD stored

/-- The statements of the two calls. -/
def PasswordOp : Op → Prop
  | .sql (.getUserById _) => True
  | .sql (.updatePassword ..) => True
  | .sql (.consumePasswordReset _) => True
  | .sql (.revokeAllUserRefreshTokens _) => True
  | .sql (.insertAudit ..) => True
  | .sys _ => True
  | _ => False

theorem PasswordRule.op {k : Call} {h : List (Event Resp)} {o : Op} (ho : PasswordRule k h o) :
    PasswordOp o := by
  cases o with
  | sql s => cases s <;> first | exact ho.elim | trivial
  | redis r => exact ho.elim
  | sys s => trivial

theorem passwordOf_update (u v : Uuid) (hash : String) (db : Db) (redis : Redis) :
    passwordOf u ⟨Repo.updatePassword v hash db, redis⟩ =
      (passwordOf u ⟨db, redis⟩).map fun stored => if v = u then hash else stored := by
  have hfind : Repo.getUserById u (Repo.updatePassword v hash db) =
      (Repo.getUserById u db).map fun x => if x.id == v then { x with passwordHash := hash } else x := by
    apply find?_updateWhere
    intro x _
    rfl
  unfold passwordOf
  rw [hfind]
  cases hx : Repo.getUserById u db with
  | none => rfl
  | some x =>
    have hxu := getUserById_id hx
    by_cases h : v = u
    · simp [h, hxu]
    · have hne : x.id ≠ v := fun hv => h (hv.symm.trans hxu)
      simp [h, hne]

theorem passwordOf_frame {ts : List Table} {db db' : Db} (h : Frame ts db db') (hn : .users ∉ ts)
    (u : Uuid) (redis : Redis) : passwordOf u ⟨db', redis⟩ = passwordOf u ⟨db, redis⟩ := by
  simp only [passwordOf, Repo.getUserById, h.users hn]

theorem passwordColumn (cr : Crates) (conn : DbRole) (u : Uuid) :
    Pool.Column (machine cr conn) PasswordOp (passwordOf u) (passwordUpd u) where
  exec o c s ho := by
    have hkeep : ∀ e : Event Resp, passwordWrite u e = none →
        passwordUpd u (passwordOf u s) e = passwordOf u s := by
      intro e he
      simp [passwordUpd, he]
    cases o with
    | redis r => exact ho.elim
    | sys r => exact (hkeep _ rfl).symm
    | sql q =>
      obtain ⟨db, redis⟩ := s
      change passwordOf u ⟨(q.run conn c db).2, redis⟩ =
        passwordUpd u _ ⟨.sql q, (q.run conn c db).1⟩
      rcases Sql.run_cases conn q c db with ⟨e, he⟩ | ⟨r, db', hx, hr⟩
      · rw [he]
        cases q <;> exact (hkeep _ rfl).symm
      rw [hr]
      cases q <;> try exact ho.elim
      case updatePassword v hash =>
        cases hx
        rw [passwordOf_update]
        by_cases h : v = u
        · simp [passwordUpd, passwordWrite, h]
        · simp [passwordUpd, passwordWrite, h]
      all_goals
        rw [hkeep _ rfl]
        exact passwordOf_frame (Sql.exec_frame hx) (by simp [Sql.writes]) u redis
  env e s := by cases e; rfl

/-! ## What a write meets -/

/-- The invariants of a run: every call follows its rule, and every stored hash is a
fold over the log. -/
structure PasswordInv (cr : Crates) (conn : DbRole) (st : State) (w : PasswordWorld) : Prop where
  tracks : Pool.Tracks (fun k => passwordMonitor k.1) (fun _ _ _ => True) (fun _ => []) w
  folded : ∀ u, Pool.Folded (machine cr conn) (passwordOf u) (passwordUpd u) (passwordOf u st) w

variable {cr : Crates} {conn : DbRole} {st : State} {w : PasswordWorld}

theorem passwordInv_init (cr : Crates) (conn : DbRole) (st : State) :
    PasswordInv cr conn st (Pool.init st) :=
  ⟨Pool.tracks_init st, fun _ => Pool.folded_init st⟩

theorem PasswordInv.pending (h : PasswordInv cr conn st w) {i : Nat} {o : Op}
    (hp : w.pending i = some o) : ∃ k, w.callOf i = some k ∧ PasswordRule k.1 (w.hist i) o := by
  obtain ⟨k, hk, hok⟩ :=
    h.tracks.pending_history hp ((machine cr conn).exec o (Sample.choice 0 0 "") w.state).1
  exact ⟨k, hk, hok⟩

theorem passwordInv_next (h : PasswordInv cr conn st w) (l : PasswordAct) :
    PasswordInv cr conn st (Pool.next (machine cr conn) (PasswordCall.body cr) w l) where
  tracks := Pool.tracks_next (along_passwordBody cr) l h.tracks
  folded u := by
    apply Pool.folded_next (passwordColumn cr conn u)
    · intro i o hp
      obtain ⟨k, -, hrule⟩ := h.pending hp
      exact hrule.op
    · exact h.folded u

/-- A hash that was verified is one that the password verifies against. -/
theorem PasswordInv.verified (h : PasswordInv cr conn st w) {i : Nat} {hash password : String}
    (hmem : ⟨.sys (.verifyPassword hash password), true⟩ ∈ w.hist i) :
    cr.passwordVerify hash password = true := by
  obtain ⟨xs, ys, hlog⟩ := List.append_of_mem (Pool.mem_hist.1 hmem)
  obtain ⟨c, s, -, hreply⟩ := (h.folded 0).reply xs i _ ys hlog
  exact hreply.symm

/-- A hash that was read, if none was written since, is the stored one. -/
theorem PasswordInv.since_read (h : PasswordInv cr conn st w) {i : Nat} {u : Uuid} {row : UserRow}
    (hread : ⟨.sql (.getUserById u), .ok (some row)⟩ ∈ w.hist i) :
    passwordOf u w.state = some
      ((Pool.lastWrite (passwordWrite u) (Pool.since readsUser i w.log)).getD row.passwordHash) := by
  obtain ⟨xs, ys, hlog⟩ := List.append_of_mem (Pool.mem_hist.1 hread)
  have honce : ∀ e', (i, e') ∈ ys → readsUser e' = false := by
    refine h.tracks.once (q := readsUser) ?_ hlog rfl
    intro k hist e hok hq
    obtain ⟨o, r⟩ := e
    cases o with
    | redis c => cases hq
    | sys c => cases hq
    | sql s =>
      cases s <;> try exact (Bool.false_ne_true hq).elim
      exact hok
  obtain ⟨c, s, hreply, hnow⟩ := (h.folded u).since (q := readsUser) hlog rfl honce
  have hrow : passwordOf u s = some row.passwordHash := by
    obtain ⟨-, db', hx, -⟩ := exec_sql_ok hreply.symm
    have hfound : Repo.getUserById u s.db = some row := congrArg Prod.fst (Except.ok.inj hx)
    simp [passwordOf, hfound]
  rw [hnow, hrow]
  exact Pool.fold_lastWrite (fun _ _ => rfl) row.passwordHash _

/-- A change of `u`'s password that is about to write `hash`. -/
structure Changing (w : PasswordWorld) (i : Nat) (req : ChangePasswordRequest) (u : Uuid) :
    Prop where
  call : ∃ svc md h, w.callOf i = some ⟨.rpc svc md (.changePassword req), h⟩
  pending : ∃ hash, w.pending i = some (.sql (.updatePassword u hash))

/-- When a change writes its hash, the stored one is a hash that the old password
verifies against. -/
def verifiedWrite (cr : Crates) (w : PasswordWorld) : PasswordAct → Prop
  | .step i c => c.fails = false → ∀ req u, Changing w i req u →
      ∀ stored, passwordOf u w.state = some stored →
        cr.passwordVerify stored req.oldPassword = true
  | _ => True

/-- When a change writes its hash, no password of that user has been written since
it read the row, or the old password verifies against the last one. -/
def freshPassword (cr : Crates) (w : PasswordWorld) : PasswordAct → Prop
  | .step i c => c.fails = false → ∀ req u, Changing w i req u →
      ∀ hash, Pool.lastWrite (passwordWrite u) (Pool.since readsUser i w.log) = some hash →
        cr.passwordVerify hash req.oldPassword = true
  | _ => True

theorem verifiedWrite_iff (h : PasswordInv cr conn st w) (l : PasswordAct) :
    verifiedWrite cr w l ↔ freshPassword cr w l := by
  cases l with
  | start k => exact Iff.rfl
  | env e => exact Iff.rfl
  | step i c =>
    apply forall_congr'
    intro _
    apply forall₃_congr
    intro req u hchanging
    obtain ⟨svc, md, hk, hcall⟩ := hchanging.call
    obtain ⟨hash, hpending⟩ := hchanging.pending
    obtain ⟨k, hcall', hrule⟩ := h.pending hpending
    cases hcall.symm.trans hcall'
    obtain ⟨row, hread, hverified⟩ := hrule svc md req rfl
    have hnow := h.since_read hread
    have hrow := h.verified hverified
    rw [hnow]
    cases hlast : Pool.lastWrite (passwordWrite u) (Pool.since readsUser i w.log) with
    | none =>
      refine iff_of_true ?_ (by simp)
      intro stored hstored
      cases hstored
      exact hrow
    | some hash' =>
      constructor
      · intro hall hash'' heq
        cases heq
        exact hall hash' rfl
      · intro hall stored hstored
        cases hstored
        exact hall hash' rfl

/-- In every run of changes and resets, every change writes over a hash that its old
password verifies against exactly as long as no change writes over a password that
it has not seen. -/
theorem each_verifiedWrite_iff (cr : Crates) (conn : DbRole) (st : State) (ls : List PasswordAct) :
    Pool.Each (machine cr conn) (PasswordCall.body cr) (verifiedWrite cr) (Pool.init st) ls ↔
    Pool.Each (machine cr conn) (PasswordCall.body cr) (freshPassword cr) (Pool.init st) ls :=
  Pool.each_iff_each (J := PasswordInv cr conn st) (fun _ l h => passwordInv_next h l)
    (fun _ l h => verifiedWrite_iff h l) (passwordInv_init cr conn st)

namespace Sample

/-- User 10, who has asked for a password reset. -/
def resettable : State :=
  let st := stateOf (user 10 none false)
  { st with db := { st.db with passwordResets := [⟨"t0", 10, seconds 3600, none⟩] } }

def changing : PasswordCall :=
  ⟨.rpc svc (metadata 10 defaultTenantId "") (.changePassword ⟨"pw", "password1"⟩), rfl⟩

def recovering : PasswordCall := ⟨.rpc svc [] (.resetPassword ⟨"t0", "password2"⟩), rfl⟩

/-- A change reads the row and verifies the old password, and then a reset goes
through before the change has written. -/
def recoveredBefore : List PasswordAct :=
  let c := choice 0 0 ""
  .start changing :: List.replicate 3 (.step 0 c) ++
    .start recovering :: List.replicate 4 (.step 1 c)

/-- The change then undoes the reset, and both calls have succeeded. -/
theorem lateChange_undoes :
    let run := Pool.run (machine crates .superuser) (PasswordCall.body crates)
      (Pool.init resettable)
    let write := Label.step 0 (choice 0 0 "")
    (run recoveredBefore).result 1 = some (.ok (.success true)) ∧
    passwordOf 10 (run recoveredBefore).state = some "password2" ∧
    (run (recoveredBefore ++ [write, write])).result 0 = some (.ok (.success true)) ∧
    passwordOf 10 (run (recoveredBefore ++ [write, write])).state = some "password1" ∧
    ¬Pool.Each (machine crates .superuser) (PasswordCall.body crates) (verifiedWrite crates)
      (Pool.init resettable) (recoveredBefore ++ [write, write]) := by
  refine ⟨by decide, by decide, by decide, by decide, ?_⟩
  intro h
  have hwrite := h.at rfl ⟨"pw", "password1"⟩ 10
    ⟨⟨svc, metadata 10 defaultTenantId "", rfl, rfl⟩, ⟨"password1", rfl⟩⟩ "password2" (by decide)
  exact absurd hwrite (by decide)

end Sample

/-! ## All or nothing -/

/-- Every row of the token is consumed or has expired. -/
def Spent (now : DateTime) (tokenHash : String) (db : Db) : Prop :=
  ∀ t ∈ db.passwordResets, t.tokenHash = tokenHash → t.consumedAt = none → t.expiresAt ≤ now

def NoLiveTokens (u : Uuid) (db : Db) : Prop :=
  ∀ t ∈ db.refreshTokens, t.userId = u → t.revokedAt.isSome

/-- The new hash is stored, and every refresh token of the user is revoked. -/
structure Replaced (u : Uuid) (hash : String) (db : Db) : Prop where
  stored : ∀ row ∈ db.users, row.id = u → row.passwordHash = hash
  revoked : NoLiveTokens u db

/-- No token is consumed or revoked, and no hash is written. -/
structure NothingStored (db db' : Db) : Prop where
  resets : db'.passwordResets = db.passwordResets
  users : db'.users = db.users
  tokens : db'.refreshTokens = db.refreshTokens

def AllOrNothing (done : Db → Prop) (db db' : Db) : Except Failure Bool → Prop
  | .ok _ => done db'
  | .error _ => NothingStored db db'

/-- What storing leaves behind, once the hash is written; `c` is the choice that the
revocation meets. -/
def afterStore (c : Choice) (u : Uuid) (hash : String) (db : Db) : Db :=
  if c.fails then Repo.updatePassword u hash db
  else Repo.revokeAllUserRefreshTokens c u (Repo.updatePassword u hash db)

theorem afterStore_users (c : Choice) (u : Uuid) (hash : String) (db : Db) :
    (afterStore c u hash db).users = (Repo.updatePassword u hash db).users := by
  unfold afterStore
  split <;> rfl

theorem afterStore_resets (c : Choice) (u : Uuid) (hash : String) (db : Db) :
    (afterStore c u hash db).passwordResets = db.passwordResets := by
  unfold afterStore
  split <;> rfl

/-- Only a revocation that fails leaves a token of the user live. -/
theorem afterStore_revoked (c : Choice) (u : Uuid) (hash : String) (db : Db) :
    NoLiveTokens u (afterStore c u hash db) ↔ c.fails = false ∨ NoLiveTokens u db := by
  unfold afterStore
  split
  · next hfails => simp [hfails, NoLiveTokens, Repo.updatePassword, Repo.updateUser]
  · next hfails =>
    refine iff_of_true ?_ (.inl (by simpa using hfails))
    intro t ht hu
    obtain ⟨t₀, -, rfl⟩ := mem_updateWhere.1 ht
    split
    · rfl
    · next hkept =>
      rw [if_neg hkept] at hu
      cases hrevoked : t₀.revokedAt with
      | some at_ => rfl
      | none => simp [hu, hrevoked] at hkept

theorem replaced_afterStore (c : Choice) (u : Uuid) (hash : String) (db : Db) :
    Replaced u hash (afterStore c u hash db) ↔ c.fails = false ∨ NoLiveTokens u db := by
  rw [← afterStore_revoked c u hash db]
  refine ⟨fun h => h.revoked, fun h => ⟨?_, h⟩⟩
  intro row hrow hid
  rw [afterStore_users] at hrow
  obtain ⟨row₀, -, rfl⟩ := mem_updateWhere.1 hrow
  split
  · rfl
  · next hother =>
    rw [if_neg hother] at hid
    exact absurd (beq_iff_eq.mpr hid) hother

/-- A token that is consumed cannot be consumed again, then or later. -/
theorem spent_consume (c : Choice) (tokenHash : String) (db : Db) :
    Spent c.now tokenHash (Repo.consumePasswordReset c tokenHash db).2 := by
  intro t ht hhash hopen
  obtain ⟨t₀, -, rfl⟩ := mem_updateWhere.1 ht
  split at hopen
  · cases hopen
  · next hkept =>
    rw [if_neg hkept] at hhash ⊢
    simp only [Repo.consumable, hhash, hopen, beq_self_eq_true, Option.isNone_none, Bool.true_and,
      decide_eq_true_eq] at hkept
    exact Int.not_lt.mp hkept

section Atomic

variable {cs : Nat → Choice} {h : List (Event Resp)}

/-- Storing a password either fails before anything is written or writes the hash. -/
theorem ends_storePassword (u : Uuid) (password : String)
    {Q : Except Failure Unit → State → List (Event Resp) → Prop}
    (hfail : ∀ f h', cr.passwordHash (cs h.length) password = none ∨
      (cs (h.length + 1)).fails = true → Q (.error f) st h')
    (hdone : ∀ hash h', cr.passwordHash (cs h.length) password = some hash →
      (cs (h.length + 1)).fails = false →
      Q (.ok ()) { st with db := afterStore (cs (h.length + 2)) u hash st.db } h') :
    (storePassword u password).Ends (machine cr conn) (fun _ h c _ => c = cs h.length) Q st h := by
  unfold storePassword
  refine .bind (ends_sys _ fun c hc => ?_)
  subst hc
  refine .bind (Prog.ends_of_okOr (fun hnone => hfail _ _ (.inl hnone)) fun hash hhash => ?_)
  refine .bind (ends_query_total (.updatePassword u hash) _
    (fun _ => ((), Repo.updatePassword u hash st.db)) (fun _ => rfl) (fun c hc hfails => ?_)
    fun c e hc hfails => ?_)
  · have hupdate : (cs (h.length + 1)).fails = false := by simpa [hc] using hfails
    have hq := fun h' => hdone hash h' hhash hupdate
    refine .bind (ends_attempt_total (.revokeAllUserRefreshTokens u)
      (fun c => ((), Repo.revokeAllUserRefreshTokens c u (Repo.updatePassword u hash st.db)))
      (fun _ => rfl) (fun c' hc' hfails' => ?_) fun c' e' hc' hfails' => ?_)
    · obtain rfl : c' = cs (h.length + 2) := by simpa using hc'
      simpa [afterStore, hfails'] using hq _
    · obtain rfl : c' = cs (h.length + 2) := by simpa using hc'
      simpa [afterStore, hfails'] using hq _
  · exact hfail _ _ (.inr (by simpa [hc] using hfails))

/-- Once nothing is left of the call but to audit, it succeeds. -/
theorem ends_audited (svc : AuthSvc) (actorId actorEmail action : String) {db₀ : Db}
    {done : Db → Prop} {X : Prop} {A : State → List (Event Resp) → Choice → Event Resp → Prop}
    (hdone : ∀ db', Frame [.auditEvents] st.db db' → (done db' ↔ X)) :
    (do auditAs svc actorId actorEmail action "" "" none; return true : Handler Bool).Ends
      (machine cr conn) A (fun r st' _ => AllOrNothing done db₀ st'.db r ↔ X) st h := by
  refine .bind (ends_auditAs svc fun db' es hframe _ => ?_)
  exact hdone db' hframe

theorem replaced_frame {u : Uuid} {hash : String} {db db' : Db} (hframe : Frame [.auditEvents] db db') :
    Replaced u hash db' ↔ Replaced u hash db := by
  have husers := hframe.users (by simp)
  have htokens := hframe.refreshTokens (by simp)
  constructor
  · intro hr
    exact ⟨by simpa [husers] using hr.stored, by simpa [NoLiveTokens, htokens] using hr.revoked⟩
  · intro hr
    exact ⟨by simpa [husers] using hr.stored, by simpa [NoLiveTokens, htokens] using hr.revoked⟩

end Atomic

/-- What a reset of user `u`'s password that succeeds leaves behind. -/
def resetDone (cr : Crates) (req : ResetPasswordRequest) (u : Uuid) (cs : Nat → Choice) (db : Db) :
    Prop :=
  Spent (cs 0).now (hashToken cr req.token) db ∧
    ∃ hash, cr.passwordHash (cs 1) req.newPassword = some hash ∧ Replaced u hash db

/-- What a change of the caller's password that succeeds leaves behind. -/
def changeDone (cr : Crates) (md : MetadataMap) (req : ChangePasswordRequest) (cs : Nat → Choice)
    (db : Db) : Prop :=
  ∃ u hash, cr.parseUuid (metaOf md "x-user-id") = some u ∧
    cr.passwordHash (cs 2) req.newPassword = some hash ∧ Replaced u hash db

/-- reset_password fails before it consumes the token, or nothing fails up to the
write of the hash, and the revocation is carried out or has nothing to revoke. -/
def resetWhole (cr : Crates) (req : ResetPasswordRequest) (u : Uuid) (cs : Nat → Choice) (db : Db) :
    Prop :=
  tooShort req.newPassword = true ∨ (cs 0).fails = true ∨
    ((cr.passwordHash (cs 1) req.newPassword).isSome = true ∧ (cs 2).fails = false ∧
      ((cs 3).fails = false ∨ NoLiveTokens u db))

/-- What has to go well for change_password to write the hash of user `u`. -/
structure ChangeStores (cr : Crates) (md : MetadataMap) (req : ChangePasswordRequest) (u : Uuid)
    (cs : Nat → Choice) (db : Db) : Prop where
  caller : cr.parseUuid (metaOf md "x-user-id") = some u
  long : tooShort req.newPassword = false
  read : (cs 0).fails = false
  verified : ∃ row, Repo.getUserById u db = some row ∧
    cr.passwordVerify row.passwordHash req.oldPassword = true
  hashed : (cr.passwordHash (cs 2) req.newPassword).isSome = true
  written : (cs 3).fails = false

/-- If change_password writes the hash, the revocation is carried out or has nothing
to revoke. -/
def changeWhole (cr : Crates) (md : MetadataMap) (req : ChangePasswordRequest) (cs : Nat → Choice)
    (db : Db) : Prop :=
  ∀ u, ChangeStores cr md req u cs db → (cs 4).fails = false ∨ NoLiveTokens u db

section Handlers

variable {cs : Nat → Choice}

theorem ends_resetPassword (svc : AuthSvc) (req : ResetPasswordRequest) {t : OneTimeToken}
    (hvalid : st.db.passwordResets.find? (Repo.consumable (cs 0) (hashToken cr req.token)) = some t) :
    (resetPassword cr svc req).Ends (machine cr conn) (fun _ h c _ => c = cs h.length)
      (fun r st' _ => AllOrNothing (resetDone cr req t.userId cs) st.db st'.db r ↔
        resetWhole cr req t.userId cs st.db) st [] := by
  have hopen := List.find?_some hvalid
  simp only [Repo.consumable, Bool.and_eq_true, decide_eq_true_eq, beq_iff_eq,
    Option.isNone_iff_eq_none] at hopen
  obtain ⟨⟨hhash, hunused⟩, hlive⟩ := hopen
  have hspent := spent_consume (cs 0) (hashToken cr req.token) st.db
  -- A consumed token is no state to fail in.
  have htouched : ¬NothingStored st.db (Repo.consumePasswordReset (cs 0) (hashToken cr req.token) st.db).2 := by
    intro hsame
    have hexpired := hspent t (by rw [hsame.resets]; exact List.mem_of_find?_eq_some hvalid) hhash hunused
    exact absurd hlive (Int.not_lt.mpr hexpired)
  unfold resetPassword
  refine .bind (Prog.ends_of_failIf (fun hshort => ?_) fun hlong => ?_)
  · exact iff_of_true ⟨rfl, rfl, rfl⟩ (.inl hshort)
  refine .bind (ends_query_total (.consumePasswordReset (hashToken cr req.token)) _
    (fun c => Repo.consumePasswordReset c (hashToken cr req.token) st.db) (fun _ => rfl)
    (fun c hc hfails => ?_) fun c e hc hfails => ?_)
  · obtain rfl : c = cs 0 := hc
    have hfound : (Repo.consumePasswordReset (cs 0) (hashToken cr req.token) st.db).1 =
        some t.userId := by
      simp only [Repo.consumePasswordReset, Repo.consumeOneTimeToken, hvalid, Option.map_some]
    rw [Prog.endsThen_ok, hfound]
    refine .bind (Prog.ends_of_okOr (fun hnone => absurd hnone (by simp)) fun u hu => ?_)
    cases hu
    refine .bind (ends_storePassword t.userId req.newPassword (fun f h' hfail => ?_)
      fun hash h' hnew hwrite => ?_)
    · refine iff_of_false htouched ?_
      rintro (hshort | hlost | ⟨hhashed, hwritten, -⟩)
      · exact absurd (hlong.symm.trans hshort) (by simp)
      · exact absurd (hfails.symm.trans hlost) (by simp)
      · rcases hfail with hnone | hlost
        · have hnone' : cr.passwordHash (cs 1) req.newPassword = none := hnone
          simp [hnone'] at hhashed
        · exact absurd (hwritten.symm.trans hlost) (by simp)
    · have hnew' : cr.passwordHash (cs 1) req.newPassword = some hash := hnew
      have hwrite' : (cs 2).fails = false := hwrite
      refine ends_audited svc _ _ _ fun db' hframe => ?_
      have hspent' : Spent (cs 0).now (hashToken cr req.token) db' := by
        intro t' ht'
        rw [hframe.passwordResets (by simp), afterStore_resets] at ht'
        exact hspent t' ht'
      have hreplaced := replaced_afterStore (cs 3) t.userId hash
        (Repo.consumePasswordReset (cs 0) (hashToken cr req.token) st.db).2
      constructor
      · rintro ⟨-, hash', hhash', hstored⟩
        cases hnew'.symm.trans hhash'
        exact .inr (.inr ⟨by simp [hnew'], hwrite', hreplaced.mp ((replaced_frame hframe).mp hstored)⟩)
      · rintro (hshort | hlost | ⟨-, -, hrevoked⟩)
        · exact absurd (hlong.symm.trans hshort) (by simp)
        · exact absurd (hfails.symm.trans hlost) (by simp)
        · exact ⟨hspent', hash, hnew', (replaced_frame hframe).mpr (hreplaced.mpr hrevoked)⟩
  · obtain rfl : c = cs 0 := hc
    exact iff_of_true ⟨rfl, rfl, rfl⟩ (.inr (.inl hfails))

theorem ends_changePassword (svc : AuthSvc) (md : MetadataMap) (req : ChangePasswordRequest) :
    (changePassword cr svc md req).Ends (machine cr conn) (fun _ h c _ => c = cs h.length)
      (fun r st' _ => AllOrNothing (changeDone cr md req cs) st.db st'.db r ↔
        changeWhole cr md req cs st.db) st [] := by
  -- A call that does not get to the write leaves everything as it was.
  have hearly : (∀ u, ¬ChangeStores cr md req u cs st.db) →
      (NothingStored st.db st.db ↔ changeWhole cr md req cs st.db) :=
    fun hnot => iff_of_true ⟨rfl, rfl, rfl⟩ fun u hstores => absurd hstores (hnot u)
  unfold changePassword callerUuid callerUser
  refine .bind (Prog.ends_of_okOr (fun hnone => ?_) fun u hu => ?_)
  · refine hearly fun u hstores => ?_
    cases hnone.symm.trans hstores.caller
  refine .bind (Prog.ends_of_failIf (fun hshort => ?_) fun hlong => ?_)
  · exact hearly fun u hstores => absurd (hshort.symm.trans hstores.long) (by simp)
  refine .bind (.bind (ends_query_total (.getUserById u) _
    (fun _ => (Repo.getUserById u st.db, st.db)) (fun _ => rfl) (fun c hc hread => ?_)
    fun c e hc hlost => ?_))
  · obtain rfl : c = cs 0 := hc
    refine Prog.ends_of_okOr (fun hnone => ?_) fun row hrow => ?_
    · refine hearly fun u' hstores => ?_
      cases hu.symm.trans hstores.caller
      obtain ⟨row, hrow, -⟩ := hstores.verified
      cases hnone.symm.trans hrow
    refine .bind (ends_sys _ fun c₁ _ => ?_)
    refine .bind (Prog.ends_of_failIf (fun hwrong => ?_) fun hright => ?_)
    · refine hearly fun u' hstores => ?_
      cases hu.symm.trans hstores.caller
      obtain ⟨row', hrow', hverified⟩ := hstores.verified
      cases hrow.symm.trans hrow'
      have hwrong' : (!cr.passwordVerify row.passwordHash req.oldPassword) = true := hwrong
      simp [hverified] at hwrong'
    have hverified : cr.passwordVerify row.passwordHash req.oldPassword = true := by
      simpa [Sys.exec] using hright
    refine .bind (ends_storePassword u req.newPassword (fun f h' hfail => ?_)
      fun hash h' hnew hwrite => ?_)
    · refine hearly fun u' hstores => ?_
      rcases hfail with hnone | hlost
      · have hnone' : cr.passwordHash (cs 2) req.newPassword = none := hnone
        have hhashed := hstores.hashed
        simp [hnone'] at hhashed
      · exact absurd (hstores.written.symm.trans hlost) (by simp)
    · have hnew' : cr.passwordHash (cs 2) req.newPassword = some hash := hnew
      have hstores : ChangeStores cr md req u cs st.db :=
        ⟨hu, hlong, hread, ⟨row, hrow, hverified⟩, by simp [hnew'], hwrite⟩
      refine ends_audited svc _ _ _ fun db' hframe => ?_
      have hreplaced := replaced_afterStore (cs 4) u hash st.db
      constructor
      · rintro ⟨u', hash', hu', hhash', hstored⟩ u'' hstores'
        cases hu.symm.trans hu'
        cases hu.symm.trans hstores'.caller
        cases hnew'.symm.trans hhash'
        exact hreplaced.mp ((replaced_frame hframe).mp hstored)
      · intro hwhole
        exact ⟨u, hash, hu, hnew', (replaced_frame hframe).mpr (hreplaced.mpr (hwhole u hstores))⟩
  · obtain rfl : c = cs 0 := hc
    exact hearly fun u' hstores => absurd (hstores.read.symm.trans hlost) (by simp)

end Handlers

/-- A reset with a valid token, and a change, are all-or-nothing exactly when nothing
fails between the first write and the last, or the last has nothing to write. -/
theorem allOrNothing_iff (cr : Crates) (conn : DbRole) (svc : AuthSvc) (st : State)
    (cs : Nat → Choice) :
    (∀ (req : ResetPasswordRequest) (t : OneTimeToken),
      st.db.passwordResets.find? (Repo.consumable (cs 0) (hashToken cr req.token)) = some t →
      let done := (resetPassword cr svc req).eval (machine cr conn) cs st
      AllOrNothing (resetDone cr req t.userId cs) st.db done.2.1.db done.1 ↔
        resetWhole cr req t.userId cs st.db) ∧
    (∀ (md : MetadataMap) (req : ChangePasswordRequest),
      let done := (changePassword cr svc md req).eval (machine cr conn) cs st
      AllOrNothing (changeDone cr md req cs) st.db done.2.1.db done.1 ↔
        changeWhole cr md req cs st.db) := by
  constructor
  · intro req t hvalid
    have hends : (resetPassword cr svc req).Ends (machine cr conn) (fun _ h c _ => c = cs h.length)
        (fun r st' _ => AllOrNothing (resetDone cr req t.userId cs) st.db st'.db r ↔
          resetWhole cr req t.userId cs st.db) st [] := ends_resetPassword svc req hvalid
    exact hends.eval_meets (Prog.meets_choices _ cs)
  · intro md req
    have hends : (changePassword cr svc md req).Ends (machine cr conn)
        (fun _ h c _ => c = cs h.length)
        (fun r st' _ => AllOrNothing (changeDone cr md req cs) st.db st'.db r ↔
          changeWhole cr md req cs st.db) st [] := ends_changePassword svc md req
    exact hends.eval_meets (Prog.meets_choices _ cs)

namespace Sample

/-- The same user, with a live refresh token. -/
def signedIn : State :=
  { resettable with db := { resettable.db with
    refreshTokens := [⟨⟨10, seconds 3600, none, none, defaultTenantId, none⟩, "r0"⟩] } }

/-- Choices of which the `n`-th fails. -/
def failsAt (n : Nat) (i : Nat) : Choice := { choice 0 0 "" with fails := i == n }

def resetAt (n : Nat) : Except Failure Bool × State × List (Event Resp) :=
  (resetPassword crates svc ⟨"t0", "password2"⟩).eval (machine crates .superuser) (failsAt n) signedIn

def changeAt (n : Nat) : Except Failure Bool × State × List (Event Resp) :=
  (changePassword crates svc (metadata 10 defaultTenantId "") ⟨"pw", "password1"⟩).eval
    (machine crates .superuser) (failsAt n) signedIn

/-- With the fifth statement failing, which a reset does not have. -/
theorem allOrNothing_reset :
    AllOrNothing (resetDone crates ⟨"t0", "password2"⟩ 10 (failsAt 4)) signedIn.db
      (resetAt 4).2.1.db (resetAt 4).1 :=
  ((allOrNothing_iff crates .superuser svc signedIn (failsAt 4)).1 ⟨"t0", "password2"⟩
    ⟨"t0", 10, seconds 3600, none⟩ (by decide)).mpr (.inr (.inr ⟨rfl, rfl, .inl rfl⟩))

/-- A lost write leaves a consumed token and the old password; a lost revocation
leaves the refresh token live behind a success. -/
theorem notAllOrNothing :
    ((resetAt 2).1 = .error (internal "failed to update password") ∧
      ¬AllOrNothing (resetDone crates ⟨"t0", "password2"⟩ 10 (failsAt 2)) signedIn.db
        (resetAt 2).2.1.db (resetAt 2).1) ∧
    ((resetAt 3).1 = .ok true ∧
      ¬AllOrNothing (resetDone crates ⟨"t0", "password2"⟩ 10 (failsAt 3)) signedIn.db
        (resetAt 3).2.1.db (resetAt 3).1) ∧
    ((changeAt 4).1 = .ok true ∧
      ¬AllOrNothing (changeDone crates (metadata 10 defaultTenantId "") ⟨"pw", "password1"⟩
        (failsAt 4)) signedIn.db (changeAt 4).2.1.db (changeAt 4).1) := by
  have hlive : (⟨⟨10, seconds 3600, none, none, defaultTenantId, none⟩, "r0"⟩ : RefreshToken) ∈
      (resetAt 3).2.1.db.refreshTokens := by decide
  have hlive' : (⟨⟨10, seconds 3600, none, none, defaultTenantId, none⟩, "r0"⟩ : RefreshToken) ∈
      (changeAt 4).2.1.db.refreshTokens := by decide
  have hlost : (resetAt 2).1 = .error (internal "failed to update password") := by decide
  have hreset : (resetAt 3).1 = .ok true := by decide
  have hchange : (changeAt 4).1 = .ok true := by decide
  refine ⟨⟨hlost, ?_⟩, ⟨hreset, ?_⟩, hchange, ?_⟩
  · rw [hlost]
    intro h
    exact absurd h.resets (by decide)
  · rw [hreset]
    intro h
    obtain ⟨-, hash, -, hreplaced⟩ := h
    exact absurd (hreplaced.revoked _ hlive rfl) (by simp)
  · rw [hchange]
    intro h
    obtain ⟨u, hash, hu, -, hreplaced⟩ := h
    have huser : u = 10 := by
      have hparsed : crates.parseUuid (metaOf (metadata 10 defaultTenantId "") "x-user-id") = some 10 :=
        parse_format 10
      exact (Option.some.inj (hparsed.symm.trans hu)).symm
    exact absurd (hreplaced.revoked _ hlive' huser.symm) (by simp)

end Sample

end IamAuth
