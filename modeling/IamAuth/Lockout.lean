import IamAuth.Sequential

/-!
# The failure counter and the lock

What one call of login or login_totp that runs alone does to the counter of its
user, path by path, and from it what a sequence of such calls does. A lock whose
end chrono cannot represent is never written: the call panics between the count
and the lock.
-/

set_option autoImplicit false

namespace IamAuth

open Interleave Relational

/-! ## What the events of a call show -/

def foundByEmail (id : Uuid) : Event Resp → Bool
  | ⟨.sql (.getUserByEmail _), .ok (some u)⟩ => u.id == id
  | _ => false

def passwordRejected : Event Resp → Bool
  | ⟨.sys (.verifyPassword ..), valid⟩ => !valid
  | _ => false

/-- A code that is neither a current TOTP nor an unused recovery code. -/
def codeRejected (id : Uuid) : Event Resp → Bool
  | ⟨.sql (.consumeRecoveryCode userId _), .ok spent⟩ => userId == id && !spent
  | _ => false

/-- A wrong password or code of this user was evaluated. -/
def rejectedFor (id : Uuid) (h : List (Event Resp)) : Bool :=
  h.any (foundByEmail id) && h.any passwordRejected || h.any (codeRejected id)

/-- The event locks the user, or resets the counter and the lock. -/
def clearsFor (id : Uuid) : Event Resp → Bool
  | ⟨.sql (.lockUser userId _), .ok _⟩ => userId == id
  | ⟨.sql (.resetLoginState userId), .ok _⟩ => userId == id
  | _ => false

/-- The event evaluates a password or a code, or spends a recovery code. -/
def evaluates : Event Resp → Bool
  | ⟨.sys (.verifyPassword ..), _⟩ => true
  | ⟨.sys (.validateTotp ..), _⟩ => true
  | ⟨.sql (.consumeRecoveryCode ..), _⟩ => true
  | _ => false

/-- What follows the check of a password or a code, and what precedes it. -/
def Trailing : Op → Prop
  | .sql (.insertAudit ..) => True
  | .sql (.getUserById _) => True
  | .sql (.listMemberships _) => True
  | .sql (.createRefreshToken ..) => True
  | .sql _ => False
  | .sys (.verifyPassword ..) => False
  | .sys (.validateTotp ..) => False
  | _ => True

theorem Trailing.silent {e : Event Resp} (he : Trailing e.1) (id : Uuid) :
    foundByEmail id e = false ∧ passwordRejected e = false ∧ codeRejected id e = false ∧
      clearsFor id e = false ∧ evaluates e = false := by
  obtain ⟨o, r⟩ := e
  cases o with
  | sql s => cases s <;> first | exact he.elim | exact ⟨rfl, rfl, rfl, rfl, rfl⟩
  | redis c => exact ⟨rfl, rfl, rfl, rfl, rfl⟩
  | sys s => cases s <;> first | exact he.elim | exact ⟨rfl, rfl, rfl, rfl, rfl⟩

/-- Events that show nothing more than those before them. -/
def Silent (es : List (Event Resp)) : Prop := ∀ e ∈ es, Trailing e.1

theorem silent_nil : Silent [] := by
  intro e he
  cases he

theorem Silent.append {es es' : List (Event Resp)} (h : Silent es) (h' : Silent es') :
    Silent (es ++ es') := by
  intro e he
  rcases List.mem_append.mp he with he | he
  · exact h e he
  · exact h' e he

theorem Silent.any {es : List (Event Resp)} (hes : Silent es) (id : Uuid) :
    es.any (foundByEmail id) = false ∧ es.any passwordRejected = false ∧
      es.any (codeRejected id) = false ∧ es.any (clearsFor id) = false ∧
      es.any evaluates = false := by
  have hall : ∀ q : Event Resp → Bool, (∀ e, Trailing e.1 → q e = false) → es.any q = false := by
    intro q hq
    rw [List.any_eq_false]
    intro e he
    simp [hq e (hes e he)]
  refine ⟨hall _ ?_, hall _ ?_, hall _ ?_, hall _ ?_, hall _ ?_⟩
  · intro e he
    exact (he.silent id).1
  · intro e he
    exact (he.silent id).2.1
  · intro e he
    exact (he.silent id).2.2.1
  · intro e he
    exact (he.silent id).2.2.2.1
  · intro e he
    exact (he.silent id).2.2.2.2

/-- The wrong evaluations and the clearings that the events show, by user. -/
structure Shows (h : List (Event Resp)) (rejected cleared : Uuid → Bool) : Prop where
  rejected : ∀ id, rejectedFor id h = rejected id
  cleared : ∀ id, h.any (clearsFor id) = cleared id

theorem Shows.append {h es : List (Event Resp)} {rejected cleared : Uuid → Bool}
    (hs : Shows h rejected cleared) (hes : Silent es) : Shows (h ++ es) rejected cleared where
  rejected := by
    intro id
    obtain ⟨hfound, hpassword, hcode, -, -⟩ := hes.any id
    rw [← hs.rejected id]
    simp only [rejectedFor, List.any_append, hfound, hpassword, hcode, Bool.or_false]
  cleared := by
    intro id
    rw [← hs.cleared id, List.any_append, (hes.any id).2.2.2.1, Bool.or_false]

/-- One more event that evaluates nothing. -/
theorem Shows.snoc {h : List (Event Resp)} {rejected cleared : Uuid → Bool}
    (hs : Shows h rejected cleared) {e : Event Resp} (hfound : ∀ id, foundByEmail id e = false)
    (hpassword : passwordRejected e = false) (hcode : ∀ id, codeRejected id e = false) :
    Shows (h ++ [e]) rejected fun id => cleared id || clearsFor id e where
  rejected := by
    intro id
    rw [← hs.rejected id]
    simp only [rejectedFor, List.any_append, List.any_cons, List.any_nil, hfound, hpassword,
      hcode, Bool.or_false]
  cleared := by
    intro id
    rw [← hs.cleared id]
    simp

/-! ## The paths of a sign-in -/

def lockedAt (now : DateTime) (u : UserRow) : Prop :=
  ∃ until_, u.lockedUntil = some until_ ∧ now < until_

/-- The user that a sign-in is for. -/
def signInUser (cr : Crates) (now : DateTime) (db : Db) : Call → Option UserRow
  | .rpc _ _ (.login req) => Repo.getUserByEmail req.email db
  | .rpc _ _ (.loginTotp req) => do
    let claims ← cr.jwtParse now req.mfaToken
    Repo.getUserById (← cr.parseUuid claims.sub) db
  | _ => none

/-- A TOTP of this time, or a recovery code that is not spent. -/
def codeValid (cr : Crates) (now : DateTime) (db : Db) (userId : Uuid) (secret code : String) : Prop :=
  validateTotp cr now code secret = true ∨
    db.totpRecoveryCodes.any (Repo.unusedCode userId (hashToken cr code)) = true

/-- The sign-in gets as far as the password or code of this user, and that is wrong. -/
def guessesWrong (cr : Crates) (now : DateTime) (db : Db) (u : UserRow) : Call → Prop
  | .rpc _ _ (.login req) => cr.passwordVerify u.passwordHash req.password = false
  | .rpc svc _ (.loginTotp req) =>
    (∃ claims, cr.jwtParse now req.mfaToken = some claims ∧ claims.purpose = "mfa") ∧
    mfaPending u = true ∧
    ¬codeValid cr now db u.id ((u.totpSecret.bind (svc.totpEnc.decrypt cr)).getD "") req.code
  | _ => False

/-- What a sign-in does to the users, path by path. `wrong` is whether it would guess wrong. -/
inductive SignInPath {α : Type} (max secs : Int) (now : DateTime) (found : Option UserRow)
    (wrong : UserRow → Prop) (st : State) (r : Except Failure α) (st' : State)
    (h : List (Event Resp)) : Prop where
  | shut (hr : ∃ e, r = .error e) (hst : st' = st) (heval : h.any evaluates = false)
    (hshut : ∀ u, found = some u → wrong u → lockedAt now u)
    (hshows : Shows h (fun _ => false) fun _ => false)
  | unknown (hfound : found = none) (hst : st' = st)
    (hshows : Shows h (fun _ => false) fun _ => false)
  | passed (u : UserRow) (hfound : found = some u) (hopen : ¬lockedAt now u) (hright : ¬wrong u)
    (husers : st'.db.users = st.db.users) (hshows : Shows h (fun _ => false) fun _ => false)
  | failed (u : UserRow) (hfound : found = some u) (hopen : ¬lockedAt now u)
    (hcount : u.failedLoginAttempts + 1 < max)
    (husers : st'.db.users = updateWhere (fun v => v.id == u.id)
      (fun v => { v with failedLoginAttempts := v.failedLoginAttempts + 1 }) st.db.users)
    (hshows : Shows h (fun id => u.id == id) fun _ => false)
  | locked (u : UserRow) (hfound : found = some u) (hopen : ¬lockedAt now u)
    (hcount : max ≤ u.failedLoginAttempts + 1) (hfits : FitsChrono now secs)
    (husers : st'.db.users = updateWhere (fun v => v.id == u.id)
      (fun v => { v with lockedUntil := some (now + seconds secs), failedLoginAttempts := 0 })
      st.db.users)
    (hshows : Shows h (fun id => u.id == id) fun id => u.id == id)
  | overflow (u : UserRow) (hfound : found = some u) (hopen : ¬lockedAt now u) (hwrong : wrong u)
    (hcount : max ≤ u.failedLoginAttempts + 1) (hfits : ¬FitsChrono now secs)
    (husers : st'.db.users = updateWhere (fun v => v.id == u.id)
      (fun v => { v with failedLoginAttempts := v.failedLoginAttempts + 1 }) st.db.users)
  | reset (u : UserRow) (hfound : found = some u) (hopen : ¬lockedAt now u) (hright : ¬wrong u)
    (husers : st'.db.users = updateWhere (fun v => v.id == u.id)
      (fun v => { v with failedLoginAttempts := 0, lockedUntil := none }) st.db.users)
    (hshows : Shows h (fun _ => false) fun id => u.id == id)

/-- Wrapping a result keeps its path. -/
theorem SignInPath.map {α β : Type} {max secs : Int} {now : DateTime} {found : Option UserRow}
    {wrong : UserRow → Prop} {st st' : State} {r : Except Failure α} {r' : Except Failure β}
    {h : List (Event Resp)} (hpath : SignInPath max secs now found wrong st r st' h)
    (hr : ∀ e, r = .error e → r' = .error e) : SignInPath max secs now found wrong st r' st' h := by
  cases hpath with
  | shut hr' hst heval hshut hshows =>
    obtain ⟨e, he⟩ := hr'
    exact .shut ⟨e, hr e he⟩ hst heval hshut hshows
  | unknown hfound hst hshows => exact .unknown hfound hst hshows
  | passed u hfound hopen hright husers hshows =>
    exact .passed u hfound hopen hright husers hshows
  | failed u hfound hopen hcount husers hshows =>
    exact .failed u hfound hopen hcount husers hshows
  | locked u hfound hopen hcount hfits husers hshows =>
    exact .locked u hfound hopen hcount hfits husers hshows
  | overflow u hfound hopen hwrong hcount hfits husers =>
    exact .overflow u hfound hopen hwrong hcount hfits husers
  | reset u hfound hopen hright husers hshows =>
    exact .reset u hfound hopen hright husers hshows

/-! ## The parts of the handlers -/

section Parts

variable {α : Type} {cr : Crates} {conn : DbRole} {now : DateTime} {st : State}
  {h : List (Event Resp)}

/-- What follows a check changes no user. -/
theorem ends_trailing {p : Handler α} (hp : p.Emits Trailing)
    {Q : Except Failure α → State → List (Event Resp) → Prop}
    (hQ : ∀ r st' es, st'.db.users = st.db.users → Silent es → Q r st' (h ++ es)) :
    p.Ends (machine cr conn) (Steady fun _ c => c.now = now) Q st h := by
  refine hp.ends (I := fun st' h' => st'.db.users = st.db.users ∧ ∃ es, h' = h ++ es ∧ Silent es)
    ?_ ?_ ⟨rfl, [], by simp, silent_nil⟩
  · rintro o c st' h' ho - ⟨husers, es, rfl, hes⟩
    refine ⟨?_, es ++ [_], (List.append_assoc _ _ _), hes.append ?_⟩
    · cases o with
      | sql s =>
        rw [exec_sql_db, (Sql.run_frame conn s c st'.db).users, husers]
        cases s <;> first | exact ho.elim | simp [Sql.writes]
      | redis r => exact husers
      | sys s => exact husers
    · intro e he
      cases List.mem_singleton.mp he
      exact ho
  · rintro r st' h' ⟨husers, es, rfl, hes⟩
    exact hQ r st' es husers hes

theorem silent_audit {actorId actorEmail action target detail : String} {tenant : Option Uuid}
    {es : List (Event Resp)}
    (hes : ∀ e ∈ es, e.1 = .sql (.insertAudit actorId actorEmail action target detail tenant)) :
    Silent es := by
  intro e he
  rw [hes e he]
  trivial

theorem trailing_auditAs (svc : AuthSvc) (actorId actorEmail action target detail : String)
    (tenant : Option Uuid) :
    (auditAs svc actorId actorEmail action target detail tenant).Emits Trailing := by
  simp [Prog.Emits, Trailing]

theorem trailing_issueForActiveTenant (cr : Crates) (svc : AuthSvc) (userId : Uuid)
    (email : String) : (issueForActiveTenant cr svc userId email).Emits Trailing := by
  simp [issueForActiveTenant, issueTokens, Prog.Emits, Trailing]

/-- How often the check of the lock reads the clock. -/
def clockReads (user : UserRow) : Nat := if user.lockedUntil.isSome then 1 else 0

theorem ends_refuseIfLocked {P : List (Event Resp) → Choice → Prop} {user : UserRow}
    (hclock : ∀ c, P h c → c.now = now)
    {Q : Except Failure Unit → State → List (Event Resp) → Prop}
    (hshut : ∀ es, lockedAt now user → Silent es →
      Q (.error (unauthenticated "account temporarily locked, try again later")) st (h ++ es))
    (hopen : ∀ es, ¬lockedAt now user → es.length = clockReads user → Silent es →
      Q (.ok ()) st (h ++ es)) :
    (refuseIfLocked user).Ends (machine cr conn) (Steady P) Q st h := by
  unfold refuseIfLocked
  split
  · next hnone =>
    have hq := hopen [] ?_ (by simp [clockReads, hnone]) silent_nil
    · rwa [List.append_nil] at hq
    · rintro ⟨until_, huntil, -⟩
      rw [hnone] at huntil
      cases huntil
  · next until_ huntil =>
    refine .bind (ends_sys _ fun c hc => ?_)
    have hnow : Sys.utcNow.exec cr c = now := hclock c hc.1
    have hsilent : Silent [⟨.sys .utcNow, now⟩] := by
      intro e he
      cases List.mem_singleton.mp he
      trivial
    rw [hnow, Prog.endsThen_ok]
    refine Prog.ends_of_failIf ?_ ?_
    · intro hlate
      exact hshut _ ⟨until_, huntil, of_decide_eq_true hlate⟩ hsilent
    · intro hlate
      refine hopen _ ?_ (by simp [clockReads, huntil]) hsilent
      rintro ⟨until', huntil', hlt⟩
      cases huntil.symm.trans huntil'
      exact of_decide_eq_false hlate hlt

theorem lockUser_counted (id : Uuid) (until_ : DateTime) (db : Db) :
    (Repo.lockUser id until_ (Repo.updateUser id
      (fun u => { u with failedLoginAttempts := u.failedLoginAttempts + 1 }) db)).users =
      updateWhere (fun v => v.id == id)
        (fun v => { v with lockedUntil := some until_, failedLoginAttempts := 0 }) db.users := by
  simp only [Repo.lockUser, Repo.updateUser]
  rw [updateWhere_updateWhere]
  intro v hv
  exact hv

/-- One failure counted, below the limit or at it; at the limit the lock may overflow. -/
theorem ends_countFailure {svc : AuthSvc} {max secs : Int} (hmax : svc.config.loginMaxFailures = max)
    (hsecs : svc.config.loginLockoutSecs = secs) (hpos : 0 < max) {u : UserRow}
    (hu : Repo.getUserById u.id st.db = some u) (email detail : String) {rejected : Uuid → Bool}
    (hshows : Shows h rejected fun _ => false)
    {Q : Except Failure Unit → State → List (Event Resp) → Prop}
    (hfailed : ∀ st' h', u.failedLoginAttempts + 1 < max →
      st'.db.users = updateWhere (fun v => v.id == u.id)
        (fun v => { v with failedLoginAttempts := v.failedLoginAttempts + 1 }) st.db.users →
      Shows h' rejected (fun _ => false) → Q (.ok ()) st' h')
    (hlocked : ∀ st' h', max ≤ u.failedLoginAttempts + 1 → FitsChrono now secs →
      st'.db.users = updateWhere (fun v => v.id == u.id)
        (fun v => { v with lockedUntil := some (now + seconds secs), failedLoginAttempts := 0 })
        st.db.users →
      Shows h' rejected (fun id => u.id == id) → Q (.ok ()) st' h')
    (hoverflow : ∀ st' h', max ≤ u.failedLoginAttempts + 1 → ¬FitsChrono now secs →
      st'.db.users = updateWhere (fun v => v.id == u.id)
        (fun v => { v with failedLoginAttempts := v.failedLoginAttempts + 1 }) st.db.users →
      Q (.error .panic) st' h') :
    (countFailure cr svc u.id email detail).Ends (machine cr conn) (Steady fun _ c => c.now = now)
      Q st h := by
  unfold countFailure
  rw [hmax, hsecs, if_pos hpos]
  refine .bind (steady_attempt _ fun c n db₁ hc hx => ?_)
  simp only [Sql.exec, Repo.incrementLoginFailure, hu] at hx
  split at hx
  · obtain ⟨rfl, rfl⟩ := Prod.mk.inj (Except.ok.inj hx)
    rw [Prog.endsThen_ok]
    dsimp only
    have hcounted := hshows.snoc (e := ⟨.sql (.incrementLoginFailure u.id),
      .ok (u.failedLoginAttempts + 1)⟩) (fun _ => rfl) rfl fun _ => rfl
    split
    · next hreached =>
      refine .bind (ends_sys _ fun c₁ hc₁ => ?_)
      have hnow : Sys.utcNow.exec cr c₁ = now := hc₁.1
      rw [hnow, Prog.endsThen_ok]
      have htimed := hcounted.snoc (e := ⟨.sys .utcNow, now⟩) (fun _ => rfl) rfl fun _ => rfl
      refine .bind (ends_addSeconds now secs (fun hfits => ?_) fun hout => ?_)
      · refine .bind (steady_ignore _ fun c₂ r db₂ _ hx₂ => ?_)
        obtain ⟨-, rfl⟩ := Prod.mk.inj (Except.ok.inj hx₂)
        have hlock := htimed.snoc (e := ⟨.sql (.lockUser u.id (now + seconds secs)), .ok r⟩)
          (fun _ => rfl) rfl fun _ => rfl
        refine ends_auditAs svc fun db₃ es hf hes => ?_
        refine hlocked _ _ hreached hfits ?_ ?_
        · exact (hf.users (by simp)).trans (lockUser_counted u.id _ st.db)
        · refine Shows.append ?_ (silent_audit hes)
          simpa [clearsFor] using hlock
      · -- The count is committed, the lock is not written.
        exact hoverflow _ _ hreached hout rfl
    · next hbelow =>
      refine hfailed _ _ (not_le.mp hbelow) rfl ?_
      simpa [clearsFor] using hcounted
  · cases hx

/-- A wrong guess at an account that is not locked is counted, and the call fails. -/
theorem ends_wrongGuess {svc : AuthSvc} {max secs : Int} (hmax : svc.config.loginMaxFailures = max)
    (hsecs : svc.config.loginLockoutSecs = secs) (hpos : 0 < max) {found : Option UserRow}
    {wrong : UserRow → Prop} {st₀ : State} {u : UserRow} (hfound : found = some u)
    (hopen : ¬lockedAt now u) (hwrong : wrong u) (hu : Repo.getUserById u.id st.db = some u)
    (husers : st.db.users = st₀.db.users) (hshows : Shows h (fun id => u.id == id) fun _ => false)
    {email text actorId actorEmail action target detail : String} {e : Failure} :
    (do
      countFailure cr svc u.id email text
      auditAs svc actorId actorEmail action target detail none
      Prog.fail e : Handler α).Ends (machine cr conn) (Steady fun _ c => c.now = now)
      (SignInPath max secs now found wrong st₀) st h := by
  refine .bind (ends_countFailure hmax hsecs hpos hu _ _ hshows ?_ ?_ ?_)
  · intro st' h' hcount husers' hshows'
    refine .bind (ends_auditAs svc fun db'' es' hf hes' => ?_)
    refine .failed u hfound hopen hcount ?_ (hshows'.append (silent_audit hes'))
    rw [← husers, ← husers']
    exact hf.users (by simp)
  · intro st' h' hcount hfits husers' hshows'
    refine .bind (ends_auditAs svc fun db'' es' hf hes' => ?_)
    refine .locked u hfound hopen hcount hfits ?_ (hshows'.append (silent_audit hes'))
    rw [← husers, ← husers']
    exact hf.users (by simp)
  · intro st' h' hcount hfits husers'
    exact .overflow u hfound hopen hwrong hcount hfits (by rw [husers', husers])

/-! ## login -/

/-- The primary key of `users`. -/
def UserIds (db : Db) : Prop := (db.users.map (·.id)).Nodup

theorem UserIds.find {db : Db} (hids : UserIds db) {u : UserRow} (hu : u ∈ db.users) :
    Repo.getUserById u.id db = some u := by
  unfold Repo.getUserById
  cases hfind : db.users.find? fun v => v.id == u.id with
  | none => exact absurd (by simp) (List.find?_eq_none.mp hfind u hu)
  | some v =>
    have hid : v.id = u.id := by simpa using List.find?_some hfind
    rw [List.inj_on_of_nodup_map hids (List.mem_of_find?_eq_some hfind) hu hid]

theorem trailing_finishLogin (cr : Crates) (svc : AuthSvc) (u : UserRow) :
    (if u.totpEnabled then do
        auditAs svc (cr.formatUuid u.id) u.email "login.mfa_challenge" "" "" none
        let mfa ← Prog.okOr (← sys (.jwtIssueMfa (cr.formatUuid u.id) mfaTokenTtlSecs))
          (internal "failed to issue mfa token")
        return ⟨"", "", 0, "Bearer", true, mfa⟩
      else do
        auditAs svc (cr.formatUuid u.id) u.email "login.success" "" "" none
        issueForActiveTenant cr svc u.id u.email : Handler TokenPair).Emits Trailing := by
  split
  · refine .bind (trailing_auditAs svc _ _ _ _ _ _) fun _ => ?_
    simp [Prog.Emits, Trailing]
  · exact .bind (trailing_auditAs svc _ _ _ _ _ _) fun _ => trailing_issueForActiveTenant cr svc _ _

theorem ends_login {svc : AuthSvc} {max secs : Int} (hmax : svc.config.loginMaxFailures = max)
    (hsecs : svc.config.loginLockoutSecs = secs) (hpos : 0 < max) (hids : UserIds st.db)
    (req : LoginRequest) :
    (login cr svc req).Ends (machine cr conn) (Steady fun _ c => c.now = now)
      (SignInPath max secs now (Repo.getUserByEmail req.email st.db)
        (fun u => cr.passwordVerify u.passwordHash req.password = false) st) st [] := by
  refine .bind (steady_query _ _ fun c found db' _ hx => ?_)
  obtain ⟨rfl, rfl⟩ := Prod.mk.inj (Except.ok.inj hx)
  rw [Prog.endsThen_ok]
  cases hfound : Repo.getUserByEmail req.email st.db with
  | none =>
    refine .bind (ends_sys _ fun c _ => ?_)
    refine .unknown rfl rfl ⟨?_, ?_⟩
    · intro id
      simp [rejectedFor, foundByEmail, codeRejected]
    · intro id
      simp [clearsFor]
  | some u =>
    have hu : u ∈ st.db.users := List.mem_of_find?_eq_some hfound
    have hlookup : Shows [⟨.sql (.getUserByEmail req.email), .ok (some u)⟩] (fun _ => false)
        fun _ => false := by
      refine ⟨?_, ?_⟩ <;> intro id <;> simp [rejectedFor, passwordRejected, codeRejected, clearsFor]
    refine .bind (ends_refuseIfLocked (fun _ hc => hc) ?_ ?_)
    · intro es hlocked hes
      refine .shut ⟨_, rfl⟩ rfl ?_ ?_ (hlookup.append hes)
      · rw [List.any_append, List.nil_append, (hes.any 0).2.2.2.2]
        rfl
      · intro v hv _
        cases hv
        exact hlocked
    · intro es hopen _ hes
      refine .bind (ends_sys _ fun c _ => ?_)
      rw [Prog.endsThen_ok]
      split
      · -- The wrong password counts.
        next hwrong =>
        rw [Bool.not_eq_true'] at hwrong
        refine ends_wrongGuess hmax hsecs hpos rfl hopen hwrong (hids.find hu) rfl ?_
        rw [hwrong]
        refine ⟨?_, ?_⟩ <;> intro id <;> obtain ⟨hfound', hpass, hcode, hclear, -⟩ := hes.any id
        · simp [rejectedFor, hfound', hpass, hcode, codeRejected, foundByEmail, passwordRejected]
        · simp [hclear, clearsFor]
      · next hright =>
        rw [Bool.not_eq_true, Bool.not_eq_false'] at hright
        have hright' : ¬cr.passwordVerify u.passwordHash req.password = false :=
          ne_false_of_eq_true hright
        rw [hright]
        have hshows : Shows ([] ++ [⟨.sql (.getUserByEmail req.email), .ok (some u)⟩] ++ es ++
            [⟨.sys (.verifyPassword u.passwordHash req.password), true⟩]) (fun _ => false)
            fun _ => false := by
          refine ⟨?_, ?_⟩ <;> intro id <;> obtain ⟨hfound', hpass, hcode, hclear, -⟩ := hes.any id
          · simp [rejectedFor, hpass, hcode, codeRejected, passwordRejected]
          · simp [hclear, clearsFor]
        refine .bind (Prog.ends_of_failIf ?_ ?_)
        · intro _
          exact .passed u rfl hopen hright' rfl hshows
        intro _
        refine .bind (Prog.ends_of_failIf ?_ ?_)
        · intro _
          exact .passed u rfl hopen hright' rfl hshows
        intro _
        refine .bind (steady_ignore _ fun c₁ r db₁ _ hx₁ => ?_)
        obtain ⟨-, rfl⟩ := Prod.mk.inj (Except.ok.inj hx₁)
        have hreset := hshows.snoc (e := ⟨.sql (.resetLoginState u.id), .ok r⟩) (fun _ => rfl) rfl
          fun _ => rfl
        rw [Prog.endsThen_ok]
        refine ends_trailing (trailing_finishLogin cr svc u) fun r' st' es' husers hes' => ?_
        refine .reset u rfl hopen hright' husers (Shows.append ?_ hes')
        simpa [clearsFor] using hreset

/-! ## login_totp -/

/-- A code that is checked changes no user. -/
theorem ends_checkCode {uid : Uuid} {secret code : String} (hsilent : Silent h)
    {Q : Except Failure Bool → State → List (Event Resp) → Prop}
    (hwrong : ∀ st' h', ¬codeValid cr now st.db uid secret code → st'.db.users = st.db.users →
      Shows h' (fun id => uid == id) (fun _ => false) → Q (.ok false) st' h')
    (hright : ∀ st' h', codeValid cr now st.db uid secret code → st'.db.users = st.db.users →
      Shows h' (fun _ => false) (fun _ => false) → Q (.ok true) st' h') :
    (checkCode cr uid (some secret) code).Ends (machine cr conn) (Steady fun _ c => c.now = now)
      Q st h := by
  refine .bind (ends_sys (.validateTotp code secret) fun c hc => ?_)
  have hvalid : Sys.exec cr c (.validateTotp code secret) = validateTotp cr now code secret := by
    rw [← hc.1]
    rfl
  rw [Prog.endsThen_ok, hvalid]
  cases hcheck : validateTotp cr now code secret with
  | true =>
    refine hright _ _ (.inl hcheck) rfl ⟨?_, ?_⟩ <;> intro id <;>
      obtain ⟨hfound, hpass, hcode, hclear, -⟩ := hsilent.any id
    · simp [rejectedFor, hfound, hcode, foundByEmail, codeRejected]
    · simp [hclear, clearsFor]
  | false =>
    refine steady_query _ _ fun c₁ spent db₁ _ hx => ?_
    have husers : db₁.users = st.db.users := (Sql.exec_frame hx).users (by simp [Sql.writes])
    have hspent : st.db.totpRecoveryCodes.any (Repo.unusedCode uid (hashToken cr code)) = spent :=
      congrArg Prod.fst (Except.ok.inj hx)
    cases spent with
    | false =>
      have hnot : ¬codeValid cr now st.db uid secret code := by
        simp [codeValid, hcheck, hspent]
      refine hwrong _ _ hnot husers ⟨?_, ?_⟩ <;> intro id <;>
        obtain ⟨hfound, hpass, hcode, hclear, -⟩ := hsilent.any id
      · simp [rejectedFor, hfound, hcode, foundByEmail, codeRejected]
      · simp [hclear, clearsFor]
    | true =>
      refine hright _ _ (.inr hspent) husers ⟨?_, ?_⟩ <;> intro id <;>
        obtain ⟨hfound, hpass, hcode, hclear, -⟩ := hsilent.any id
      · simp [rejectedFor, hfound, hcode, foundByEmail, codeRejected]
      · simp [hclear, clearsFor]

theorem ends_loginTotp {svc : AuthSvc} {md : MetadataMap} {max secs : Int}
    (hmax : svc.config.loginMaxFailures = max) (hsecs : svc.config.loginLockoutSecs = secs)
    (hpos : 0 < max) (req : LoginTotpRequest) :
    (loginTotp cr svc req).Ends (machine cr conn) (Steady fun _ c => c.now = now)
      (SignInPath max secs now (signInUser cr now st.db (.rpc svc md (.loginTotp req)))
        (guessesWrong cr now st.db · (.rpc svc md (.loginTotp req))) st) st [] := by
  have hearly : ∀ (e : Failure) (es : List (Event Resp)), Silent es →
      (∀ u, signInUser cr now st.db (.rpc svc md (.loginTotp req)) = some u →
        guessesWrong cr now st.db u (.rpc svc md (.loginTotp req)) → lockedAt now u) →
      SignInPath max secs now (signInUser cr now st.db (.rpc svc md (.loginTotp req)))
        (guessesWrong cr now st.db · (.rpc svc md (.loginTotp req))) st
        (.error e : Except Failure TokenPair) st es := by
    intro e es hes hshut
    refine .shut ⟨e, rfl⟩ rfl (hes.any 0).2.2.2.2 hshut ⟨?_, ?_⟩ <;> intro id <;>
      obtain ⟨hfound, hpass, hcode, hclear, -⟩ := hes.any id
    · simp [rejectedFor, hpass, hcode]
    · exact hclear
  refine .bind (ends_sys _ fun c hc => ?_)
  have hparse : Sys.exec cr c (.jwtParse req.mfaToken) = cr.jwtParse now req.mfaToken := by
    rw [← hc.1]
    rfl
  rw [hparse, Prog.endsThen_ok]
  refine .bind (Prog.ends_of_okOr ?_ ?_)
  · intro hnone
    refine hearly _ _ (by simp [Silent, Trailing]) ?_
    rintro u - ⟨⟨claims, hclaims, -⟩, -⟩
    rw [hnone] at hclaims
    cases hclaims
  intro claims hclaims
  refine .bind (Prog.ends_of_failIf ?_ ?_)
  · intro hpurpose
    refine hearly _ _ (by simp [Silent, Trailing]) ?_
    rintro u - ⟨⟨claims', hclaims', hmfa⟩, -⟩
    cases hclaims.symm.trans hclaims'
    simp [hmfa] at hpurpose
  intro hpurpose
  refine .bind (Prog.ends_of_okOr ?_ ?_)
  · intro hnone
    refine hearly _ _ (by simp [Silent, Trailing]) ?_
    intro u hu
    simp [signInUser, hclaims, hnone] at hu
  intro uid huid
  have htarget : signInUser cr now st.db (.rpc svc md (.loginTotp req)) =
      Repo.getUserById uid st.db := by
    simp [signInUser, hclaims, huid]
  rw [htarget] at hearly ⊢
  refine .bind (steady_query _ _ fun c found db' _ hx => ?_)
  obtain ⟨rfl, rfl⟩ := Prod.mk.inj (Except.ok.inj hx)
  refine .bind (Prog.ends_of_okOr ?_ ?_)
  · intro hnone
    refine hearly _ _ (by simp [Silent, Trailing]) ?_
    rintro u hu ⟨-, hpending, -⟩
    rw [hu, Option.filter_some, if_pos hpending] at hnone
    cases hnone
  intro u hfiltered
  obtain ⟨hfound, hpending⟩ := Option.filter_eq_some_iff.mp hfiltered
  obtain rfl : u.id = uid := getUserById_id hfound
  have hbefore : Silent ([] ++ [⟨.sys (.jwtParse req.mfaToken), some claims⟩] ++
      [⟨.sql (.getUserById u.id), .ok (Repo.getUserById u.id st.db)⟩]) := by
    simp [Silent, Trailing]
  rw [hclaims]
  refine .bind (ends_refuseIfLocked (fun _ hc => hc) ?_ ?_)
  · intro es hlocked hes
    refine hearly _ _ (hbefore.append hes) ?_
    intro v hv _
    cases hfound.symm.trans hv
    exact hlocked
  intro es hopen _ hes
  have hsilent := hbefore.append hes
  generalize [] ++ [⟨.sys (.jwtParse req.mfaToken), some claims⟩] ++
      [⟨.sql (.getUserById u.id), .ok (Repo.getUserById u.id st.db)⟩] ++ es = h at hsilent ⊢
  refine .bind (ends_checkCode hsilent ?_ ?_)
  · -- The wrong code counts.
    intro st' h' hcode husers hshows
    have hu : Repo.getUserById u.id st'.db = some u := by
      rw [Repo.getUserById, husers]
      exact hfound
    refine ends_wrongGuess hmax hsecs hpos hfound hopen ?_ hu husers hshows
    exact ⟨⟨claims, hclaims, by simpa using hpurpose⟩, hpending, hcode⟩
  · intro st' h' hcode husers hshows
    refine .bind (steady_ignore _ fun c₁ r db₁ _ hx₁ => ?_)
    obtain ⟨-, rfl⟩ := Prod.mk.inj (Except.ok.inj hx₁)
    have hreset := hshows.snoc (e := ⟨.sql (.resetLoginState u.id), .ok r⟩) (fun _ => rfl) rfl
      fun _ => rfl
    have htail : (do
        auditAs svc (cr.formatUuid u.id) u.email "login.success" "" "2fa" none
        issueForActiveTenant cr svc u.id u.email : Handler TokenPair).Emits Trailing :=
      .bind (trailing_auditAs svc _ _ _ _ _ _) fun _ => trailing_issueForActiveTenant cr svc _ _
    refine ends_trailing htail fun r' st'' es' husers' hes' => ?_
    refine .reset u hfound hopen (fun hwrong => hwrong.2.2 hcode) ?_ (Shows.append ?_ hes')
    · rw [husers', ← husers]
      rfl
    · simpa [clearsFor] using hreset

end Parts

/-! ## A turn -/

/-- A sign-in at a replica with these settings. -/
def Call.signsIn (max secs : Int) : Call → Prop
  | .rpc svc _ (.login _) =>
    svc.config.loginMaxFailures = max ∧ svc.config.loginLockoutSecs = secs
  | .rpc svc _ (.loginTotp _) =>
    svc.config.loginMaxFailures = max ∧ svc.config.loginLockoutSecs = secs
  | _ => False

def turnTime (t : Turn Call Choice) : DateTime := (t.choices 0).now

/-- A sign-in that runs alone, at one time and with every statement answered. -/
structure SignInTurn (cr : Crates) (conn : DbRole) (max secs : Int) (st : State)
    (t : Turn Call Choice) : Prop where
  call : t.call.signsIn max secs
  steady : SteadyTurn cr conn (fun c => c.now = turnTime t) st t

/-- If the sign-in guesses wrong and so locks its user, chrono can represent the end of
the lock. -/
def LockFits (cr : Crates) (max secs : Int) (st : State) (t : Turn Call Choice) : Prop :=
  ∀ u, signInUser cr (turnTime t) st.db t.call = some u →
    guessesWrong cr (turnTime t) st.db u t.call → ¬lockedAt (turnTime t) u →
    max ≤ u.failedLoginAttempts + 1 → FitsChrono (turnTime t) secs

/-- Every counter is below the limit. -/
structure Counters (max : Int) (db : Db) : Prop where
  ids : UserIds db
  range : ∀ u ∈ db.users, 0 ≤ u.failedLoginAttempts ∧ u.failedLoginAttempts < max

section Turns

variable {cr : Crates} {conn : DbRole} {max secs : Int} {st st' : State}

theorem SignInTurn.path {t : Turn Call Choice} (hpos : 0 < max) (hids : UserIds st.db)
    (ht : SignInTurn cr conn max secs st t) :
    SignInPath max secs (turnTime t) (signInUser cr (turnTime t) st.db t.call)
      (guessesWrong cr (turnTime t) st.db · t.call) st
      (serve cr conn st t).1 (serve cr conn st t).2.1 (serve cr conn st t).2.2 := by
  apply ht.steady.ends
  have hcall := ht.call
  generalize turnTime t = now
  have hwrap : ∀ {found : Option UserRow} {wrong : UserRow → Prop} (r : Except Failure TokenPair)
      (st' : State) (h : List (Event Resp)), SignInPath max secs now found wrong st r st' h →
      Prog.EndsThen (machine cr conn) (Steady fun _ c => c.now = now)
        (SignInPath max secs now found wrong st) (fun pair => pure (Response.tokens pair)) r st' h := by
    rintro found wrong (e | pair) st' h hpath
    · exact hpath.map fun e' he => by cases he; rfl
    · exact hpath.map fun e' he => by cases he
  cases hk : t.call with
  | rpc svc md r =>
    rw [hk] at hcall
    cases r <;> try exact hcall.elim
    case login req => exact .bind ((ends_login hcall.1 hcall.2 hpos hids req).mono hwrap)
    case loginTotp req =>
      have hends : (loginTotp cr svc req).Ends (machine cr conn) (Steady fun _ c => c.now = now)
          (SignInPath max secs now (signInUser cr now st.db (.rpc svc md (.loginTotp req)))
            (guessesWrong cr now st.db · (.rpc svc md (.loginTotp req))) st)
          st [] := ends_loginTotp hcall.1 hcall.2 hpos req
      exact .bind (hends.mono hwrap)
  | start env =>
    rw [hk] at hcall
    exact hcall.elim
  | profileCreationFailed userId reason =>
    rw [hk] at hcall
    exact hcall.elim

theorem signInUser_mem {now : DateTime} {db : Db} {k : Call} {u : UserRow}
    (h : signInUser cr now db k = some u) : u ∈ db.users := by
  unfold signInUser at h
  split at h
  · exact List.mem_of_find?_eq_some h
  · obtain ⟨claims, -, h⟩ := Option.bind_eq_some_iff.mp h
    obtain ⟨uid, -, h⟩ := Option.bind_eq_some_iff.mp h
    exact List.mem_of_find?_eq_some h
  · cases h

section Path

variable {α : Type} {now : DateTime} {found : Option UserRow} {wrong : UserRow → Prop}
  {r : Except Failure α} {h : List (Event Resp)}

/-- The rows a path may leave: those of before, or one user's rewritten. -/
theorem SignInPath.users (hpath : SignInPath max secs now found wrong st r st' h)
    (hfits : ∀ u, found = some u → wrong u → ¬lockedAt now u →
      max ≤ u.failedLoginAttempts + 1 → FitsChrono now secs) :
    (st'.db.users = st.db.users ∧ ∀ id, rejectedFor id h = false ∧ h.any (clearsFor id) = false) ∨
    ∃ u f, found = some u ∧ st'.db.users = updateWhere (fun v => v.id == u.id) f st.db.users ∧
      ((u.failedLoginAttempts + 1 < max ∧
        (f = fun v => { v with failedLoginAttempts := v.failedLoginAttempts + 1 }) ∧
        Shows h (fun id => u.id == id) fun _ => false) ∨
      (max ≤ u.failedLoginAttempts + 1 ∧
        (f = fun v =>
          { v with lockedUntil := some (now + seconds secs), failedLoginAttempts := 0 }) ∧
        Shows h (fun id => u.id == id) fun id => u.id == id) ∨
      ((f = fun v => { v with failedLoginAttempts := 0, lockedUntil := none }) ∧
        Shows h (fun _ => false) fun id => u.id == id)) := by
  cases hpath with
  | shut hr hst heval hshut hshows =>
    exact .inl ⟨by rw [hst], fun id => ⟨hshows.rejected id, hshows.cleared id⟩⟩
  | unknown hfound hst hshows =>
    exact .inl ⟨by rw [hst], fun id => ⟨hshows.rejected id, hshows.cleared id⟩⟩
  | passed u hfound hopen hright husers hshows =>
    exact .inl ⟨husers, fun id => ⟨hshows.rejected id, hshows.cleared id⟩⟩
  | failed u hfound hopen hcount husers hshows =>
    exact .inr ⟨u, _, hfound, husers, .inl ⟨hcount, rfl, hshows⟩⟩
  | locked u hfound hopen hcount _ husers hshows =>
    exact .inr ⟨u, _, hfound, husers, .inr (.inl ⟨hcount, rfl, hshows⟩)⟩
  | overflow u hfound hopen hwrong hcount hout husers =>
    exact absurd (hfits u hfound hwrong hopen hcount) hout
  | reset u hfound hopen hright husers hshows =>
    exact .inr ⟨u, _, hfound, husers, .inr (.inr ⟨rfl, hshows⟩)⟩

/-- Also when the lock overflows, the rows keep their ids. -/
theorem SignInPath.ids (hpath : SignInPath max secs now found wrong st r st' h)
    (hids : UserIds st.db) : UserIds st'.db := by
  have hrewrite : ∀ {u : UserRow} {f : UserRow → UserRow},
      st'.db.users = updateWhere (fun v => v.id == u.id) f st.db.users → (∀ v, (f v).id = v.id) →
      UserIds st'.db := by
    intro u f husers hid
    rw [UserIds, husers, map_updateWhere _ fun v _ => hid v]
    exact hids
  cases hpath with
  | shut hr hst heval hshut hshows => rwa [hst]
  | unknown hfound hst hshows => rwa [hst]
  | passed u hfound hopen hright husers hshows => rwa [UserIds, husers]
  | failed u hfound hopen hcount husers hshows => exact hrewrite husers fun _ => rfl
  | locked u hfound hopen hcount _ husers hshows => exact hrewrite husers fun _ => rfl
  | overflow u hfound hopen hwrong hcount hout husers => exact hrewrite husers fun _ => rfl
  | reset u hfound hopen hright husers hshows => exact hrewrite husers fun _ => rfl

end Path

/-- Rewriting the rows of one user keeps the counters, if it keeps that one's. -/
theorem Counters.update {db db' : Db} (hinv : Counters max db) {u : UserRow} (hu : u ∈ db.users)
    {f : UserRow → UserRow} (hdb : db'.users = updateWhere (fun v => v.id == u.id) f db.users)
    (hid : ∀ v, (f v).id = v.id)
    (hrange : 0 ≤ (f u).failedLoginAttempts ∧ (f u).failedLoginAttempts < max) :
    Counters max db' where
  ids := by
    rw [UserIds, hdb, map_updateWhere _ fun v _ => hid v]
    exact hinv.ids
  range := by
    intro v' hv'
    rw [hdb] at hv'
    obtain ⟨v, hv, rfl⟩ := mem_updateWhere.1 hv'
    split
    · next hsame =>
      have hvu : v = u := List.inj_on_of_nodup_map hinv.ids hv hu (by simpa using hsame)
      rw [hvu]
      exact hrange
    · exact hinv.range v hv

section Path

variable {α : Type} {now : DateTime} {found : Option UserRow} {wrong : UserRow → Prop}
  {r : Except Failure α} {h : List (Event Resp)}

theorem SignInPath.counters (hpos : 0 < max)
    (hpath : SignInPath max secs now found wrong st r st' h)
    (hfits : ∀ u, found = some u → wrong u → ¬lockedAt now u →
      max ≤ u.failedLoginAttempts + 1 → FitsChrono now secs)
    (hmem : ∀ u, found = some u → u ∈ st.db.users) (hinv : Counters max st.db) :
    Counters max st'.db := by
  rcases hpath.users hfits with ⟨hsame, -⟩ | ⟨u, f, hfound, husers, hcase⟩
  · exact ⟨by rw [UserIds, hsame]; exact hinv.ids, by rw [hsame]; exact hinv.range⟩
  · have hu := hmem u hfound
    rcases hcase with ⟨hcount, rfl, -⟩ | ⟨hcount, rfl, -⟩ | ⟨rfl, -⟩
    · refine hinv.update hu husers (fun v => rfl) ⟨?_, hcount⟩
      have := (hinv.range u hu).1
      dsimp only
      omega
    · exact hinv.update hu husers (fun v => rfl) ⟨le_refl _, hpos⟩
    · exact hinv.update hu husers (fun v => rfl) ⟨le_refl _, hpos⟩

theorem getUserById_update {db db' : Db} {id : Uuid} {f : UserRow → UserRow}
    (hdb : db'.users = updateWhere (fun v => v.id == id) f db.users) (hid : ∀ v, (f v).id = v.id)
    (id' : Uuid) : Repo.getUserById id' db' =
      (Repo.getUserById id' db).map fun v => if v.id == id then f v else v := by
  unfold Repo.getUserById
  rw [hdb, find?_updateWhere]
  intro v _
  rw [hid v]

/-- The counter of a user, 0 if there is none. -/
def failures (id : Uuid) (db : Db) : Int :=
  ((Repo.getUserById id db).map (·.failedLoginAttempts)).getD 0

theorem Counters.failures (hpos : 0 < max) {db : Db} (hinv : Counters max db) (id : Uuid) :
    0 ≤ failures id db ∧ failures id db < max := by
  unfold IamAuth.failures
  cases hfind : Repo.getUserById id db with
  | none => exact ⟨le_refl 0, hpos⟩
  | some u => exact hinv.range u (List.mem_of_find?_eq_some hfind)

theorem rejectedFor_absent (hpath : SignInPath max secs now found wrong st r st' h)
    (hfits : ∀ u, found = some u → wrong u → ¬lockedAt now u →
      max ≤ u.failedLoginAttempts + 1 → FitsChrono now secs) {id : Uuid}
    (hreject : rejectedFor id h = true) : ∃ u, found = some u ∧ u.id = id := by
  rcases hpath.users hfits with ⟨-, hshows⟩ | ⟨u, f, hfound, -, hcase⟩
  · rw [(hshows id).1] at hreject
    cases hreject
  · refine ⟨u, hfound, ?_⟩
    rcases hcase with ⟨-, -, hshows⟩ | ⟨-, -, hshows⟩ | ⟨-, hshows⟩
    · simpa [hshows.rejected id] using hreject
    · simpa [hshows.rejected id] using hreject
    · rw [hshows.rejected id] at hreject
      cases hreject

/-- Without a lock or a reset, the counter counts the wrong evaluations. -/
theorem SignInPath.failures (hpath : SignInPath max secs now found wrong st r st' h)
    (hfits : ∀ u, found = some u → wrong u → ¬lockedAt now u →
      max ≤ u.failedLoginAttempts + 1 → FitsChrono now secs)
    (hmem : ∀ u, found = some u → u ∈ st.db.users) (hids : UserIds st.db) {id : Uuid}
    (hclear : h.any (clearsFor id) = false) :
    failures id st'.db = failures id st.db + if rejectedFor id h = true then 1 else 0 := by
  rcases hpath.users hfits with ⟨hsame, hshows⟩ | ⟨u, f, hfound, husers, hcase⟩
  · simp [IamAuth.failures, Repo.getUserById, hsame, (hshows id).1]
  · have hu := hids.find (hmem u hfound)
    have hother : u.id ≠ id → (∀ v, (f v).id = v.id) → rejectedFor id h = false →
        IamAuth.failures id st'.db =
          IamAuth.failures id st.db + if rejectedFor id h = true then 1 else 0 := by
      intro hne hid hreject
      rw [hreject, IamAuth.failures, IamAuth.failures, getUserById_update husers hid]
      cases hfind : Repo.getUserById id st.db with
      | none => rfl
      | some v =>
        have hvu : v.id ≠ u.id := by
          rw [getUserById_id hfind]
          exact fun h => hne h.symm
        simp [hvu]
    rcases hcase with ⟨-, rfl, hshows⟩ | ⟨-, rfl, hshows⟩ | ⟨rfl, hshows⟩
    · by_cases hne : u.id = id
      · subst hne
        rw [hshows.rejected, IamAuth.failures, IamAuth.failures,
          getUserById_update husers fun v => rfl, hu]
        simp
      · refine hother hne (fun v => rfl) ?_
        rw [hshows.rejected, beq_eq_false_iff_ne]
        exact hne
    · by_cases hne : u.id = id
      · rw [hshows.cleared, hne, beq_self_eq_true] at hclear
        cases hclear
      · refine hother hne (fun v => rfl) ?_
        rw [hshows.rejected, beq_eq_false_iff_ne]
        exact hne
    · by_cases hne : u.id = id
      · rw [hshows.cleared, hne, beq_self_eq_true] at hclear
        cases hclear
      · exact hother hne (fun v => rfl) (hshows.rejected id)

end Path

/-! ## Runs -/

/-- A turn in a state with its counters below the limit leaves such a state. -/
theorem SignInTurn.counters {t : Turn Call Choice} (hpos : 0 < max)
    (ht : SignInTurn cr conn max secs st t) (hfits : LockFits cr max secs st t)
    (hinv : Counters max st.db) : Counters max (serve cr conn st t).2.1.db :=
  (ht.path hpos hinv.ids).counters hpos hfits (fun _ => signInUser_mem) hinv

/-- Over turns that neither lock nor reset a user, its counter counts. -/
theorem failures_play {ts : List (Turn Call Choice)} {id : Uuid} (hpos : 0 < max)
    (hts : EachTurn (machine cr conn) (Call.body cr) (SignInTurn cr conn max secs) st ts)
    (hfits : EachTurn (machine cr conn) (Call.body cr) (LockFits cr max secs) st ts)
    (hclear : EachTurn (machine cr conn) (Call.body cr) (fun st t =>
      (serve cr conn st t).2.2.any (clearsFor id) = false) st ts)
    (hinv : Counters max st.db) :
    failures id (served cr conn st ts).db = failures id st.db +
      countTurns (machine cr conn) (Call.body cr)
        (fun st t => rejectedFor id (serve cr conn st t).2.2) st ts := by
  induction ts generalizing st with
  | nil => simp [play, countTurns]
  | cons t ts ih =>
    have hturn := (hts.1.path hpos hinv.ids).failures hfits.1 (fun _ => signInUser_mem) hinv.ids
      hclear.1
    rw [served_cons, ih hts.2 hfits.2 hclear.2 (hts.1.counters hpos hfits.1 hinv), hturn, countTurns]
    split <;> push_cast <;> omega

end Turns

section Exact

variable (cr : Crates) (conn : DbRole) (max secs : Int) (st : State)

/-- What holds of a sequence of sign-ins: of the counters between them, of the
turn that counts a failure, of a turn for a locked user, and of the wrong
evaluations between two turns that lock or reset a user. -/
structure LockoutExact (ts : List (Turn Call Choice)) : Prop where
  counters : ∀ pre post, ts = pre ++ post →
    ∀ u ∈ (served cr conn st pre).db.users,
      0 ≤ u.failedLoginAttempts ∧ u.failedLoginAttempts < max
  counts : ∀ pre t post, ts = pre ++ t :: post →
    ∀ u ∈ (served cr conn st pre).db.users,
      rejectedFor u.id (serve cr conn (served cr conn st pre) t).2.2 = true →
      (if u.failedLoginAttempts + 1 = max then
        { u with lockedUntil := some (turnTime t + seconds secs), failedLoginAttempts := 0 }
      else { u with failedLoginAttempts := u.failedLoginAttempts + 1 }) ∈
        (served cr conn st (pre ++ [t])).db.users
  refuses : ∀ pre t post, ts = pre ++ t :: post → ∀ u,
    signInUser cr (turnTime t) (served cr conn st pre).db t.call = some u →
    lockedAt (turnTime t) u →
    (∃ e, (serve cr conn (served cr conn st pre) t).1 = .error e) ∧
    (serve cr conn (served cr conn st pre) t).2.2.any evaluates = false ∧
    served cr conn st (pre ++ [t]) = served cr conn st pre
  bounded : ∀ pre mid last post id, ts = pre ++ mid ++ last :: post →
    EachTurn (machine cr conn) (Call.body cr)
      (fun st t => (serve cr conn st t).2.2.any (clearsFor id) = false)
      (served cr conn st pre) mid →
    (countTurns (machine cr conn) (Call.body cr)
      (fun st t => rejectedFor id (serve cr conn st t).2.2)
      (served cr conn st pre) (mid ++ [last]) : Int) ≤ max

variable {cr conn max secs st}

/-- A turn that counts a failure counts it, or locks the user. -/
theorem SignInTurn.counts {t : Turn Call Choice} (hpos : 0 < max) (hinv : Counters max st.db)
    (ht : SignInTurn cr conn max secs st t) (hfit : LockFits cr max secs st t) {u : UserRow}
    (hu : u ∈ st.db.users) (hreject : rejectedFor u.id (serve cr conn st t).2.2 = true) :
    (if u.failedLoginAttempts + 1 = max then
      { u with lockedUntil := some (turnTime t + seconds secs), failedLoginAttempts := 0 }
    else { u with failedLoginAttempts := u.failedLoginAttempts + 1 }) ∈
      (serve cr conn st t).2.1.db.users := by
  have hpath := ht.path hpos hinv.ids
  obtain ⟨v, hfound, hv⟩ := rejectedFor_absent hpath hfit hreject
  obtain rfl : v = u := List.inj_on_of_nodup_map hinv.ids (signInUser_mem hfound) hu hv
  rcases hpath.users hfit with ⟨-, hshows⟩ | ⟨v', f, hfound', users, hcase⟩
  · rw [(hshows _).1] at hreject
    cases hreject
  · cases hfound.symm.trans hfound'
    have hrow : f v ∈ (serve cr conn st t).2.1.db.users := by
      rw [users]
      exact mem_updateWhere.2 ⟨v, hu, by simp⟩
    have hbelow := (hinv.range v hu).2
    rcases hcase with ⟨hcount, rfl, -⟩ | ⟨hcount, rfl, -⟩ | ⟨-, hshows⟩
    · rw [if_neg (by omega)]
      exact hrow
    · rw [if_pos (by omega)]
      exact hrow
    · rw [hshows.rejected] at hreject
      cases hreject

/-- A turn for a locked user evaluates nothing. -/
theorem SignInTurn.refuses {t : Turn Call Choice} (hpos : 0 < max) (hids : UserIds st.db)
    (ht : SignInTurn cr conn max secs st t) {u : UserRow}
    (hfound : signInUser cr (turnTime t) st.db t.call = some u) (hlocked : lockedAt (turnTime t) u) :
    (∃ e, (serve cr conn st t).1 = .error e) ∧
    (serve cr conn st t).2.2.any evaluates = false ∧ (serve cr conn st t).2.1 = st := by
  cases ht.path hpos hids with
  | shut hr hst heval hshut hshows => exact ⟨hr, heval, hst⟩
  | unknown hnone hst hshows =>
    rw [hfound] at hnone
    cases hnone
  | passed v hfound' hopen hright husers hshows =>
    cases hfound.symm.trans hfound'
    exact absurd hlocked hopen
  | failed v hfound' hopen hcount husers hshows =>
    cases hfound.symm.trans hfound'
    exact absurd hlocked hopen
  | locked v hfound' hopen hcount hfit husers hshows =>
    cases hfound.symm.trans hfound'
    exact absurd hlocked hopen
  | overflow v hfound' hopen hwrong hcount hout husers =>
    cases hfound.symm.trans hfound'
    exact absurd hlocked hopen
  | reset v hfound' hopen hright husers hshows =>
    cases hfound.symm.trans hfound'
    exact absurd hlocked hopen

/-- If every lock fits, the lockout counter is exact. -/
theorem lockoutExact_of_fits {ts : List (Turn Call Choice)} (hpos : 0 < max)
    (hinv : Counters max st.db)
    (hts : EachTurn (machine cr conn) (Call.body cr) (SignInTurn cr conn max secs) st ts)
    (hfits : EachTurn (machine cr conn) (Call.body cr) (LockFits cr max secs) st ts) :
    LockoutExact cr conn max secs st ts := by
  have hreach : ∀ pre post, ts = pre ++ post →
      Counters max (served cr conn st pre).db ∧
      EachTurn (machine cr conn) (Call.body cr) (SignInTurn cr conn max secs)
        (served cr conn st pre) post ∧
      EachTurn (machine cr conn) (Call.body cr) (LockFits cr max secs)
        (served cr conn st pre) post := by
    intro pre post hsplit
    rw [hsplit, eachTurn_append] at hts hfits
    exact ⟨play_inv (I := fun st => Counters max st.db)
      (fun _ _ ht hinv => ht.1.counters hpos ht.2 hinv) (hts.1.and hfits.1) hinv, hts.2, hfits.2⟩
  refine ⟨?_, ?_, ?_, ?_⟩
  · intro pre post hsplit
    exact (hreach pre post hsplit).1.range
  · intro pre t post hsplit u hu hreject
    obtain ⟨hpre, ⟨ht, -⟩, hfit, -⟩ := hreach pre (t :: post) hsplit
    rw [served_snoc]
    exact ht.counts hpos hpre hfit hu hreject
  · intro pre t post hsplit u hfound hlocked
    obtain ⟨hpre, ⟨ht, -⟩, -⟩ := hreach pre (t :: post) hsplit
    rw [served_snoc]
    exact ht.refuses hpos hpre.ids hfound hlocked
  · intro pre mid last post id hsplit hclear
    rw [List.append_assoc] at hsplit
    obtain ⟨hpre, hrest, hfit⟩ := hreach pre (mid ++ last :: post) hsplit
    rw [eachTurn_append] at hrest hfit
    have hcount := failures_play hpos hrest.1 hfit.1 hclear hpre
    have hmid : Counters max (served cr conn (served cr conn st pre) mid).db :=
      play_inv (I := fun st => Counters max st.db)
        (fun _ _ ht hinv => ht.1.counters hpos ht.2 hinv) (hrest.1.and hfit.1) hpre
    have hstart := (hpre.failures hpos id).1
    have hend := (hmid.failures hpos id).2
    rw [countTurns_append, countTurns, countTurns]
    split <;> push_cast <;> omega

/-- A turn whose lock does not fit leaves the counter at the limit. -/
theorem SignInTurn.overflow {t : Turn Call Choice} (hpos : 0 < max) (hids : UserIds st.db)
    (ht : SignInTurn cr conn max secs st t) (hout : ¬LockFits cr max secs st t) :
    ∃ u ∈ (serve cr conn st t).2.1.db.users, max ≤ u.failedLoginAttempts := by
  unfold LockFits at hout
  push Not at hout
  obtain ⟨u, hfound, hwrong, hopen, hcount, hfits⟩ := hout
  cases ht.path hpos hids with
  | shut hr hst heval hshut hshows => exact absurd (hshut u hfound hwrong) hopen
  | unknown hnone hst hshows =>
    rw [hfound] at hnone
    cases hnone
  | passed v hfound' hopen' hright husers hshows =>
    cases hfound.symm.trans hfound'
    exact absurd hwrong hright
  | failed v hfound' hopen' hbelow husers hshows =>
    cases hfound.symm.trans hfound'
    omega
  | locked v hfound' hopen' hcount' hfit husers hshows => exact absurd hfit hfits
  | overflow v hfound' hopen' hwrong' hcount' hout husers =>
    cases hfound.symm.trans hfound'
    refine ⟨{ u with failedLoginAttempts := u.failedLoginAttempts + 1 }, ?_, hcount⟩
    rw [husers]
    exact mem_updateWhere.2 ⟨u, signInUser_mem hfound, by simp⟩
  | reset v hfound' hopen' hright husers hshows =>
    cases hfound.symm.trans hfound'
    exact absurd hwrong hright

variable (cr conn max secs st)

/-- In every sequence of sign-ins, each run alone and answered by Postgres, the
lockout counter is exact if and only if no sign-in would lock its user until a time
that chrono cannot represent. -/
theorem lockout_exact_iff (ts : List (Turn Call Choice)) (hpos : 0 < max)
    (hinv : Counters max st.db)
    (hts : EachTurn (machine cr conn) (Call.body cr) (SignInTurn cr conn max secs) st ts) :
    LockoutExact cr conn max secs st ts ↔
      EachTurn (machine cr conn) (Call.body cr) (LockFits cr max secs) st ts := by
  refine ⟨fun hexact => eachTurn_of_at ?_, lockoutExact_of_fits hpos hinv hts⟩
  intro pre t post hsplit
  rw [hsplit, eachTurn_append] at hts
  have hids : UserIds (served cr conn st pre).db :=
    play_inv (I := fun st => UserIds st.db) (fun _ _ ht hids => (ht.path hpos hids).ids hids) hts.1
      hinv.ids
  by_contra hout
  obtain ⟨u, hu, hlimit⟩ := hts.2.1.overflow hpos hids hout
  have hbelow := hexact.counters (pre ++ [t]) post (by simp [hsplit]) u
  rw [served_snoc] at hbelow
  have := (hbelow hu).2
  omega

end Exact

namespace Sample

/-- A login with a wrong password, at this second. -/
def wrongLogin (second : Int) : Turn Call Choice :=
  ⟨.rpc svc [] (.login ⟨"u@iam.local", "no"⟩), fun _ => choice (seconds second) 0 ""⟩

end Sample

/-- Three failures lock the user, and the fourth login meets the lock. -/
theorem lockout_exact_four : LockoutExact Sample.crates .superuser 3 900
    (Sample.stateOf (Sample.user 7 none false))
    [Sample.wrongLogin 1, Sample.wrongLogin 2, Sample.wrongLogin 3, Sample.wrongLogin 4] := by
  have hstart : Counters 3 (Sample.stateOf (Sample.user 7 none false)).db := by
    refine ⟨?_, by decide⟩
    unfold UserIds
    decide
  refine (lockout_exact_iff Sample.crates .superuser 3 900
    (Sample.stateOf (Sample.user 7 none false))
    [Sample.wrongLogin 1, Sample.wrongLogin 2, Sample.wrongLogin 3, Sample.wrongLogin 4]
    (by decide) hstart ⟨?_, ?_, ?_, ?_, trivial⟩).2 ⟨?_, ?_, ?_, ?_, trivial⟩
  · exact ⟨⟨rfl, rfl⟩, fun _ => rfl, by decide⟩
  · exact ⟨⟨rfl, rfl⟩, fun _ => rfl, by decide⟩
  · exact ⟨⟨rfl, rfl⟩, fun _ => rfl, by decide⟩
  · exact ⟨⟨rfl, rfl⟩, fun _ => rfl, by decide⟩
  all_goals
    intro _ _ _ _ _
    decide

namespace Sample

/-- A replica that locks for 9 trillion seconds. -/
def longSvc : AuthSvc :=
  { svc with config := { svc.config with loginLockoutSecs := 9000000000000 } }

def longWrongLogin (second : Int) : Turn Call Choice :=
  ⟨.rpc longSvc [] (.login ⟨"u@iam.local", "no"⟩), fun _ => choice (seconds second) 0 ""⟩

end Sample

/-- The third failure ends in a panic: the counter stands at the limit, and the user is
not locked. -/
theorem longLock_lost : Counters 3 (Sample.stateOf (Sample.user 7 none false)).db ∧
    EachTurn (machine Sample.crates .superuser) (Call.body Sample.crates)
      (SignInTurn Sample.crates .superuser 3 9000000000000)
      (Sample.stateOf (Sample.user 7 none false))
      [Sample.longWrongLogin 1, Sample.longWrongLogin 2, Sample.longWrongLogin 3] ∧
    (serve Sample.crates .superuser (served Sample.crates .superuser
      (Sample.stateOf (Sample.user 7 none false))
      [Sample.longWrongLogin 1, Sample.longWrongLogin 2]) (Sample.longWrongLogin 3)).1 =
        .error .panic ∧
    ¬LockoutExact Sample.crates .superuser 3 9000000000000
      (Sample.stateOf (Sample.user 7 none false))
      [Sample.longWrongLogin 1, Sample.longWrongLogin 2, Sample.longWrongLogin 3] := by
  refine ⟨⟨?_, ?_⟩, ⟨?_, ?_, ?_, trivial⟩, ?_, ?_⟩
  · unfold UserIds
    decide
  · decide
  · exact ⟨⟨rfl, rfl⟩, fun _ => rfl, by decide⟩
  · exact ⟨⟨rfl, rfl⟩, fun _ => rfl, by decide⟩
  · exact ⟨⟨rfl, rfl⟩, fun _ => rfl, by decide⟩
  · decide
  · intro hexact
    have hbelow := hexact.counters
      [Sample.longWrongLogin 1, Sample.longWrongLogin 2, Sample.longWrongLogin 3] [] rfl
    exact absurd hbelow (by decide)

end IamAuth
