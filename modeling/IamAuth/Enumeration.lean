import IamAuth.Lockout

/-!
# What the answers say about an e-mail address

Two runs of the same calls for one address, with its user in the database and
without. A login that meets the lock of the user is answered otherwise than one for
an address nobody has, and one that panics before it writes the lock is not answered
at all; every other call is answered alike.
-/

set_option autoImplicit false

namespace IamAuth

open Interleave Relational

/-- A call for this address in production: a login with a password that is not the
user's, or a request for a token by e-mail. -/
def Call.probes (cr : Crates) (email : String) (u : UserRow) : Call → Prop
  | .rpc svc _ (.login req) => svc.config.isProduction = true ∧ req.email = email ∧
    cr.passwordVerify u.passwordHash req.password = false
  | .rpc svc _ (.requestPasswordReset req) =>
    svc.config.isProduction = true ∧ req.email = email
  | .rpc svc _ (.requestEmailVerification req) =>
    svc.config.isProduction = true ∧ req.email = email
  | _ => False

def Call.isLogin : Call → Bool
  | .rpc _ _ (.login _) => true
  | _ => false

/-- The turn is a login whose second step reads a time at which the user is locked. -/
def meetsLock (email : String) (st : State) (t : Turn Call Choice) : Prop :=
  t.call.isLogin = true ∧
    ∃ u, Repo.getUserByEmail email st.db = some u ∧ lockedAt (t.choices 1).now u

/-- A failure counted now does not lock this user until a time chrono cannot represent. -/
def CountFits (svc : AuthSvc) (id : Uuid) (now : DateTime) (db : Db) : Prop :=
  0 < svc.config.loginMaxFailures → ∀ v, Repo.getUserById id db = some v →
    svc.config.loginMaxFailures ≤ v.failedLoginAttempts + 1 →
    FitsChrono now svc.config.loginLockoutSecs

/-- The turn is a login for an unlocked user that counts a failure and panics. The clock is
read after the user is looked up, the password verified and the failure counted. -/
def overflowsLock (email : String) (st : State) (t : Turn Call Choice) : Prop :=
  match t.call with
  | .rpc svc _ (.login _) => ∃ u, Repo.getUserByEmail email st.db = some u ∧
    ¬lockedAt (t.choices 1).now u ∧
    ¬CountFits svc u.id (t.choices (3 + clockReads u)).now st.db
  | _ => False

/-- What a call for an address nobody has is answered. -/
def plainAnswer (k : Call) : Except Failure Response :=
  if k.isLogin then .error (unauthenticated "invalid credentials")
  else .ok (.devToken ⟨true, ""⟩)

/-- The address has a user with this password hash. -/
def Registered (email hash : String) (db : Db) : Prop :=
  ∃ u, Repo.getUserByEmail email db = some u ∧ u.passwordHash = hash

theorem Registered.users {email hash : String} {db db' : Db} (h : Registered email hash db)
    (husers : db'.users = db.users) : Registered email hash db' := by
  obtain ⟨u, hu, hhash⟩ := h
  refine ⟨u, ?_, hhash⟩
  unfold Repo.getUserByEmail at hu ⊢
  rw [husers, hu]

theorem Registered.update {email hash : String} {db db' : Db} (h : Registered email hash db)
    {id : Uuid} {f : UserRow → UserRow}
    (husers : db'.users = updateWhere (fun v => v.id == id) f db.users)
    (hemail : ∀ v, (f v).email = v.email) (hhash : ∀ v, (f v).passwordHash = v.passwordHash) :
    Registered email hash db' := by
  obtain ⟨u, hu, rfl⟩ := h
  unfold Repo.getUserByEmail at hu
  refine ⟨if u.id == id then f u else u, ?_, ?_⟩
  · unfold Repo.getUserByEmail
    rw [husers, find?_updateWhere fun v _ => by rw [hemail v], hu]
    rfl
  · split
    · exact hhash u
    · rfl

section Turns

variable {cr : Crates} {conn : DbRole} {email hash : String} {st : State}
  {h : List (Event Resp)} {P : List (Event Resp) → Choice → Prop}

/-- The clock is read after the failure is counted. -/
theorem registered_countFailure (svc : AuthSvc) (id : Uuid) (actor detail : String)
    {now : DateTime} (hclock : ∀ h' c, h'.length = h.length + 1 → P h' c → c.now = now)
    (hst : Registered email hash st.db)
    {Q : Except Failure Unit → State → List (Event Resp) → Prop}
    (hQ : ∀ st' h', CountFits svc id now st.db → Registered email hash st'.db → Q (.ok ()) st' h')
    (hpanic : ∀ st' h', ¬CountFits svc id now st.db → Registered email hash st'.db →
      Q (.error .panic) st' h') :
    (countFailure cr svc id actor detail).Ends (machine cr conn) (Steady P) Q st h := by
  unfold countFailure
  split
  · next hpos =>
    refine .bind (steady_attempt _ fun c n db₁ _ hx => ?_)
    simp only [Sql.exec, Repo.incrementLoginFailure] at hx
    split at hx
    · cases hx
    next v hv =>
    split at hx
    case isFalse => cases hx
    obtain ⟨rfl, rfl⟩ := Prod.mk.inj (Except.ok.inj hx)
    have hcounted : Registered email hash (Repo.updateUser id
        (fun u => { u with failedLoginAttempts := u.failedLoginAttempts + 1 }) st.db) :=
      hst.update rfl (fun _ => rfl) fun _ => rfl
    rw [Prog.endsThen_ok]
    dsimp only
    split
    · next hreached =>
      refine .bind (ends_sys _ fun c₁ hc₁ => ?_)
      have hnow : Sys.utcNow.exec cr c₁ = now := hclock _ c₁ (by simp) hc₁.1
      rw [hnow, Prog.endsThen_ok]
      refine .bind (ends_addSeconds now _ (fun hfits => ?_) fun hout => ?_)
      · refine .bind (steady_ignore _ fun c₂ r db₂ _ hx₂ => ?_)
        obtain ⟨-, rfl⟩ := Prod.mk.inj (Except.ok.inj hx₂)
        refine ends_auditAs svc fun db₃ es hf _ => hQ _ _ (fun _ _ _ _ => hfits) ?_
        refine Registered.users ?_ (hf.users (by simp))
        exact hcounted.update rfl (fun _ => rfl) fun _ => rfl
      · exact hpanic _ _ (fun hfits => hout (hfits hpos v hv hreached)) hcounted
    · next hbelow =>
      refine hQ _ _ ?_ hcounted
      intro _ v' hv' hreached
      cases hv.symm.trans hv'
      exact absurd hreached hbelow
  · next hoff => exact hQ _ _ (fun hpos => absurd hpos hoff) hst

/-- A login with a wrong password, for a user who may be locked. -/
theorem registered_login (svc : AuthSvc) (clock : Nat → DateTime) {req : LoginRequest} {u : UserRow}
    (hu : Repo.getUserByEmail req.email st.db = some u)
    (hwrong : cr.passwordVerify u.passwordHash req.password = false)
    (hclock : ∀ h c, P h c → c.now = clock h.length)
    {Q : Except Failure TokenPair → State → List (Event Resp) → Prop}
    (hshut : ∀ h', lockedAt (clock 1) u →
      Q (.error (unauthenticated "account temporarily locked, try again later")) st h')
    (hopen : ∀ st' h', ¬lockedAt (clock 1) u →
      CountFits svc u.id (clock (3 + clockReads u)) st.db →
      Registered req.email u.passwordHash st'.db →
      Q (.error (unauthenticated "invalid credentials")) st' h')
    (hpanic : ∀ st' h', ¬lockedAt (clock 1) u →
      ¬CountFits svc u.id (clock (3 + clockReads u)) st.db →
      Registered req.email u.passwordHash st'.db → Q (.error .panic) st' h') :
    (login cr svc req).Ends (machine cr conn) (Steady P) Q st [] := by
  refine .bind (steady_query _ _ fun c found db' _ hx => ?_)
  obtain ⟨rfl, rfl⟩ := Prod.mk.inj (Except.ok.inj hx)
  rw [Prog.endsThen_ok, hu]
  refine .bind (ends_refuseIfLocked (fun c hc => hclock _ c hc) ?_ ?_)
  · intro es hlocked _
    exact hshut _ hlocked
  intro es hunlocked hreads _
  refine .bind (ends_sys _ fun c _ => ?_)
  have hverify : Sys.exec cr c (.verifyPassword u.passwordHash req.password) = false := hwrong
  rw [hverify, Prog.endsThen_ok]
  have hlater : ∀ h' c, h'.length = ([] ++ [⟨.sql (.getUserByEmail req.email), .ok (some u)⟩] ++ es ++
      [⟨.sys (.verifyPassword u.passwordHash req.password), false⟩] : List (Event Resp)).length + 1 →
      P h' c → c.now = clock (3 + clockReads u) := by
    intro h' c hlength hc
    rw [hclock h' c hc, hlength]
    congr 1
    simp [hreads]
    omega
  refine .bind (registered_countFailure svc _ _ _ hlater ⟨u, hu, rfl⟩ ?_ ?_)
  · intro st' h' hfits hst'
    refine .bind (ends_auditAs svc fun db'' es hf _ => ?_)
    exact hopen _ _ hunlocked hfits (hst'.users (hf.users (by simp)))
  · intro st' h' hout hst'
    exact hpanic _ _ hunlocked hout hst'

/-- A request for a token by e-mail, for a registered address. -/
theorem registered_requestToken (svc : AuthSvc) {lifetimeSecs : Int}
    {store : String → Uuid → DateTime → Sql} {failed : Failure} {action : String}
    (hprod : svc.config.isProduction = true) (hst : Registered email hash st.db)
    (hstore : ∀ token id exp, .users ∉ (store token id exp).writes)
    {Q : Except Failure DevTokenResponse → State → List (Event Resp) → Prop}
    (hQ : ∀ st' h', Registered email hash st'.db → Q (.ok ⟨true, ""⟩) st' h') :
    (requestToken cr svc email lifetimeSecs store failed action).Ends (machine cr conn) (Steady P)
      Q st h := by
  obtain ⟨u, hu, hhash⟩ := hst
  refine .bind (steady_attempt _ fun c found db' _ hx => ?_)
  obtain ⟨rfl, rfl⟩ := Prod.mk.inj (Except.ok.inj hx)
  rw [Prog.endsThen_ok, hu]
  refine .bind (ends_sys _ fun c₁ _ => ?_)
  refine .bind (ends_sys _ fun c₂ _ => ?_)
  refine .bind (steady_query _ _ fun c₃ r db₁ _ hx₁ => ?_)
  refine .bind (ends_auditAs svc fun db₂ es hf _ => ?_)
  rw [Prog.endsThen_ok, hprod]
  refine hQ _ _ ⟨u, ?_, hhash⟩
  have husers : db₂.users = st.db.users :=
    (hf.users (by simp)).trans ((Sql.exec_frame hx₁).users (hstore _ _ _))
  unfold Repo.getUserByEmail at hu ⊢
  rw [husers, hu]

/-- A turn for a registered address is answered as one for an unknown address,
unless it meets the lock or overflows it. -/
theorem probe_registered {u : UserRow} {t : Turn Call Choice} (ht : t.call.probes cr email u)
    (hdb : ∀ e ∈ (serve cr conn st t).2.2, committed e = true)
    (hst : Registered email u.passwordHash st.db) :
    Registered email u.passwordHash (serve cr conn st t).2.1.db ∧
      ((serve cr conn st t).1 = plainAnswer t.call ↔
        ¬meetsLock email st t ∧ ¬overflowsLock email st t) := by
  have hquiet : t.call.isLogin = false →
      ((.ok (.devToken ⟨true, ""⟩) : Except Failure Response) = plainAnswer t.call ↔
        ¬meetsLock email st t ∧ ¬overflowsLock email st t) := by
    intro hlogin
    have hfits : ¬overflowsLock email st t := by
      unfold overflowsLock
      split
      · next hk =>
        rw [hk] at hlogin
        cases hlogin
      · exact not_false
    simp [plainAnswer, meetsLock, hlogin, hfits]
  refine ends_turn (Q := fun r st' _ => Registered email u.passwordHash st'.db ∧
    (r = plainAnswer t.call ↔ ¬meetsLock email st t ∧ ¬overflowsLock email st t)) hdb ?_
  cases hk : t.call with
  | rpc svc md r =>
    rw [hk] at ht hquiet
    cases r <;> try exact ht.elim
    case login req =>
      obtain ⟨-, rfl, hwrong⟩ := ht
      obtain ⟨v, hv, hhash⟩ := hst
      rw [← hhash] at hwrong
      have hover : overflowsLock req.email st t ↔ ¬lockedAt (t.choices 1).now v ∧
          ¬CountFits svc v.id (t.choices (3 + clockReads v)).now st.db := by
        simp only [overflowsLock, hk, hv, Option.some.injEq, exists_eq_left']
      have hmeets : meetsLock req.email st t ↔ lockedAt (t.choices 1).now v := by
        simp only [meetsLock, hk, Call.isLogin, hv, Option.some.injEq, exists_eq_left', true_and]
      have hclock : ∀ (h : List (Event Resp)) (c : Choice), c = t.choices h.length →
          c.now = (t.choices h.length).now := fun h c hc => congrArg Choice.now hc
      rw [hmeets, hover]
      refine .bind (registered_login svc (fun n => (t.choices n).now) hv hwrong hclock ?_ ?_ ?_)
      · intro h' hlocked
        refine ⟨⟨v, hv, hhash⟩, ?_⟩
        simp [plainAnswer, Call.isLogin, unauthenticated, hlocked]
      · intro st' h' hopen hfits hst'
        rw [hhash] at hst'
        refine ⟨hst', ?_⟩
        simp [plainAnswer, Call.isLogin, hopen, hfits]
      · intro st' h' hopen hout hst'
        rw [hhash] at hst'
        refine ⟨hst', ?_⟩
        simp [plainAnswer, Call.isLogin, unauthenticated, hopen, hout]
    case requestEmailVerification req =>
      obtain ⟨hprod, rfl⟩ := ht
      refine .bind (registered_requestToken svc hprod hst (fun _ _ _ => by simp [Sql.writes]) ?_)
      exact fun st' h' hst' => ⟨hst', hquiet rfl⟩
    case requestPasswordReset req =>
      obtain ⟨hprod, rfl⟩ := ht
      refine .bind (registered_requestToken svc hprod hst (fun _ _ _ => by simp [Sql.writes]) ?_)
      exact fun st' h' hst' => ⟨hst', hquiet rfl⟩
  | start env =>
    rw [hk] at ht
    exact ht.elim
  | profileCreationFailed userId reason =>
    rw [hk] at ht
    exact ht.elim

/-- A turn for an address nobody has changes nothing. -/
theorem probe_unknown {u : UserRow} {t : Turn Call Choice} (ht : t.call.probes cr email u)
    (hdb : ∀ e ∈ (serve cr conn st t).2.2, committed e = true)
    (hst : Repo.getUserByEmail email st.db = none) :
    (serve cr conn st t).1 = plainAnswer t.call ∧ (serve cr conn st t).2.1 = st := by
  refine ends_turn (Q := fun r st' _ => r = plainAnswer t.call ∧ st' = st) hdb ?_
  have hrequest : ∀ {svc : AuthSvc} {lifetimeSecs : Int} {store : String → Uuid → DateTime → Sql}
      {failed : Failure} {action : String} {k : Call}, k.isLogin = false →
      (do return .devToken (← requestToken cr svc email lifetimeSecs store failed action) :
        Handler Response).Ends (machine cr conn) (Steady fun h c => c = t.choices h.length)
        (fun r st' _ => r = plainAnswer k ∧ st' = st) st [] := by
    intro svc lifetimeSecs store failed action k hlogin
    refine .bind (.bind (steady_attempt _ fun c found db' _ hx => ?_))
    obtain ⟨rfl, rfl⟩ := Prod.mk.inj (Except.ok.inj hx)
    rw [Prog.endsThen_ok, hst]
    exact ⟨by simp [plainAnswer, hlogin], rfl⟩
  cases hk : t.call with
  | rpc svc md r =>
    rw [hk] at ht
    cases r <;> try exact ht.elim
    case login req =>
      obtain ⟨-, rfl, -⟩ := ht
      refine .bind (.bind (steady_query _ _ fun c found db' _ hx => ?_))
      obtain ⟨rfl, rfl⟩ := Prod.mk.inj (Except.ok.inj hx)
      rw [Prog.endsThen_ok, hst]
      refine .bind (ends_sys _ fun c _ => ?_)
      exact ⟨rfl, rfl⟩
    case requestEmailVerification req =>
      obtain ⟨-, rfl⟩ := ht
      exact hrequest rfl
    case requestPasswordReset req =>
      obtain ⟨-, rfl⟩ := ht
      exact hrequest rfl
  | start env =>
    rw [hk] at ht
    exact ht.elim
  | profileCreationFailed userId reason =>
    rw [hk] at ht
    exact ht.elim

end Turns

/-! ## Two runs -/

section Runs

variable (cr : Crates) (conn : DbRole)

/-- Every statement of the turn is answered. -/
def AnsweredTurn (st : State) (t : Turn Call Choice) : Prop :=
  ∀ e ∈ (serve cr conn st t).2.2, committed e = true

/-- The database without this user, and what hangs on it. -/
def without (u : UserRow) (st : State) : State := { st with db := Repo.deleteUserRows u.id st.db }

variable {cr conn}

theorem getUserByEmail_without {u : UserRow} {email : String} {st : State}
    (hemails : (st.db.users.map (·.email)).Nodup)
    (hu : Repo.getUserByEmail email st.db = some u) :
    Repo.getUserByEmail email (without u st).db = none := by
  refine List.find?_eq_none.mpr fun v hv hemail => ?_
  obtain ⟨hv, hid⟩ := mem_deleteWhere.1 hv
  have huser : u ∈ st.db.users := List.mem_of_find?_eq_some hu
  have huemail : u.email = email := by simpa using List.find?_some hu
  have hvemail : v.email = email := by simpa using hemail
  obtain rfl : v = u := List.inj_on_of_nodup_map hemails hv huser (hvemail.trans huemail.symm)
  simp at hid

theorem sameAnswers {email : String} {u : UserRow} {ts : List (Turn Call Choice)} {st st₀ : State}
    (hst : Registered email u.passwordHash st.db) (hst₀ : Repo.getUserByEmail email st₀.db = none)
    (hprobes : ∀ t ∈ ts, t.call.probes cr email u)
    (hdb : EachTurn (machine cr conn) (Call.body cr) (AnsweredTurn cr conn) st ts)
    (hdb₀ : EachTurn (machine cr conn) (Call.body cr) (AnsweredTurn cr conn) st₀ ts) :
    answers (machine cr conn) (Call.body cr) st ts =
      answers (machine cr conn) (Call.body cr) st₀ ts ↔
    EachTurn (machine cr conn) (Call.body cr)
      (fun st t => ¬meetsLock email st t ∧ ¬overflowsLock email st t) st ts := by
  induction ts generalizing st with
  | nil => simp [answers, EachTurn]
  | cons t ts ih =>
    have ht := hprobes t (by simp)
    obtain ⟨hnext, hanswer⟩ := probe_registered ht hdb.1 hst
    obtain ⟨hanswer₀, hnext₀⟩ := probe_unknown ht hdb₀.1 hst₀
    have hrest₀ := hdb₀.2
    change EachTurn _ _ _ (serve cr conn st₀ t).2.1 ts at hrest₀
    rw [hnext₀] at hrest₀
    have hrest := ih hnext (fun t' ht' => hprobes t' (by simp [ht'])) hdb.2 hrest₀
    change (serve cr conn st t).1 :: _ = (serve cr conn st₀ t).1 :: answers _ _
      (serve cr conn st₀ t).2.1 ts ↔ _
    rw [List.cons.injEq, hanswer₀, hnext₀, hanswer, hrest]
    rfl

end Runs

/-- Calls for an address, in production and answered by Postgres, are answered alike
with its user in the database and without, exactly when no login meets the lock or
overflows it. -/
theorem sameAnswers_iff (cr : Crates) (conn : DbRole) (st : State) (email : String) (u : UserRow)
    (ts : List (Turn Call Choice)) (hemails : (st.db.users.map (·.email)).Nodup)
    (hu : Repo.getUserByEmail email st.db = some u)
    (hprobes : ∀ t ∈ ts, t.call.probes cr email u)
    (hdb : EachTurn (machine cr conn) (Call.body cr) (AnsweredTurn cr conn) st ts)
    (hdb₀ : EachTurn (machine cr conn) (Call.body cr) (AnsweredTurn cr conn) (without u st) ts) :
    answers (machine cr conn) (Call.body cr) st ts =
      answers (machine cr conn) (Call.body cr) (without u st) ts ↔
    EachTurn (machine cr conn) (Call.body cr)
      (fun st t => ¬meetsLock email st t ∧ ¬overflowsLock email st t) st ts :=
  sameAnswers ⟨u, hu, rfl⟩ (getUserByEmail_without hemails hu) hprobes hdb hdb₀

namespace Sample

/-- A replica in production. -/
def prodSvc : AuthSvc := { svc with config := { svc.config with isProduction := true } }

/-- One call at a replica in production, at this second. -/
def prodTurn (second : Int) (r : Rpc) : Turn Call Choice :=
  ⟨.rpc prodSvc [] r, fun _ => choice (seconds second) 0 "token"⟩

def guess (second : Int) : Turn Call Choice := prodTurn second (.login ⟨"u@iam.local", "no"⟩)

def registeredUser : UserRow := user 7 none false

end Sample

/-- A wrong password and a request to reset it. -/
theorem sameAnswers_unlocked :
    answers (machine Sample.crates .superuser) (Call.body Sample.crates)
      (Sample.stateOf Sample.registeredUser)
      [Sample.guess 1, Sample.prodTurn 2 (.requestPasswordReset ⟨"u@iam.local"⟩)] =
    answers (machine Sample.crates .superuser) (Call.body Sample.crates)
      (without Sample.registeredUser (Sample.stateOf Sample.registeredUser))
      [Sample.guess 1, Sample.prodTurn 2 (.requestPasswordReset ⟨"u@iam.local"⟩)] := by
  refine (sameAnswers_iff Sample.crates .superuser (Sample.stateOf Sample.registeredUser)
    "u@iam.local" Sample.registeredUser
    [Sample.guess 1, Sample.prodTurn 2 (.requestPasswordReset ⟨"u@iam.local"⟩)]
    (by decide) rfl ?_ ⟨?_, ?_, trivial⟩ ⟨?_, ?_, trivial⟩).mpr ⟨?_, ?_, trivial⟩
  · intro t ht
    simp only [List.mem_cons, List.not_mem_nil, or_false] at ht
    rcases ht with rfl | rfl
    · exact ⟨rfl, rfl, by decide⟩
    · exact ⟨rfl, rfl⟩
  · unfold AnsweredTurn
    decide
  · unfold AnsweredTurn
    decide
  · unfold AnsweredTurn
    decide
  · unfold AnsweredTurn
    decide
  · refine ⟨?_, ?_⟩
    · rintro ⟨-, u, hu, until_, huntil, -⟩
      cases hu
      cases huntil
    · rintro ⟨u, hu, -, hout⟩
      cases hu
      apply hout
      intro _ v hv _
      cases hv
      decide
  · refine ⟨?_, not_false⟩
    rintro ⟨hlogin, -⟩
    cases hlogin

/-- The fourth wrong password is answered otherwise when the address has a user. -/
theorem lock_reveals :
    (∀ t ∈ [Sample.guess 1, Sample.guess 2, Sample.guess 3, Sample.guess 4],
      t.call.probes Sample.crates "u@iam.local" Sample.registeredUser) ∧
    EachTurn (machine Sample.crates .superuser) (Call.body Sample.crates)
      (AnsweredTurn Sample.crates .superuser) (Sample.stateOf Sample.registeredUser)
      [Sample.guess 1, Sample.guess 2, Sample.guess 3, Sample.guess 4] ∧
    EachTurn (machine Sample.crates .superuser) (Call.body Sample.crates)
      (AnsweredTurn Sample.crates .superuser)
      (without Sample.registeredUser (Sample.stateOf Sample.registeredUser))
      [Sample.guess 1, Sample.guess 2, Sample.guess 3, Sample.guess 4] ∧
    answers (machine Sample.crates .superuser) (Call.body Sample.crates)
      (Sample.stateOf Sample.registeredUser)
      [Sample.guess 1, Sample.guess 2, Sample.guess 3, Sample.guess 4] ≠
    answers (machine Sample.crates .superuser) (Call.body Sample.crates)
      (without Sample.registeredUser (Sample.stateOf Sample.registeredUser))
      [Sample.guess 1, Sample.guess 2, Sample.guess 3, Sample.guess 4] := by
  refine ⟨?_, ?_, ?_, ?_⟩
  · intro t ht
    simp only [List.mem_cons, List.not_mem_nil, or_false] at ht
    rcases ht with rfl | rfl | rfl | rfl <;> exact ⟨rfl, rfl, by decide⟩
  · refine ⟨?_, ?_, ?_, ?_, trivial⟩ <;> unfold AnsweredTurn <;> decide
  · refine ⟨?_, ?_, ?_, ?_, trivial⟩ <;> unfold AnsweredTurn <;> decide
  · decide

end IamAuth
