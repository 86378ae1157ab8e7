import IamAuth.UserKeys
import IamAuth.Lockout
import IamAuth.RoleUndo

/-!
# What a sign-in mints and what validation accepts

A sign-in mints its token for the first tenant among the active memberships, and for
the default tenant if there is none; validation asks for an active membership of
the token's tenant again. The two agree exactly for users who have one.
-/

set_option autoImplicit false

namespace IamAuth

open Interleave Relational

/-! ## The tenant of a sign-in -/

/-- The user is an active member of some active tenant. -/
def HasTenant (u : Uuid) (db : Db) : Prop := ∃ tenant, Repo.isActiveMember u tenant db = true

/-- The tenant that a sign-in picks. -/
def pickedTenant (u : Uuid) (db : Db) : Uuid :=
  ((Repo.listMemberships u db).head?.map (·.tenantId)).getD defaultTenantId

theorem isActiveMember_iff {u tenant : Uuid} {db : Db} : Repo.isActiveMember u tenant db = true ↔
    ∃ m ∈ Repo.listMemberships u db, m.tenantId = tenant := by
  simp only [Repo.isActiveMember, Repo.membershipKey, Repo.listMemberships, orderBy,
    List.mem_insertionSort, List.mem_flatMap, List.mem_filter, List.mem_map, Bool.and_eq_true,
    List.any_eq_true, beq_iff_eq, Prod.mk.injEq]
  constructor
  · intro h
    obtain ⟨⟨m, hm, ⟨hu, htenant⟩, hactive⟩, t, ht, hid, hopen⟩ := h
    exact ⟨_, ⟨m, ⟨hm, hu, hactive⟩, t, ⟨ht, hid.trans htenant.symm, hopen⟩, rfl⟩, hid⟩
  · intro h
    obtain ⟨-, ⟨m, ⟨hm, hu, hactive⟩, t, ⟨ht, hid, hopen⟩, rfl⟩, htenant⟩ := h
    exact ⟨⟨m, hm, ⟨hu, hid.symm.trans htenant⟩, hactive⟩, t, ht, htenant, hopen⟩

/-- Without an active membership the tenant is one that the user is no member of. -/
theorem pickedTenant_active {u : Uuid} {db : Db} :
    Repo.isActiveMember u (pickedTenant u db) db = true ↔ HasTenant u db := by
  refine ⟨fun h => ⟨_, h⟩, fun h => ?_⟩
  obtain ⟨tenant, hmember⟩ := h
  obtain ⟨m, hm, -⟩ := isActiveMember_iff.1 hmember
  unfold pickedTenant
  cases hlist : Repo.listMemberships u db with
  | nil => simp [hlist] at hm
  | cons m' rest => exact isActiveMember_iff.2 ⟨m', by simp [hlist], rfl⟩

theorem isActiveMember_frame {ts : List Table} {db db' : Db} (h : Frame ts db db')
    (hmembers : .memberships ∉ ts) (htenants : .tenants ∉ ts) (u tenant : Uuid) :
    Repo.isActiveMember u tenant db' = Repo.isActiveMember u tenant db := by
  rw [Repo.isActiveMember, Repo.isActiveMember, h.memberships hmembers, h.tenants htenants]

/-! ## The two sign-ins -/

/-- The pair carries an access token of `user`, who is active, for the tenant picked. -/
structure Minted (cr : Crates) (user : UserRow) (pair : TokenPair) (db db' : Db) : Prop where
  token : ∃ c, cr.jwtIssue c (cr.formatUuid user.id) user.email
    (cr.formatUuid (pickedTenant user.id db)) "" = some pair.accessToken
  frame : Frame [.users, .refreshTokens, .totpRecoveryCodes, .auditEvents] db db'
  active : Repo.isUserActive user.id db' = true

section SignIns

variable {cr : Crates} {conn : DbRole} {svc : AuthSvc} {st : State} {h : List (Event Resp)}
  {A : State → List (Event Resp) → Choice → Event Resp → Prop}

theorem ends_refuseIfLocked_any (user : UserRow)
    {Q : Except Failure Unit → State → List (Event Resp) → Prop}
    (hfail : ∀ f h', Q (.error f) st h') (hok : ∀ h', Q (.ok ()) st h') :
    (refuseIfLocked user).Ends (machine cr conn) A Q st h := by
  unfold refuseIfLocked
  split
  · exact hok h
  · refine .bind (ends_sys _ fun c _ => ?_)
    exact Prog.ends_of_failIf (fun _ => hfail _ _) fun _ => hok _

theorem ends_issueForActiveTenant (userId : Uuid) (email : String)
    {Q : Except Failure TokenPair → State → List (Event Resp) → Prop}
    (hfail : ∀ f st' h', Q (.error f) st' h')
    (hok : ∀ pair db' h', (∃ c, cr.jwtIssue c (cr.formatUuid userId) email
        (cr.formatUuid (pickedTenant userId st.db)) "" = some pair.accessToken) →
      Frame [.refreshTokens] st.db db' → Q (.ok pair) { st with db := db' } h') :
    (issueForActiveTenant cr svc userId email).Ends (machine cr conn) A Q st h := by
  refine .bind (ends_query _ _ (fun c r db' _ hx => ?_) fun _ _ _ _ => hfail _ _ _)
  obtain ⟨rfl, rfl⟩ := Prod.mk.inj (Except.ok.inj hx)
  refine .bind (ends_sys _ fun c₁ _ => ?_)
  refine .bind (Prog.ends_of_okOr (fun _ => hfail _ _ _) fun access haccess => ?_)
  refine .bind (ends_sys _ fun c₂ _ => ?_)
  refine .bind (ends_sys _ fun c₃ _ => ?_)
  refine .bind (ends_addSeconds _ _ (fun _ => ?_) fun _ => hfail _ _ _)
  refine .bind (ends_query _ _ (fun c r db' _ hx => ?_) fun _ _ _ _ => hfail _ _ _)
  exact hok _ db' _ ⟨c₁, haccess⟩ (Sql.exec_frame hx)

/-- The end of both sign-ins, on a database in which the user is active. -/
theorem ends_signedIn {user : UserRow} {db₀ : Db} (action detail : String)
    (hframe : Frame [.users, .refreshTokens, .totpRecoveryCodes, .auditEvents] db₀ st.db)
    (hactive : Repo.isUserActive user.id st.db = true) {X : UserRow → Prop} (hX : X user) :
    (do auditAs svc (cr.formatUuid user.id) user.email action "" detail none
        issueForActiveTenant cr svc user.id user.email : Handler TokenPair).Ends (machine cr conn) A
      (fun r st' _ => ∀ pair, r = .ok pair → pair.mfaRequired = false →
        ∃ user, X user ∧ Minted cr user pair db₀ st'.db) st h := by
  refine .bind (ends_auditAs svc fun db₁ es haudit _ => ?_)
  refine ends_issueForActiveTenant _ _ (fun _ _ _ pair hpair => by cases hpair)
    fun pair db' h' htoken hissue pair' hpair _ => ?_
  cases hpair
  have hpicked : pickedTenant user.id db₁ = pickedTenant user.id db₀ := by
    have hbefore : Frame [.users, .refreshTokens, .totpRecoveryCodes, .auditEvents] db₀ db₁ :=
      hframe.trans (haudit.mono (by simp))
    rw [pickedTenant, pickedTenant, Repo.listMemberships, Repo.listMemberships,
      hbefore.memberships (by simp), hbefore.tenants (by simp)]
  rw [hpicked] at htoken
  refine ⟨user, hX, htoken, (hframe.trans (haudit.mono (by simp))).trans (hissue.mono (by simp)), ?_⟩
  rw [Repo.isUserActive, Repo.getUserById, hissue.users (by simp), haudit.users (by simp)]
  exact hactive

theorem isUserActive_reset (u : Uuid) (db : Db) :
    Repo.isUserActive u (Repo.resetLoginState u db) = Repo.isUserActive u db := by
  have hfind : Repo.getUserById u (Repo.resetLoginState u db) = (Repo.getUserById u db).map
      fun x => if x.id == u then { x with failedLoginAttempts := 0, lockedUntil := none } else x := by
    apply find?_updateWhere
    intro x _
    rfl
  rw [Repo.isUserActive, Repo.isUserActive, hfind]
  cases Repo.getUserById u db with
  | none => rfl
  | some x =>
    simp only [Option.map_some]
    split <;> rfl

theorem isUserActive_of_row {u : Uuid} {row : UserRow} {db : Db} (h : Repo.getUserById u db = some row)
    (hlive : row.deletedAt = none) : Repo.isUserActive u db = true := by
  simp [Repo.isUserActive, h, hlive]

theorem ends_resetLogin {u : Uuid} (hactive : Repo.isUserActive u st.db = true)
    {Q : Except Failure Unit → State → List (Event Resp) → Prop}
    (hQ : ∀ db' h', Repo.isUserActive u db' = true → Frame [.users] st.db db' →
      Q (.ok ()) { st with db := db' } h') :
    (ignore (.resetLoginState u)).Ends (machine cr conn) A Q st h := by
  refine .bind (ends_attempt _ (fun c r db' _ hx => ?_) fun c e _ _ => ?_)
  · cases hx
    exact hQ _ _ ((isUserActive_reset u st.db).trans hactive) (frame_users _ _)
  · exact hQ _ _ hactive (Frame.refl _ _)

theorem ends_login_minted (hkeys : UserKeys st.db) (req : LoginRequest) :
    (login cr svc req).Ends (machine cr conn) A
      (fun r st' _ => ∀ pair, r = .ok pair → pair.mfaRequired = false →
        ∃ user, Repo.getUserByEmail req.email st.db = some user ∧ Minted cr user pair st.db st'.db)
      st h := by
  have hno : ∀ (f : Failure) (st' : State) (pair : TokenPair), (.error f : Except Failure TokenPair) =
      .ok pair → pair.mfaRequired = false →
      ∃ user, Repo.getUserByEmail req.email st.db = some user ∧ Minted cr user pair st.db st'.db := by
    intro f st' pair hpair
    cases hpair
  refine .bind (ends_query _ _ (fun c found db' _ hx => ?_) fun _ _ _ _ => hno _ _)
  obtain ⟨rfl, rfl⟩ := Prod.mk.inj (Except.ok.inj hx)
  rw [Prog.endsThen_ok]
  cases hfound : Repo.getUserByEmail req.email st.db with
  | none => exact .bind (ends_sys _ fun c _ => by simp)
  | some user =>
    rw [hfound] at hno
    refine .bind (ends_refuseIfLocked_any user (fun _ _ => hno _ _) fun h' => ?_)
    refine .bind (ends_sys _ fun c _ => ?_)
    rw [Prog.endsThen_ok]
    split
    · -- A wrong password ends in an error, whatever the count does.
      refine .bind (Prog.ends_of_forall fun r s h => ?_)
      cases r with
      | error f => exact hno _ _
      | ok _ =>
        refine .bind (Prog.ends_of_forall fun r s h => ?_)
        cases r <;> exact hno _ _
    refine .bind (Prog.ends_of_failIf (fun _ => hno _ _) fun _ => ?_)
    refine .bind (Prog.ends_of_failIf (fun _ => hno _ _) fun hlive => ?_)
    have hmem : user ∈ st.db.users := List.mem_of_find?_eq_some hfound
    have hactive : Repo.isUserActive user.id st.db = true :=
      isUserActive_of_row (UserIds.find hkeys.ids hmem) (by simpa using hlive)
    have hsigned : ∀ db₁ h₁, Repo.isUserActive user.id db₁ = true →
        Frame [.users, .refreshTokens, .totpRecoveryCodes, .auditEvents] st.db db₁ →
        (if user.totpEnabled then do
            auditAs svc (cr.formatUuid user.id) user.email "login.mfa_challenge" "" "" none
            let mfa ← Prog.okOr (← sys (.jwtIssueMfa (cr.formatUuid user.id) mfaTokenTtlSecs))
              (internal "failed to issue mfa token")
            return ⟨"", "", 0, "Bearer", true, mfa⟩
          else do
            auditAs svc (cr.formatUuid user.id) user.email "login.success" "" "" none
            issueForActiveTenant cr svc user.id user.email : Handler TokenPair).Ends (machine cr conn) A
          (fun r st' _ => ∀ pair, r = .ok pair → pair.mfaRequired = false →
            ∃ user', some user = some user' ∧ Minted cr user' pair st.db st'.db)
          { st with db := db₁ } h₁ := by
      intro db₁ h₁ hactive₁ hframe₁
      split
      · refine .bind (ends_auditAs svc fun db₂ es _ _ => ?_)
        refine .bind (ends_sys _ fun c _ => ?_)
        refine .bind (Prog.ends_of_okOr (fun _ => hno _ _) fun mfa _ => ?_)
        intro pair hpair hmfa
        cases hpair
        cases hmfa
      · exact ends_signedIn _ _ hframe₁ hactive₁ rfl
    exact .bind (ends_resetLogin hactive fun db₁ h₁ hactive₁ hframe₁ =>
      hsigned db₁ h₁ hactive₁ (hframe₁.mono (by simp)))

theorem ends_checkCode_any (uid : Uuid) (secret : Option String) (code : String)
    {Q : Except Failure Bool → State → List (Event Resp) → Prop}
    (hQ : ∀ r db' h', Frame [.totpRecoveryCodes] st.db db' → Q r { st with db := db' } h') :
    (checkCode cr uid secret code).Ends (machine cr conn) A Q st h := by
  have hcheck : (checkTotp secret code).Ends (machine cr conn) A
      (Prog.EndsThen (machine cr conn) A Q fun valid => if valid then pure true
        else query (.consumeRecoveryCode uid (hashToken cr code)) (internal "db error")) st h := by
    have hspend : ∀ (valid : Bool) h', (if valid then pure true
        else query (.consumeRecoveryCode uid (hashToken cr code)) (internal "db error") :
          Handler Bool).Ends (machine cr conn) A Q st h' := by
      intro valid h'
      split
      · exact hQ _ _ _ (Frame.refl _ _)
      · exact ends_query _ _ (fun c r db' _ hx => hQ _ _ _ (Sql.exec_frame hx))
          fun _ _ _ _ => hQ _ _ _ (Frame.refl _ _)
    unfold checkTotp
    split
    · exact ends_sys _ fun c _ => hspend _ _
    · exact hspend _ _
  exact .bind hcheck

theorem ends_loginTotp_minted (md : MetadataMap) (req : LoginTotpRequest) {now : DateTime}
    (hnow : ∀ c e, A st h c e → c.now = now) :
    (loginTotp cr svc req).Ends (machine cr conn) A
      (fun r st' _ => ∀ pair, r = .ok pair → pair.mfaRequired = false →
        ∃ user, signInUser cr now st.db (.rpc svc md (.loginTotp req)) = some user ∧
          Minted cr user pair st.db st'.db) st h := by
  have hno : ∀ (f : Failure) (st' : State) (pair : TokenPair), (.error f : Except Failure TokenPair) =
      .ok pair → pair.mfaRequired = false →
      ∃ user, signInUser cr now st.db (.rpc svc md (.loginTotp req)) = some user ∧
        Minted cr user pair st.db st'.db := by
    intro f st' pair hpair
    cases hpair
  refine .bind (ends_sys _ fun c hc => ?_)
  obtain rfl : c.now = now := hnow c _ hc
  refine .bind (Prog.ends_of_okOr (fun _ => hno _ _) fun claims hclaims => ?_)
  refine .bind (Prog.ends_of_failIf (fun _ => hno _ _) fun _ => ?_)
  refine .bind (Prog.ends_of_okOr (fun _ => hno _ _) fun uid huid => ?_)
  refine .bind (ends_query _ _ (fun c₁ found db' _ hx => ?_) fun _ _ _ _ => hno _ _)
  obtain ⟨rfl, rfl⟩ := Prod.mk.inj (Except.ok.inj hx)
  refine .bind (Prog.ends_of_okOr (fun _ => hno _ _) fun user huser => ?_)
  obtain ⟨hfound, hpending⟩ := Option.filter_eq_some_iff.mp huser
  have hsignIn : signInUser cr c.now st.db (.rpc svc md (.loginTotp req)) = some user := by
    have hparsed : cr.jwtParse c.now req.mfaToken = some claims := hclaims
    simp only [signInUser, hparsed, huid, Option.bind_eq_bind, Option.bind_some]
    exact hfound
  have hid : user.id = uid := getUserById_id hfound
  have hactive : Repo.isUserActive user.id st.db = true := by
    simp only [mfaPending, Bool.and_eq_true, Option.isNone_iff_eq_none] at hpending
    rw [hid]
    exact isUserActive_of_row hfound hpending.1.1
  refine .bind (ends_refuseIfLocked_any user (fun _ _ => hno _ _) fun h' => ?_)
  refine .bind (ends_checkCode_any _ _ _ fun r db₁ h₁ hcodes => ?_)
  cases r with
  | error f => exact hno _ _
  | ok right =>
    rw [Prog.endsThen_ok]
    split
    · refine .bind (Prog.ends_of_forall fun r s h => ?_)
      cases r with
      | error f => exact hno _ _
      | ok _ =>
        refine .bind (Prog.ends_of_forall fun r s h => ?_)
        cases r <;> exact hno _ _
    · have hactive₁ : Repo.isUserActive user.id db₁ = true := by
        rw [Repo.isUserActive, Repo.getUserById, hcodes.users (by simp)]
        exact hactive
      rw [← hid]
      refine .bind (ends_resetLogin hactive₁ fun db₂ h₂ hactive₂ hframe₂ => ?_)
      exact ends_signedIn _ _ ((hcodes.mono (by simp)).trans (hframe₂.mono (by simp))) hactive₂ hsignIn

end SignIns

/-! ## Validation -/

/-- An access token that parses gives back what it was issued for. -/
structure AccessTokens (cr : Crates) : Prop where
  uuid : ∀ u, cr.parseUuid (cr.formatUuid u) = some u
  text : ∀ u, cr.formatUuid u ≠ ""
  access : ∀ c sub email tenant project token now k,
    cr.jwtIssue c sub email tenant project = some token → cr.jwtParseAccess now token = some k →
    k.sub = sub ∧ k.email = email ∧ k.tenantId = tenant ∧ k.projectId = project

/-- The token is accepted for this user and tenant, with the permissions that the
database grants there. -/
def AcceptedAs (cr : Crates) (conn : DbRole) (user : UserRow) (tenant : Uuid) (db : Db)
    (r : Except Failure Response) : Prop :=
  ∃ roles, r = .ok (.token ⟨cr.formatUuid user.id, user.email, roles,
    Repo.getUserPermissionsScoped conn user.id tenant none db, cr.formatUuid tenant, ""⟩)

section Validation

variable {cr : Crates} {conn : DbRole} {svc : AuthSvc} {st : State} {h : List (Event Resp)}
  {A : State → List (Event Resp) → Choice → Event Resp → Prop}

/-- A lookup that meets no failure of the database. -/
theorem ends_lookup (s : Sql) (e : Failure) {v : Reply s}
    (hv : ∀ c, s.exec conn c st.db = .ok (v, st.db))
    (hconn : ∀ st h c e, A st h c e → Connected st h c e)
    {Q : Except Failure (Reply s) → State → List (Event Resp) → Prop}
    (hQ : ∀ h', Q (.ok v) st h') : (query s e).Ends (machine cr conn) A Q st h := by
  refine ends_query_total s e (fun _ => (v, st.db)) hv (fun c _ _ => hQ _) fun c e' hc hlost => ?_
  exact absurd ((hconn _ _ _ _ hc s rfl).symm.trans hlost) (by simp)

theorem ends_validateToken (md : MetadataMap) {token : String} {k : Claims} {user : UserRow} {tenant : Uuid}
    {now : DateTime} (hcr : AccessTokens cr) (hparse : cr.jwtParseAccess now token = some k)
    (hsub : k.sub = cr.formatUuid user.id) (hemail : k.email = user.email)
    (htenant : k.tenantId = cr.formatUuid tenant) (hproject : k.projectId = "")
    (hfresh : Repo.isTokenRevoked k.jti st.db = false)
    (hactive : Repo.isUserActive user.id st.db = true) (hcache : svc.cacheConn = false)
    (hnow : ∀ c e, A st h c e → c.now = now)
    (hconn : ∀ st h c e, A st h c e → Connected st h c e) :
    ((Rpc.validateToken ⟨token⟩).handle cr svc md).Ends (machine cr conn) A
      (fun r _ _ => AcceptedAs cr conn user tenant st.db r ↔
        Repo.isActiveMember user.id tenant st.db = true) st h := by
  have hdenied : isDenied svc k.jti = pure none := by
    unfold isDenied
    simp [hcache]
  have hnoCache : getPerms cr svc k.tenantId k.projectId k.sub = pure none := by
    unfold getPerms
    simp [hcache]
  have hnoWrite : ∀ ps, setPerms cr svc k.tenantId k.projectId k.sub ps = pure () := by
    intro ps
    unfold setPerms
    simp [hcache]
  refine .bind ?_
  refine .bind (ends_sys _ fun c hc => ?_)
  obtain rfl : c.now = now := hnow c _ hc
  refine .bind (Prog.ends_of_okOr (fun hno => ?_) fun k' hk' => ?_)
  · cases hno.symm.trans hparse
  obtain rfl : k' = k := Option.some.inj (hk'.symm.trans hparse)
  refine .bind ?_
  unfold refuseIfDenied
  rw [hdenied]
  refine .bind ((Prog.ends_pure _ _ _ _ _ none).mpr ?_)
  refine .bind (ends_lookup (.isTokenRevoked k'.jti) _ (fun _ => rfl) hconn fun h₁ => ?_)
  refine Prog.ends_of_failIf (fun hno => ?_) fun _ => ?_
  · simp [hfresh] at hno
  refine .bind (Prog.ends_of_okOr (fun hno => ?_) fun u hu => ?_)
  · rw [hsub, hcr.uuid] at hno
    cases hno
  obtain rfl : u = user.id := by
    rw [hsub, hcr.uuid] at hu
    exact (Option.some.inj hu).symm
  refine .bind (ends_lookup (.isUserActive user.id) _ (fun _ => rfl) hconn fun h₂ => ?_)
  refine .bind (Prog.ends_of_failIf (fun hno => ?_) fun _ => ?_)
  · simp [hactive] at hno
  refine .bind ?_
  unfold tokenTenant
  rw [if_neg (by simp [htenant, hcr.text])]
  refine .bind (Prog.ends_of_okOr (fun hno => ?_) fun t ht => ?_)
  · rw [htenant, hcr.uuid] at hno
    cases hno
  obtain rfl : t = tenant := by
    rw [htenant, hcr.uuid] at ht
    exact (Option.some.inj ht).symm
  refine .bind (ends_lookup (.isActiveMember user.id t) _ (fun _ => rfl) hconn fun h₃ => ?_)
  refine .bind (Prog.ends_of_failIf (fun hno => ?_) fun hmember => ?_)
  · refine iff_of_false ?_ (by simpa using hno)
    intro haccepted
    obtain ⟨roles, hr⟩ := haccepted
    cases hr
  rw [Prog.endsThen_ok]
  refine (Prog.ends_pure _ _ _ _ _ (some t)).mpr ?_
  refine .bind ?_
  unfold tokenProject
  rw [if_pos (by simp [hproject])]
  refine (Prog.ends_pure _ _ _ _ _ none).mpr ?_
  refine .bind (ends_lookup (.getUserRolesScoped user.id t none) _ (fun _ => rfl) hconn fun h₄ => ?_)
  refine .bind ?_
  unfold tokenPermissions
  rw [hnoCache]
  refine .bind ((Prog.ends_pure _ _ _ _ _ none).mpr ?_)
  refine .bind (ends_lookup (.getUserPermissionsScoped user.id t none) _ (fun _ => rfl) hconn
    fun h₅ => ?_)
  rw [Prog.endsThen_ok, hnoWrite]
  refine .bind ((Prog.ends_pure _ _ _ _ _ ()).mpr ?_)
  refine iff_of_true ⟨Repo.getUserRolesScoped conn user.id t none st.db, ?_⟩ (by simpa using hmember)
  rw [← hsub, ← hemail, ← htenant, ← hproject]

end Validation

/-! ## The two together -/

def Call.isSignIn : Call → Bool
  | .rpc _ _ (.login _) => true
  | .rpc _ _ (.loginTotp _) => true
  | _ => false

theorem ends_signIn_minted (cr : Crates) (conn : DbRole) {st : State} (hkeys : UserKeys st.db)
    (call : Call) (hcall : call.isSignIn = true) (cs : Nat → Choice) :
    (call.body cr).Ends (machine cr conn) (fun _ h c _ => c = cs h.length)
      (fun r st' _ => ∀ pair, r = .ok (.tokens pair) → pair.mfaRequired = false →
        ∃ user, signInUser cr (cs 0).now st.db call = some user ∧
          Minted cr user pair st.db st'.db) st [] := by
  have hwrap : ∀ (r : Except Failure TokenPair) (st' : State) (h : List (Event Resp)),
      (∀ pair, r = .ok pair → pair.mfaRequired = false →
        ∃ user, signInUser cr (cs 0).now st.db call = some user ∧ Minted cr user pair st.db st'.db) →
      Prog.EndsThen (machine cr conn) (fun _ h c _ => c = cs h.length)
        (fun r st' _ => ∀ pair, r = .ok (.tokens pair) → pair.mfaRequired = false →
          ∃ user, signInUser cr (cs 0).now st.db call = some user ∧ Minted cr user pair st.db st'.db)
        (fun pair => pure (Response.tokens pair)) r st' h := by
    intro r st' h hr
    cases r with
    | error f =>
      intro pair hpair
      cases hpair
    | ok pair =>
      intro pair' hpair
      cases hpair
      exact hr pair rfl
  cases call with
  | rpc svc md r =>
    cases r <;> try exact (Bool.false_ne_true hcall).elim
    case login req => exact .bind ((ends_login_minted hkeys req).mono hwrap)
    case loginTotp req =>
      exact .bind ((ends_loginTotp_minted md req fun c _ hc => congrArg Choice.now hc).mono hwrap)
  | start env => cases hcall
  | profileCreationFailed userId reason => cases hcall

/-- A sign-in from a state that calls lead to, and right after it the validation of
the token it minted: the token is accepted, for the user who signed in and with the
permissions of its tenant, exactly when that user has an active tenant. -/
theorem minted_accepted_iff (cr : Crates) (conn : DbRole) (hcr : AccessTokens cr) (redis : Redis)
    (ls : List Act) (call : Call) (hcall : call.isSignIn = true) (cs cs' : Nat → Choice)
    (svc : AuthSvc) (md : MetadataMap) {st st' : State} {pair : TokenPair} {k : Claims}
    (hst : st = (runFrom cr conn ⟨migrated, redis⟩ ls).state)
    (hpair : (serve cr conn st ⟨call, cs⟩).1 = .ok (.tokens pair)) (hmfa : pair.mfaRequired = false)
    (hst' : st' = (serve cr conn st ⟨call, cs⟩).2.1)
    (hparse : cr.jwtParseAccess (cs' 0).now pair.accessToken = some k)
    (hfresh : Repo.isTokenRevoked k.jti st'.db = false) (hcache : svc.cacheConn = false)
    (hconnected : (Call.body cr (.rpc svc md (.validateToken ⟨pair.accessToken⟩))).Meets
      (machine cr conn) Connected cs' st' []) :
    ∃ user tenant, signInUser cr (cs 0).now st.db call = some user ∧
      k.tenantId = cr.formatUuid tenant ∧
      (AcceptedAs cr conn user tenant st'.db
          (serve cr conn st' ⟨.rpc svc md (.validateToken ⟨pair.accessToken⟩), cs'⟩).1 ↔
        HasTenant user.id st.db) := by
  subst hst'
  have hkeys : UserKeys st.db := by
    rw [hst]
    exact userKeys_run cr conn redis ls
  have hsignIn := (ends_signIn_minted cr conn hkeys call hcall cs).eval_meets
    (Prog.meets_choices _ cs)
  have hminted := hsignIn pair hpair hmfa
  obtain ⟨user, huser, htoken, hframe, hactive⟩ := hminted
  obtain ⟨c, hissue⟩ := htoken
  obtain ⟨hsub, hemail, htenant, hproject⟩ := hcr.access _ _ _ _ _ _ _ _ hissue hparse
  refine ⟨user, pickedTenant user.id st.db, huser, htenant, ?_⟩
  rw [← pickedTenant_active, ← isActiveMember_frame hframe (by simp) (by simp)]
  have hends : (Call.body cr (.rpc svc md (.validateToken ⟨pair.accessToken⟩))).Ends (machine cr conn)
      (fun s h c e => c = cs' h.length ∧ (True → Connected s h c e))
      (fun r _ _ => AcceptedAs cr conn user (pickedTenant user.id st.db)
          (serve cr conn st ⟨call, cs⟩).2.1.db r ↔
        Repo.isActiveMember user.id (pickedTenant user.id st.db)
          (serve cr conn st ⟨call, cs⟩).2.1.db = true) (serve cr conn st ⟨call, cs⟩).2.1 [] :=
    ends_validateToken md hcr hparse hsub hemail htenant hproject hfresh hactive hcache
      (fun _ _ hc => congrArg Choice.now hc.1) fun _ _ _ _ hc => hc.2 trivial
  exact hends.eval_meets ((Prog.meets_choices _ cs').and fun _ => hconnected)

namespace Sample

theorem jwtIssue_some {c : Choice} {sub email tenant project token : String}
    (h : crates.jwtIssue c sub email tenant project = some token) :
    token = encodeClaims ⟨sub, email, tenant, project, "", c.text, timestamp c.now + 900⟩ :=
  (Option.some.inj h).symm

theorem jwtParseAccess_some {now : DateTime} {token : String} {k : Claims}
    (h : crates.jwtParseAccess now token = some k) : decodeClaims now token = some k := by
  simp only [crates, Option.filter_eq_some_iff] at h
  exact h.1

theorem accessTokens : AccessTokens crates where
  uuid u := by
    simp only [crates]
    exact parse_format u
  text u h := by
    have hempty := congrArg String.toList h
    rw [show crates.formatUuid u = formatUuid u from rfl, formatUuid_toList] at hempty
    simp [hyphenate] at hempty
  access c sub email tenant project token now k hissue hparse := by
    have hdecoded := jwtParseAccess_some hparse
    rw [jwtIssue_some hissue] at hdecoded
    obtain ⟨hsub, hemail, htenant, hproject, -, -⟩ := decode_encode hdecoded
    exact ⟨hsub, hemail, htenant, hproject⟩

/-- User 10 has been removed from the default tenant again. -/
def removed : List Act :=
  registration ++ alone 1 (.rpc svc (metadata 11 defaultTenantId "member:write")
    (.removeMember ⟨formatUuid 10⟩)) [choice 0 0 ""]

def signIn : Call := .rpc svc [] (.login ⟨"u@iam.local", "password"⟩)

/-- The sign-in from the state that the calls `ls` lead to. -/
def signedInAfter (ls : List Act) : Except Failure Response × State × List (Event Resp) :=
  serve crates .superuser (runFrom crates .superuser ⟨migrated, []⟩ ls).state
    ⟨signIn, fun _ => choice 0 0 "j1"⟩

def mintedClaims : Claims :=
  ⟨formatUuid 10, "u@iam.local", formatUuid defaultTenantId, "", "", "j1", 900⟩

def mintedPair : TokenPair := ⟨encodeClaims mintedClaims, "j1", 900, "Bearer", false, ""⟩

theorem minted_registration : (signedInAfter registration).1 = .ok (.tokens mintedPair) := by
  decide

theorem minted_removed : (signedInAfter removed).1 = .ok (.tokens mintedPair) := by
  decide

/-- Validation of the token minted after the calls `ls`, in the state that the sign-in leaves. -/
def validatedAfter (ls : List Act) : Except Failure Response × State × List (Event Resp) :=
  serve crates .superuser (signedInAfter ls).2.1
    ⟨.rpc svc [] (.validateToken ⟨mintedPair.accessToken⟩), fun _ => choice 0 0 ""⟩

theorem minted_accepted_registration : ∃ user tenant,
    signInUser crates 0 (runFrom crates .superuser ⟨migrated, []⟩ registration).state.db signIn =
      some user ∧
    mintedClaims.tenantId = crates.formatUuid tenant ∧
    (AcceptedAs crates .superuser user tenant (signedInAfter registration).2.1.db
        (validatedAfter registration).1 ↔
      HasTenant user.id (runFrom crates .superuser ⟨migrated, []⟩ registration).state.db) := by
  have hst : (runFrom crates .superuser ⟨migrated, []⟩ registration).state =
      (runFrom crates .superuser ⟨migrated, []⟩ registration).state := rfl
  have hst' : (signedInAfter registration).2.1 = (serve crates .superuser
      (runFrom crates .superuser ⟨migrated, []⟩ registration).state
      ⟨signIn, fun _ => choice 0 0 "j1"⟩).2.1 := rfl
  have hparse : crates.jwtParseAccess 0 mintedPair.accessToken = some mintedClaims := by decide
  have hfresh : Repo.isTokenRevoked mintedClaims.jti (signedInAfter registration).2.1.db = false := by
    decide
  have hconnected : (Call.body crates (.rpc svc [] (.validateToken ⟨mintedPair.accessToken⟩))).Meets
      (machine crates .superuser) Connected (fun _ => choice 0 0 "") (signedInAfter registration).2.1 [] :=
    Prog.meets_of_events _ fun _ _ _ _ _ _ => rfl
  have haccepted := minted_accepted_iff crates .superuser accessTokens [] registration signIn rfl
    (fun _ => choice 0 0 "j1") (fun _ => choice 0 0 "") svc [] hst minted_registration rfl hst'
    hparse hfresh rfl hconnected
  exact haccepted

/-- The token of a sign-in after the removal is refused. -/
theorem minted_refused : (signedInAfter removed).1 = .ok (.tokens mintedPair) ∧
    crates.jwtParseAccess 0 mintedPair.accessToken = some mintedClaims ∧
    Repo.isTokenRevoked "j1" (signedInAfter removed).2.1.db = false ∧
    (validatedAfter removed).1 = .error (unauthenticated "tenant membership revoked") := by
  refine ⟨minted_removed, ?_, ?_, ?_⟩ <;> decide

end Sample

end IamAuth
