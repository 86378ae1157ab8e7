import IamAuth.Entitled

/-!
# Tokens for a deleted identity

login and login_totp look at deleted_at. refresh, switch_tenant and
exchange_authorization_code do not: they rest on the refresh row and on the
membership, and a soft deletion leaves memberships and rotated rows alone.
-/

set_option autoImplicit false

namespace IamAuth

open Interleave Relational

/-- No row of `u` is without `deleted_at`. -/
def Deleted (u : Uuid) (db : Db) : Prop := ∀ x ∈ db.users, x.id = u → x.deletedAt.isSome = true

instance (u : Uuid) (db : Db) : Decidable (Deleted u db) :=
  inferInstanceAs (Decidable (∀ x ∈ db.users, _))

/-- The event has restored `u`, or has created an identity of that id. -/
def revives (u : Uuid) : Event Resp → Bool
  | ⟨.sql (.restoreUserEvent id _ _), .ok _⟩ => id == u
  | ⟨.sql (.createUserWithRole ..), .ok id⟩ => id == u
  | ⟨.sql (.createUserWithRoleEvent id ..), .ok _⟩ => id == u
  | _ => false

/-! ## Deleted identities stay deleted -/

section Statement

variable {conn : DbRole} {c : Choice} {s : Sql} {db db' : Db} {u : Uuid}

theorem Deleted.of_frame {ts : List Table} (hdb : Deleted u db) (h : Frame ts db db')
    (hn : .users ∉ ts) : Deleted u db' := by
  rw [Deleted, h.users hn]
  exact hdb

theorem Deleted.updateWhere {p : UserRow → Bool} {f : UserRow → UserRow}
    (hid : ∀ x, (f x).id = x.id)
    (hdeleted : ∀ x, p x = true → x.id = u → x.deletedAt.isSome = true →
      (f x).deletedAt.isSome = true) (hdb : Deleted u db) :
    Deleted u { db with users := updateWhere p f db.users } := by
  intro y hy hyu
  obtain ⟨x, hx, rfl⟩ := mem_updateWhere.1 hy
  by_cases hp : p x = true
  · rw [if_pos hp] at hyu ⊢
    rw [hid] at hyu
    exact hdeleted x hp hyu (hdb x hx hyu)
  · rw [if_neg hp] at hyu ⊢
    exact hdb x hx hyu

theorem deleted_insertUser {id : Uuid} {email hash : String} (hne : id ≠ u)
    (h : Repo.insertUser id email hash db = .ok db') (hdb : Deleted u db) : Deleted u db' := by
  unfold Repo.insertUser at h
  split at h <;> cases h
  intro x hx hxu
  rcases List.mem_append.mp hx with hx | hx
  · exact hdb x hx hxu
  · obtain rfl := List.mem_singleton.mp hx
    exact absurd hxu hne

theorem deleted_exec {r : Reply s} (hlive : revives u ⟨.sql s, .ok r⟩ = false)
    (h : s.exec conn c db = .ok (r, db')) (hdb : Deleted u db) : Deleted u db' := by
  by_cases hw : .users ∈ s.writes
  · cases s <;> simp only [Sql.writes, List.mem_cons, List.not_mem_nil, reduceCtorEq, or_self,
      or_false] at hw
    case createUserWithRole email hash role =>
      obtain ⟨db₁, rfl, h₁, h₂⟩ := createUserWithRole_ok h
      refine Deleted.of_frame ?_ (frame_insertUserRoles h₂) (by simp)
      exact deleted_insertUser (by simpa [revives] using hlive) h₁ hdb
    case createUserWithRoleEvent id email hash role eventType payload =>
      obtain ⟨db₁, db₂, h₁, h₂, h₃⟩ := createUserWithRoleEvent_ok h
      refine Deleted.of_frame (Deleted.of_frame ?_ (frame_insertUserRoles h₂) (by simp))
        (frame_insertOutbox h₃) (by simp)
      exact deleted_insertUser (by simpa [revives] using hlive) h₁ hdb
    case deleteUserEventSoft id hard eventType payload =>
      refine Deleted.of_frame ?_ (frame_insertOutbox (deleteUserEventSoft_ok h)) (by simp)
      split
      · exact fun x hx hxu => hdb x (mem_deleteWhere.1 hx).1 hxu
      · exact hdb.updateWhere (by simp) (by simp)
    case restoreUserEvent id eventType payload =>
      have hne : id ≠ u := by simpa [revives] using hlive
      refine Deleted.of_frame ?_ (frame_insertOutbox (restoreUserEvent_ok h)) (by simp)
      refine hdb.updateWhere (by simp) fun x hp hxu _ => ?_
      exact absurd ((by simpa using hp : x.id = id).symm.trans hxu) hne
    case incrementLoginFailure id =>
      simp only [Sql.exec, Repo.incrementLoginFailure] at h
      repeat' split at h
      all_goals cases h
      exact hdb.updateWhere (by simp) (by simp)
    all_goals
      cases h
      exact hdb.updateWhere (by simp) (by simp)
  · exact hdb.of_frame (Sql.exec_frame h) hw

end Statement

/-! ## Runs -/

section Runs

variable {cr : Crates} {conn : DbRole} {u : Uuid} {w : World}

theorem deleted_next {l : Act}
    (hlive : ∀ i c o, l = .step i c → w.pending i = some o →
      revives u ⟨o, ((machine cr conn).exec o c w.state).1⟩ = false)
    (h : Deleted u w.state.db) :
    Deleted u (Pool.next (machine cr conn) (Call.body cr) w l).state.db := by
  rcases db_next cr conn (Call.body cr) w l with hs | ⟨i, c, q, r, db', hl, hp, hx, hreply, hs⟩
  · rwa [hs]
  · have hlive := hlive i c _ hl hp
    rw [hreply] at hlive
    rw [hs]
    exact deleted_exec hlive hx h

theorem deleted_run {ls : List Act}
    (hlive : Pool.Each (machine cr conn) (Call.body cr) (fun w l => ∀ i c o, l = .step i c →
      w.pending i = some o → revives u ⟨o, ((machine cr conn).exec o c w.state).1⟩ = false) w ls)
    (h : Deleted u w.state.db) :
    Deleted u (Pool.run (machine cr conn) (Call.body cr) w ls).state.db :=
  Pool.run_inv (I := fun w : World => Deleted u w.state.db) (fun _ _ hl h => deleted_next hl h)
    hlive h

end Runs

/-! ## Calls that start after the deletion -/

section Later

variable (cr : Crates) (conn : DbRole) (st : State)

/-- Call `k`, one of those that issue tokens, starts when `u` is deleted, and `u`
is not restored while it runs. -/
structure AfterDeletion (ls₁ ls₂ : List Act) (u : Uuid) (k : Nat) (call : Call) : Prop where
  deleted : Deleted u (runFrom cr conn st ls₁).state.db
  notRevived : ∀ x ∈ (runFrom cr conn st (ls₁ ++ ls₂)).log.drop (runFrom cr conn st ls₁).log.length,
    revives u x.2 = false
  later : (runFrom cr conn st ls₁).threads.length ≤ k
  called : (runFrom cr conn st (ls₁ ++ ls₂)).callOf k = some call
  issuing : call.issues = true

/-- What `k` meets does not let `u` in: when it asks for a membership of `u`
there is none, and a refresh row of `u` that it finds is spent by its clock. -/
def shutOut (w : World) (ls : List Act) (k : Nat) (u : Uuid) : Prop :=
  ∀ pre c post, ls = pre ++ .step k c :: post →
    let db := (Pool.run (machine cr conn) (Call.body cr) w pre).state.db
    let next := (Pool.run (machine cr conn) (Call.body cr) w pre).pending k
    (∀ tenant, next = some (.sql (.isActiveMember u tenant)) → c.fails = false →
      Repo.isActiveMember u tenant db = false) ∧
    (∀ hash row, next = some (.sql (.getRefreshToken hash)) →
      Repo.getRefreshToken hash db = some row → row.userId = u →
      ∀ pre' c' post', ls = pre' ++ .step k c' :: post' →
        (Pool.run (machine cr conn) (Call.body cr) w pre').pending k = some (.sys .utcNow) →
        usableAt row c'.now = false)

variable {cr conn st} {ls₁ ls₂ : List Act} {u : Uuid} {k : Nat} {call : Call}

theorem AfterDeletion.still_deleted (h : AfterDeletion cr conn st ls₁ ls₂ u k call)
    {pre post : List Act} (hls : ls₂ = pre ++ post) :
    Deleted u (Pool.run (machine cr conn) (Call.body cr) (runFrom cr conn st ls₁) pre).state.db := by
  have hlog := h.notRevived
  rw [runFrom_append] at hlog
  have heach := Pool.each_of_log (q := fun e => revives u e = false) hlog
  rw [hls, Pool.each_append] at heach
  exact deleted_run heach.1 h.deleted

theorem AfterDeletion.not_entitled (h : AfterDeletion cr conn st ls₁ ls₂ u k call)
    (hshut : shutOut cr conn (runFrom cr conn st ls₁) ls₂ k u) :
    ¬Entitled cr call ((runFrom cr conn st (ls₁ ++ ls₂)).hist k) u := by
  have hfresh := (tracks_issueBody cr conn st ls₁).fresh
  rw [runFrom_append]
  have hmember : ∀ tenant, (⟨.sql (.isActiveMember u tenant), .ok true⟩ : Event Resp) ∉
      (Pool.run (machine cr conn) (Call.body cr) (runFrom cr conn st ls₁) ls₂).hist k := by
    intro tenant hread
    obtain ⟨pre, c, post, db', hls, hp, hc, hx⟩ := read_later hfresh h.later hread
    have hnone := (hshut pre c post hls).1 tenant hp hc
    have hmember : Repo.isActiveMember u tenant _ = true := congrArg Prod.fst (Except.ok.inj hx)
    rw [hnone] at hmember
    cases hmember
  intro hv
  obtain ⟨svc, md, r⟩ | env | ⟨userId, reason⟩ := call
  · have hissuing := h.issuing
    cases r <;> try exact (Bool.false_ne_true hissuing).elim
    case login req =>
      obtain ⟨user, hread, hid, hlive⟩ := hv
      obtain ⟨pre, c, post, db', hls, -, -, hx⟩ := read_later hfresh h.later hread
      have hmem := List.mem_of_find?_eq_some (congrArg Prod.fst (Except.ok.inj hx))
      simpa [hlive] using h.still_deleted hls user hmem hid
    case loginTotp req =>
      obtain ⟨user, hread, hlive⟩ := hv
      obtain ⟨pre, c, post, db', hls, -, -, hx⟩ := read_later hfresh h.later hread
      have hfound : Repo.getUserById u _ = some user := congrArg Prod.fst (Except.ok.inj hx)
      simpa [hlive] using h.still_deleted hls user (List.mem_of_find?_eq_some hfound)
        (getUserById_id hfound)
    case refresh req =>
      obtain ⟨row, now, user, hread, hclock, husable, hfound, hid⟩ := hv
      obtain ⟨pre, c, post, db', hls, hp, -, hx⟩ := read_later hfresh h.later hread
      obtain ⟨pre', c', post', hls', hp', hnow⟩ := Pool.event_of_later hfresh h.later hclock
      obtain rfl : now = c'.now := hnow
      have howner : row.userId = u := by
        obtain ⟨_, _, _, _, _, _, _, hx'⟩ := read_later hfresh h.later hfound
        exact (getUserById_id (congrArg Prod.fst (Except.ok.inj hx'))).symm.trans hid
      have hspent := (hshut pre c post hls).2 _ row hp (congrArg Prod.fst (Except.ok.inj hx)) howner
        pre' c' post' hls' hp'
      rw [husable] at hspent
      cases hspent
    case switchTenant req =>
      obtain ⟨tenant, hread⟩ := hv
      exact hmember tenant hread
    case exchangeAuthorizationCode req =>
      obtain ⟨tenant, hread⟩ := hv
      exact hmember tenant hread
  · cases h.issuing
  · cases h.issuing

/-- A call that starts when `u` is deleted issues no access token, refresh token
or ID token for `u` if nothing it meets lets `u` in. -/
theorem deleted_noTokens (hcr : Function.Injective cr.formatUuid)
    (h : AfterDeletion cr conn st ls₁ ls₂ u k call)
    (hshut : shutOut cr conn (runFrom cr conn st ls₁) ls₂ k u) :
    ∀ e ∈ (runFrom cr conn st (ls₁ ++ ls₂)).hist k, issuesFor cr u e = false := by
  intro e he
  rw [Bool.eq_false_iff]
  intro hissues
  obtain ⟨h₁, h₂, hhist, hrule⟩ := issueRule_of_mem h.called h.issuing he
  have hv := (entitled_of_issuesFor hcr hrule hissues).append h₂
  rw [← hhist] at hv
  exact h.not_entitled hshut hv

end Later

/-! An authorization code from before the deletion. -/

def deletion : Call :=
  .rpc Sample.svc (Sample.metadata 11 defaultTenantId "user:delete")
    (.deleteUser ⟨Sample.formatUuid 10, false⟩)

def exchanging : Call :=
  .rpc Sample.svc [] (.exchangeAuthorizationCode ⟨"code", "app", "secret", "https://app", ""⟩)

def signingIn : Call := .rpc Sample.svc [] (.login ⟨"u@iam.local", "pw"⟩)

def refreshingLate : Call := .rpc Sample.svc [] (.refresh ⟨"r0"⟩)

/-- User 10 holds a code for a confidential client of its tenant. -/
def withCode : State :=
  let st := Sample.stateOf (Sample.user 10 none false)
  { st with db := { st.db with
    oauthClients := [⟨"app", some "secret", "App", ["https://app"], clientGrantTypes, ["openid"],
      true, defaultTenantId⟩]
    oauthAuthorizationCodes := [⟨"code", "app", 10, "https://app", "openid", none, none, none,
      seconds 300, false⟩] } }

/-- It also holds a token rotated at time 0, and its membership has been removed. -/
def withRotated : State :=
  { withCode with db := { withCode.db with
    memberships := []
    refreshTokens := [⟨⟨10, seconds 1000, some 0, some "r1", defaultTenantId, none⟩, "r0"⟩] } }

/-- The deletion of user 10 by another user. -/
def deleting : List Act := Sample.alone 0 deletion [Sample.choice 0 1 ""]

def afterwards (call : Call) (second : Int) (n : Nat) : List Act :=
  Sample.alone 1 call (List.replicate n (Sample.choice (seconds second) 0 "r2"))

theorem afterDeletion_afterwards {st : State} (call : Call) (second : Int) (n : Nat)
    (hissuing : call.issues = true)
    (hdeleted : Deleted 10 (runFrom Sample.crates .superuser st deleting).state.db)
    (hlater : (runFrom Sample.crates .superuser st deleting).threads.length ≤ 1)
    (hlive : ∀ x ∈ (runFrom Sample.crates .superuser st
      (deleting ++ afterwards call second n)).log.drop
        (runFrom Sample.crates .superuser st deleting).log.length,
      revives 10 x.2 = false)
    (hcall : (runFrom Sample.crates .superuser st
      (deleting ++ afterwards call second n)).callOf 1 = some call) :
    AfterDeletion Sample.crates .superuser st deleting (afterwards call second n) 10 1 call where
  deleted := hdeleted
  notRevived := hlive
  later := hlater
  called := hcall
  issuing := hissuing

/-- The code still buys tokens. -/
theorem exchanging_issues :
    ¬∀ (st : State) (ls₁ ls₂ : List Act) (u : Uuid) (k : Nat) (call : Call),
      AfterDeletion Sample.crates .superuser st ls₁ ls₂ u k call →
      ∀ e ∈ (runFrom Sample.crates .superuser st (ls₁ ++ ls₂)).hist k,
        issuesFor Sample.crates u e = false := by
  intro hclaim
  have hnone := hclaim withCode _ _ _ _ _
    (afterDeletion_afterwards exchanging 0 11 rfl (by decide) (by decide) (by decide) (by decide))
  have hsome : ((runFrom Sample.crates .superuser withCode
      (deleting ++ afterwards exchanging 0 11)).hist 1).any (issuesFor Sample.crates 10) = true := by
    decide
  obtain ⟨e, he, hissues⟩ := List.any_eq_true.mp hsome
  rw [hnone e he] at hissues
  cases hissues

/-- The next statement finds no membership of `u`, or a refresh row that no clock of the
steps `ls` makes usable. -/
def deniesEntry (u : Uuid) (ls : List Act) (db : Db) : Option Op → Bool
  | some (.sql (.isActiveMember v tenant)) => !(v == u && Repo.isActiveMember v tenant db)
  | some (.sql (.getRefreshToken hash)) => (Repo.getRefreshToken hash db).all fun row =>
      ls.all fun l => match l with
        | .step _ c => !usableAt row c.now
        | _ => true
  | _ => true

theorem shutOut_of_denies {cr : Crates} {conn : DbRole} {w : World} {ls : List Act} {k : Nat}
    {u : Uuid} (h : ∀ n < ls.length,
      deniesEntry u ls (Pool.run (machine cr conn) (Call.body cr) w (ls.take n)).state.db
        ((Pool.run (machine cr conn) (Call.body cr) w (ls.take n)).pending k) = true) :
    shutOut cr conn w ls k u := by
  intro pre c post hls
  have hpre := h pre.length (by rw [hls]; simp)
  rw [show ls.take pre.length = pre by rw [hls, List.take_left]] at hpre
  refine ⟨fun tenant hp _ => ?_, fun hash row hp hrow _ pre' c' post' hls' _ => ?_⟩
  · rw [hp] at hpre
    simpa [deniesEntry] using hpre
  · have hstep : (.step k c' : Act) ∈ ls := by
      rw [hls']
      exact List.mem_append_right _ List.mem_cons_self
    rw [hp] at hpre
    simp only [deniesEntry, hrow, Option.all_some, List.all_eq_true] at hpre
    simpa using hpre _ hstep

def issuesAfterDeletion (call : Call) : Bool :=
  ((runFrom Sample.crates .superuser withRotated (deleting ++ afterwards call 100 6)).hist 1).any
    (issuesFor Sample.crates 10)

/-- The login ends at the password check, the refresh at the grace window, and the exchange at
the membership that is gone. -/
theorem deleted_noTokens_sample : issuesAfterDeletion signingIn = false ∧
    issuesAfterDeletion refreshingLate = false ∧ issuesAfterDeletion exchanging = false := by
  have hdeleted : Deleted 10 (runFrom Sample.crates .superuser withRotated deleting).state.db := by
    decide
  have hlater : (runFrom Sample.crates .superuser withRotated deleting).threads.length ≤ 1 := by
    decide
  refine ⟨List.any_eq_false.mpr fun e he => ?_, List.any_eq_false.mpr fun e he => ?_,
    List.any_eq_false.mpr fun e he => ?_⟩
  · exact Bool.eq_false_iff.mp (deleted_noTokens Sample.formatUuid_injective
      (afterDeletion_afterwards signingIn 100 6 rfl hdeleted hlater (by decide) (by decide))
      (shutOut_of_denies (by decide)) e he)
  · exact Bool.eq_false_iff.mp (deleted_noTokens Sample.formatUuid_injective
      (afterDeletion_afterwards refreshingLate 100 6 rfl hdeleted hlater (by decide) (by decide))
      (shutOut_of_denies (by decide)) e he)
  · exact Bool.eq_false_iff.mp (deleted_noTokens Sample.formatUuid_injective
      (afterDeletion_afterwards exchanging 100 6 rfl hdeleted hlater (by decide) (by decide))
      (shutOut_of_denies (by decide)) e he)

end IamAuth
