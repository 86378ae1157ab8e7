import IamAuth.RefreshTokens
import IamAuth.Sequential

/-!
# What refresh accepts

One rule, that a token is accepted until it expires, while it is not revoked or
within the grace window of its rotation, against the two paths of the handler.
The path of the grace window does not look at the expiry. A lifetime of the new
token that chrono cannot add to the clock ends the call in a panic.
-/

set_option autoImplicit false

namespace IamAuth

open Interleave Relational

/-! ## The rule -/

/-- Unrevoked, or rotated less than a grace window before `now`. -/
def Presentable (now : DateTime) (row : RefreshTokenRow) : Prop :=
  ∀ revokedAt, row.revokedAt = some revokedAt →
    (∃ next, row.replacedBy = some next ∧ next ≠ "") ∧
      now - revokedAt < seconds refreshRotationGraceSecs

/-- The pair is stored and signed for this user, tenant and project. -/
structure IssuedFor (cr : Crates) (userId tenantId : Uuid) (projectId : Option Uuid)
    (pair : TokenPair) (db : Db) (h : List (Event Resp)) : Prop where
  stored : ∃ t ∈ db.refreshTokens, t.key =
    ⟨hashToken cr pair.refreshToken, userId, tenantId, projectId⟩ ∧ t.revokedAt = none
  signed : ∃ email, ⟨.sys (.jwtIssue (cr.formatUuid userId) email (cr.formatUuid tenantId)
    ((projectId.map cr.formatUuid).getD "")), some pair.accessToken⟩ ∈ h

/-- The call answers, and it answers no. -/
def refusal {α : Type} (r : Except Failure α) : Prop := ∃ code m, r = .error (.status code m)

/-- The acceptance rule of refresh, and what it does besides: `found` is the row
of the token, and the call ends with `r` in `st'`. -/
structure RefreshRule (cr : Crates) (now : DateTime) (found : Option RefreshTokenRow)
    (st : State) (r : Except Failure TokenPair) (st' : State) (h : List (Event Resp)) : Prop where
  answers : (∃ pair, r = .ok pair) ∨ refusal r
  accepts : (∃ pair, r = .ok pair) ↔
    ∃ row, found = some row ∧ now ≤ row.expiresAt ∧ Presentable now row
  keeps : ∀ pair row, r = .ok pair → found = some row →
    IssuedFor cr row.userId row.tenantId row.projectId pair st'.db h
  wipes : ∀ row, refusal r → found = some row → row.revokedAt.isSome = true →
    ∀ t ∈ st'.db.refreshTokens, t.userId = row.userId → t.revokedAt.isSome = true
  spares : refusal r → (∀ row, found = some row → row.revokedAt = none) →
    st'.db.refreshTokens = st.db.refreshTokens

/-- The token was rotated within the grace window, and expired before `now`. -/
def expiredInGrace (now : DateTime) (found : Option RefreshTokenRow) : Prop :=
  ∃ row revokedAt, found = some row ∧ row.revokedAt = some revokedAt ∧ rotated row = true ∧
    inGrace revokedAt now = true ∧ row.expiresAt < now

/-- The rule accepts the token, and the new one would expire outside chrono's range. -/
def expiryOverflows (now : DateTime) (ttlSecs : Int) (found : Option RefreshTokenRow) : Prop :=
  (∃ row, found = some row ∧ now ≤ row.expiresAt ∧ Presentable now row) ∧ ¬FitsChrono now ttlSecs

/-- What the handler does, path by path. -/
inductive RefreshPath (cr : Crates) (now : DateTime) (ttlSecs : Int)
    (found : Option RefreshTokenRow) (st : State) (r : Except Failure TokenPair) (st' : State)
    (h : List (Event Resp)) : Prop where
  | unknown (hrow : found = none) (hr : refusal r) (hst : st'.db = st.db)
  | expired (row : RefreshTokenRow) (hrow : found = some row) (hlive : row.revokedAt = none)
    (hexpired : row.expiresAt < now) (hr : refusal r) (hst : st'.db = st.db)
  | reuse (row : RefreshTokenRow) (revokedAt : DateTime) (hrow : found = some row)
    (hrevoked : row.revokedAt = some revokedAt)
    (hlate : ¬(rotated row = true ∧ inGrace revokedAt now = true)) (hr : refusal r)
    (hwiped : ∀ t ∈ st'.db.refreshTokens, t.userId = row.userId → t.revokedAt.isSome = true)
  | rotation (row : RefreshTokenRow) (pair : TokenPair) (hrow : found = some row)
    (hlive : row.revokedAt = none) (hvalid : ¬row.expiresAt < now) (hr : r = .ok pair)
    (hfits : FitsChrono now ttlSecs)
    (hissued : IssuedFor cr row.userId row.tenantId row.projectId pair st'.db h)
  | grace (row : RefreshTokenRow) (revokedAt : DateTime) (pair : TokenPair)
    (hrow : found = some row) (hrevoked : row.revokedAt = some revokedAt)
    (hgrace : rotated row = true ∧ inGrace revokedAt now = true) (hr : r = .ok pair)
    (hfits : FitsChrono now ttlSecs)
    (hissued : IssuedFor cr row.userId row.tenantId row.projectId pair st'.db h)
  | overflow (row : RefreshTokenRow) (hrow : found = some row) (hserved : Presentable now row)
    (hvalid : row.revokedAt = none → ¬row.expiresAt < now) (hr : r = .error .panic)
    (hfits : ¬FitsChrono now ttlSecs)

theorem rotated_iff (row : RefreshTokenRow) :
    rotated row = true ↔ ∃ next, row.replacedBy = some next ∧ next ≠ "" := by
  unfold rotated
  cases row.replacedBy with
  | none => simp
  | some next => simp

theorem presentable_revoked {now revokedAt : DateTime} {row : RefreshTokenRow}
    (hrevoked : row.revokedAt = some revokedAt) :
    Presentable now row ↔ rotated row = true ∧ inGrace revokedAt now = true := by
  rw [rotated_iff, inGrace, decide_eq_true_iff]
  constructor
  · intro h
    exact h revokedAt hrevoked
  · intro h at' hat
    cases hrevoked.symm.trans hat
    exact h

theorem presentable_live {now : DateTime} {row : RefreshTokenRow} (hlive : row.revokedAt = none) :
    Presentable now row := by
  intro at' hat
  rw [hlive] at hat
  cases hat

theorem refusal_ne {α : Type} {r : Except Failure α} (hr : refusal r) (a : α) : r ≠ .ok a := by
  obtain ⟨code, m, rfl⟩ := hr
  intro h
  cases h

section Rule

variable {cr : Crates} {now : DateTime} {ttlSecs : Int} {found : Option RefreshTokenRow}
  {st st' : State} {r : Except Failure TokenPair} {h : List (Event Resp)} {row : RefreshTokenRow}

/-- A refusal follows the rule if the token is not one to accept. -/
theorem RefreshRule.refused (hr : refusal r)
    (hnot : ¬∃ row, found = some row ∧ now ≤ row.expiresAt ∧ Presentable now row)
    (hwipes : ∀ row, found = some row → row.revokedAt.isSome = true →
      ∀ t ∈ st'.db.refreshTokens, t.userId = row.userId → t.revokedAt.isSome = true)
    (hspares : (∀ row, found = some row → row.revokedAt = none) →
      st'.db.refreshTokens = st.db.refreshTokens) : RefreshRule cr now found st r st' h where
  answers := .inr hr
  accepts := by
    refine ⟨?_, fun hrow => absurd hrow hnot⟩
    rintro ⟨pair, hpair⟩
    exact absurd hpair (refusal_ne hr pair)
  keeps := by
    intro pair row hpair
    exact absurd hpair (refusal_ne hr pair)
  wipes := by
    intro row _
    exact hwipes row
  spares := by
    intro _
    exact hspares

/-- A pair follows the rule if the token is one to accept. -/
theorem RefreshRule.issued {pair : TokenPair} (hr : r = .ok pair) (hrow : found = some row)
    (hvalid : now ≤ row.expiresAt) (hserved : Presentable now row)
    (hissued : IssuedFor cr row.userId row.tenantId row.projectId pair st'.db h) :
    RefreshRule cr now found st r st' h where
  answers := .inl ⟨pair, hr⟩
  accepts := ⟨fun _ => ⟨row, hrow, hvalid, hserved⟩, fun _ => ⟨pair, hr⟩⟩
  keeps := by
    intro pair' row' hpair hrow'
    cases hr.symm.trans hpair
    cases hrow.symm.trans hrow'
    exact hissued
  wipes := by
    intro row' hrefused
    exact absurd hr (refusal_ne hrefused pair)
  spares := by
    intro hrefused
    exact absurd hr (refusal_ne hrefused pair)

theorem not_expiredInGrace (hrow : found = some row) (hlive : row.revokedAt = none) :
    ¬expiredInGrace now found := by
  rintro ⟨row', at', hrow', hat, -⟩
  cases hrow.symm.trans hrow'
  rw [hlive] at hat
  cases hat

/-- The paths follow the rule unless the grace path meets an expired token, or the
new token's expiry is out of range. -/
theorem RefreshPath.rule_iff (hpath : RefreshPath cr now ttlSecs found st r st' h) :
    RefreshRule cr now found st r st' h ↔
      ¬expiredInGrace now found ∧ ¬expiryOverflows now ttlSecs found := by
  cases hpath with
  | unknown hrow hr hst =>
    subst hrow
    constructor
    · intro _
      exact ⟨fun ⟨_, _, hrow, _⟩ => (by cases hrow), fun ⟨⟨_, hrow, _⟩, _⟩ => (by cases hrow)⟩
    · intro _
      refine .refused hr ?_ ?_ ?_
      · rintro ⟨row, hrow, -⟩
        cases hrow
      · intro row hrow
        cases hrow
      · intro _
        rw [hst]
  | expired row hrow hlive hexpired hr hst =>
    subst hrow
    have hnot : ¬∃ row', some row = some row' ∧ now ≤ row'.expiresAt ∧ Presentable now row' := by
      rintro ⟨row', hrow, hvalid, -⟩
      cases hrow
      exact absurd hexpired (not_lt.mpr hvalid)
    constructor
    · intro _
      exact ⟨not_expiredInGrace rfl hlive, fun hover => hnot hover.1⟩
    · intro _
      refine .refused hr hnot ?_ ?_
      · intro row' hrow hrevoked
        cases hrow
        rw [hlive] at hrevoked
        cases hrevoked
      · intro _
        rw [hst]
  | reuse row revokedAt hrow hrevoked hlate hr hwiped =>
    subst hrow
    have hnot : ¬∃ row', some row = some row' ∧ now ≤ row'.expiresAt ∧ Presentable now row' := by
      rintro ⟨row', hrow, -, hpresentable⟩
      cases hrow
      exact absurd ((presentable_revoked hrevoked).mp hpresentable) hlate
    constructor
    · intro _
      refine ⟨?_, fun hover => hnot hover.1⟩
      rintro ⟨row', at', hrow, hat, hrotated, hin, -⟩
      cases hrow
      cases hrevoked.symm.trans hat
      exact hlate ⟨hrotated, hin⟩
    · intro _
      refine .refused hr hnot ?_ ?_
      · intro row' hrow _
        cases hrow
        exact hwiped
      · intro hlive
        have hnone := hlive row rfl
        rw [hrevoked] at hnone
        cases hnone
  | rotation row pair hrow hlive hvalid hr hfits hissued =>
    constructor
    · intro _
      exact ⟨not_expiredInGrace hrow hlive, fun hover => hover.2 hfits⟩
    · intro _
      exact .issued hr hrow (not_lt.mp hvalid) (presentable_live hlive) hissued
  | grace row revokedAt pair hrow hrevoked hgrace hr hfits hissued =>
    constructor
    · -- An expired token is accepted here, which the rule refuses.
      intro hrule
      refine ⟨?_, fun hover => hover.2 hfits⟩
      rintro ⟨row', at', hrow', -, -, -, hexpired⟩
      obtain ⟨row'', hrow'', hvalid, -⟩ := hrule.accepts.mp ⟨pair, hr⟩
      cases hrow.symm.trans hrow'
      cases hrow.symm.trans hrow''
      exact absurd hexpired (not_lt.mpr hvalid)
    · intro hnot
      refine .issued hr hrow (not_lt.mp fun hexpired => hnot.1 ?_)
        ((presentable_revoked hrevoked).mpr hgrace) hissued
      exact ⟨row, revokedAt, hrow, hrevoked, hgrace.1, hgrace.2, hexpired⟩
  | overflow row hrow hserved hvalid hr hfits =>
    subst hr
    constructor
    · intro hrule
      rcases hrule.answers with ⟨pair, hpair⟩ | ⟨code, m, hstatus⟩
      · cases hpair
      · cases hstatus
    · rintro ⟨hgrace, hover⟩
      by_cases hexpired : row.expiresAt < now
      · cases hrevoked : row.revokedAt with
        | none => exact absurd hexpired (hvalid hrevoked)
        | some revokedAt =>
          obtain ⟨hrotated, hin⟩ := (presentable_revoked hrevoked).mp hserved
          exact absurd ⟨row, revokedAt, hrow, hrevoked, hrotated, hin, hexpired⟩ hgrace
      · exact absurd ⟨⟨row, hrow, not_lt.mp hexpired, hserved⟩, hfits⟩ hover

end Rule

/-! ## The handler -/

/-- Signing does not fail. -/
def Signs (cr : Crates) : Prop :=
  ∀ c sub email tenant project, (cr.jwtIssue c sub email tenant project).isSome = true

/-- The foreign key of `refresh_tokens` on `users`. -/
def TokenOwners (db : Db) : Prop :=
  ∀ t ∈ db.refreshTokens, db.users.any (fun u => u.id == t.userId) = true

section Handler

variable {cr : Crates} {conn : DbRole} {P : List (Event Resp) → Choice → Prop}
  {st : State} {h : List (Event Resp)}

theorem createRefreshToken_ok {userId tenantId : Uuid} {tokenHash : String}
    {expiresAt : DateTime} {projectId : Option Uuid} {db db' : Db} {u : Unit}
    (hx : Repo.createRefreshToken userId tokenHash expiresAt tenantId projectId db =
      .ok (u, db')) :
    (∀ t ∈ db.refreshTokens, t.tokenHash ≠ tokenHash) ∧ db' = { db with
      refreshTokens := db.refreshTokens ++
        [⟨⟨userId, expiresAt, none, none, tenantId, projectId⟩, tokenHash⟩] } := by
  unfold Repo.createRefreshToken at hx
  split at hx
  · cases hx
  · next hnew =>
    split at hx
    · cases hx
    · cases hx
      refine ⟨?_, rfl⟩
      intro t ht heq
      apply hnew
      exact List.any_eq_true.mpr ⟨t, ht, by simp [heq]⟩

/-- An issued pair is new to the table, and nothing is taken from it. -/
theorem ends_issueTokens {now : DateTime} (hsign : Signs cr) (svc : AuthSvc) (userId : Uuid)
    (email : String) (tenantId : Uuid) (projectId : Option Uuid)
    {Q : Except Failure TokenPair → State → List (Event Resp) → Prop}
    (hQ : ∀ pair db' h', FitsChrono now svc.refreshTtlSecs →
      IssuedFor cr userId tenantId projectId pair db' h' →
      (∀ t ∈ st.db.refreshTokens, t.tokenHash ≠ hashToken cr pair.refreshToken) →
      Q (.ok pair) { st with db := db' } h')
    (hpanic : ∀ h', ¬FitsChrono now svc.refreshTtlSecs → Q (.error .panic) st h') :
    (issueTokens cr svc userId email tenantId projectId).Ends (machine cr conn)
      (Steady fun _ c => c.now = now) Q st h := by
  refine .bind (ends_sys _ fun c _ => ?_)
  refine .bind (Prog.ends_of_okOr ?_ ?_)
  · intro hnone
    have hsome := hsign c (cr.formatUuid userId) email (cr.formatUuid tenantId)
      ((projectId.map cr.formatUuid).getD "")
    rw [show cr.jwtIssue c _ _ _ _ = none from hnone] at hsome
    cases hsome
  intro access haccess
  refine .bind (ends_sys _ fun c₁ _ => ?_)
  refine .bind (ends_sys _ fun c₂ hc₂ => ?_)
  have hnow : Sys.utcNow.exec cr c₂ = now := hc₂.1
  rw [hnow, Prog.endsThen_ok]
  refine .bind (ends_addSeconds now _ (fun hfits => ?_) fun hout => hpanic _ hout)
  refine .bind (steady_query _ _ fun c₃ r db' _ hx => ?_)
  obtain ⟨hnew, rfl⟩ := createRefreshToken_ok hx
  refine hQ ⟨access, c₁.text, svc.accessTtlSecs, "Bearer", false, ""⟩ _ _ hfits ⟨?_, ?_⟩ hnew
  · exact ⟨_, List.mem_append_right _ (List.mem_singleton_self _), rfl, rfl⟩
  · refine ⟨email, ?_⟩
    rw [haccess]
    simp

/-- The reissue of a row whose user exists. -/
theorem ends_reissue {now : DateTime} (hsign : Signs cr) (svc : AuthSvc) {row : RefreshTokenRow}
    (huser : st.db.users.any (fun u => u.id == row.userId) = true)
    {Q : Except Failure TokenPair → State → List (Event Resp) → Prop}
    (hQ : ∀ pair db' h', FitsChrono now svc.refreshTtlSecs →
      IssuedFor cr row.userId row.tenantId row.projectId pair db' h' →
      (∀ t ∈ st.db.refreshTokens, t.tokenHash ≠ hashToken cr pair.refreshToken) →
      Q (.ok pair) { st with db := db' } h')
    (hpanic : ∀ h', ¬FitsChrono now svc.refreshTtlSecs → Q (.error .panic) st h') :
    (reissue cr svc row).Ends (machine cr conn) (Steady fun _ c => c.now = now) Q st h := by
  refine .bind (steady_query _ _ fun c found db' _ hx => ?_)
  obtain ⟨rfl, rfl⟩ := Prod.mk.inj (Except.ok.inj hx)
  refine .bind (Prog.ends_of_okOr ?_ ?_)
  · intro hnone
    obtain ⟨u, hu, hid⟩ := List.any_eq_true.mp huser
    exact absurd hid (List.find?_eq_none.mp hnone u hu)
  · intro user hfound
    have hid : user.id = row.userId := getUserById_id hfound
    rw [Prog.endsThen_ok, hid]
    exact ends_issueTokens hsign svc _ _ _ _ hQ hpanic

/-- Reuse: every refresh token of the user ends up revoked. -/
theorem ends_wipeFamily (svc : AuthSvc) (row : RefreshTokenRow)
    {Q : Except Failure TokenPair → State → List (Event Resp) → Prop}
    (hQ : ∀ code m db' h', (∀ t ∈ db'.refreshTokens, t.userId = row.userId →
      t.revokedAt.isSome = true) → Q (.error (.status code m)) { st with db := db' } h') :
    (wipeFamily cr svc row).Ends (machine cr conn) (Steady P) Q st h := by
  refine .bind (steady_ignore _ fun c r db' _ hx => ?_)
  obtain ⟨-, rfl⟩ := Prod.mk.inj (Except.ok.inj hx)
  refine .bind (ends_auditAs svc fun db'' es hf _ => ?_)
  apply hQ
  intro t ht huser
  rw [hf.refreshTokens (by simp)] at ht
  obtain ⟨t', -, rfl⟩ := mem_updateWhere.1 ht
  split
  · rfl
  · next hnot =>
    rw [if_neg hnot] at huser
    have hid : (t'.userId == row.userId) = true := by simp [huser]
    cases hrevoked : t'.revokedAt with
    | some at' => rfl
    | none => exact absurd (by simp [hid, hrevoked]) hnot

/-- A rotation of another token leaves a new row as it is. -/
theorem IssuedFor.rotate {userId tenantId : Uuid} {projectId : Option Uuid} {pair : TokenPair}
    {db : Db} {h h' : List (Event Resp)} (hi : IssuedFor cr userId tenantId projectId pair db h)
    (c : Choice) {hash : String} (hne : hash ≠ hashToken cr pair.refreshToken) (next : String)
    (hsub : h ⊆ h') :
    IssuedFor cr userId tenantId projectId pair (Repo.rotateRefreshToken c hash next db) h' := by
  obtain ⟨⟨t, ht, hkey, hlive⟩, email, hsigned⟩ := hi
  refine ⟨⟨t, ?_, hkey, hlive⟩, email, hsub hsigned⟩
  have hhash : t.tokenHash = hashToken cr pair.refreshToken := congrArg TokenKey.tokenHash hkey
  refine mem_updateWhere.2 ⟨t, ht, if_neg ?_⟩
  intro hhit
  simp only [Bool.and_eq_true, beq_iff_eq] at hhit
  exact hne (hhit.1.symm.trans hhash)

theorem ends_refresh (hsign : Signs cr) (howner : TokenOwners st.db) (svc : AuthSvc)
    (req : RefreshRequest) (now : DateTime) :
    (refresh cr svc req).Ends (machine cr conn) (Steady fun _ c => c.now = now)
      (RefreshPath cr now svc.refreshTtlSecs
        (Repo.getRefreshToken (hashToken cr req.refreshToken) st.db) st) st [] := by
  refine .bind (steady_query _ _ fun c found db' _ hx => ?_)
  obtain ⟨rfl, rfl⟩ := Prod.mk.inj (Except.ok.inj hx)
  refine .bind (Prog.ends_of_okOr ?_ ?_)
  · intro hnone
    exact .unknown hnone ⟨_, _, rfl⟩ rfl
  intro row hrow
  obtain ⟨t, hfind, hrow'⟩ := Option.map_eq_some_iff.mp hrow
  have ht : t ∈ st.db.refreshTokens := List.mem_of_find?_eq_some hfind
  have hhash : t.tokenHash = hashToken cr req.refreshToken := by
    simpa using List.find?_some hfind
  have huser : st.db.users.any (fun u => u.id == row.userId) = true := by
    rw [← hrow']
    exact howner t ht
  cases hrevoked : row.revokedAt with
  | some revokedAt =>
    -- A revoked token: the grace window of its rotation, or reuse.
    have hwipe : ∀ {st' : State} {h : List (Event Resp)},
        ¬(rotated row = true ∧ inGrace revokedAt now = true) →
        (wipeFamily cr svc row).Ends (machine cr conn) (Steady fun _ c => c.now = now)
          (RefreshPath cr now svc.refreshTtlSecs
            (Repo.getRefreshToken (hashToken cr req.refreshToken) st.db) st) st' h := by
      intro st' h hlate
      exact ends_wipeFamily svc row fun code m db' h' hwiped =>
        .reuse row revokedAt hrow hrevoked hlate ⟨code, m, rfl⟩ hwiped
    rw [Prog.endsThen_ok]
    simp only [hrevoked]
    split
    · next hrotated =>
      refine .bind (ends_sys _ fun c hc => ?_)
      have hnow : Sys.utcNow.exec cr c = now := hc.1
      rw [hnow, Prog.endsThen_ok]
      split
      · next hgrace =>
        refine ends_reissue hsign svc huser ?_ ?_
        · intro pair db' h' hfits hissued _
          exact .grace row revokedAt pair hrow hrevoked ⟨hrotated, hgrace⟩ rfl hfits hissued
        · intro h' hout
          refine .overflow row hrow ((presentable_revoked hrevoked).mpr ⟨hrotated, hgrace⟩) ?_ rfl hout
          intro hlive
          rw [hrevoked] at hlive
          cases hlive
      · next hlate => exact hwipe fun hgrace => hlate hgrace.2
    · next hnot => exact hwipe fun hgrace => hnot hgrace.1
  | none =>
    rw [Prog.endsThen_ok]
    simp only [hrevoked]
    refine .bind (ends_sys _ fun c hc => ?_)
    have hnow : Sys.utcNow.exec cr c = now := hc.1
    rw [hnow, Prog.endsThen_ok]
    refine .bind (Prog.ends_of_failIf ?_ ?_)
    · intro hexpired
      exact .expired row hrow hrevoked (of_decide_eq_true hexpired) ⟨_, _, rfl⟩ rfl
    intro hvalid
    refine .bind (ends_reissue hsign svc huser ?_ ?_)
    · intro pair db' h' hfits hissued hnew
      refine .bind (steady_ignore _ fun c r db'' _ hx => ?_)
      obtain ⟨-, rfl⟩ := Prod.mk.inj (Except.ok.inj hx)
      refine .rotation row pair hrow hrevoked (of_decide_eq_false hvalid) rfl hfits
        (hissued.rotate c ?_ _ ?_)
      · rw [← hhash]
        exact hnew t ht
      · exact List.subset_append_left _ _
    · -- The panic comes before the rotation.
      intro h' hout
      exact .overflow row hrow (presentable_live hrevoked) (fun _ => of_decide_eq_false hvalid) rfl
        hout

end Handler

/-- A call of refresh that runs alone, at one time and with every statement
answered, follows the rule exactly when the token is not one that was rotated
within the grace window and has expired since, and the expiry of a token that the
rule has it issue is in range. -/
theorem refreshRule_iff (cr : Crates) (conn : DbRole) (svc : AuthSvc) (st : State)
    (req : RefreshRequest) (now : DateTime) (cs : Nat → Choice) (hsign : Signs cr)
    (howner : TokenOwners st.db) (htime : ∀ n, (cs n).now = now)
    (hdb : ∀ e ∈ ((refresh cr svc req).eval (machine cr conn) cs st).2.2, committed e = true) :
    RefreshRule cr now (Repo.getRefreshToken (hashToken cr req.refreshToken) st.db) st
      ((refresh cr svc req).eval (machine cr conn) cs st).1
      ((refresh cr svc req).eval (machine cr conn) cs st).2.1
      ((refresh cr svc req).eval (machine cr conn) cs st).2.2 ↔
    ¬expiredInGrace now (Repo.getRefreshToken (hashToken cr req.refreshToken) st.db) ∧
      ¬expiryOverflows now svc.refreshTtlSecs
        (Repo.getRefreshToken (hashToken cr req.refreshToken) st.db) := by
  have hends : (refresh cr svc req).Ends (machine cr conn) (Steady fun _ c => c.now = now)
      (RefreshPath cr now svc.refreshTtlSecs
        (Repo.getRefreshToken (hashToken cr req.refreshToken) st.db) st)
      st [] := ends_refresh hsign howner svc req now
  have hpath := hends.eval_meets
    (Prog.meets_of_events cs fun n e _ he => ⟨htime n, hdb e (List.mem_of_getElem? he)⟩)
  rw [List.nil_append] at hpath
  exact hpath.rule_iff

namespace Sample

/-- A user with one refresh token, rotated at time 0. -/
def rotatedState (expiresAt : DateTime) : State :=
  let st := stateOf (user 7 none false)
  { st with db := { st.db with
    refreshTokens := [⟨⟨7, expiresAt, some 0, some "r1", defaultTenantId, none⟩, "r0"⟩] } }

/-- The token is presented ten seconds after its rotation. -/
def presented (expiresAt : DateTime) :
    Except Failure TokenPair × State × List (Event Resp) :=
  (refresh crates svc ⟨"r0"⟩).eval (machine crates .superuser)
    (fun _ => choice (seconds 10) 0 "r2") (rotatedState expiresAt)

end Sample

theorem refreshRule_unexpired :
    RefreshRule Sample.crates (seconds 10)
      (Repo.getRefreshToken (hashToken Sample.crates "r0") (Sample.rotatedState (seconds 20)).db)
      (Sample.rotatedState (seconds 20)) (Sample.presented (seconds 20)).1
      (Sample.presented (seconds 20)).2.1 (Sample.presented (seconds 20)).2.2 := by
  refine (refreshRule_iff Sample.crates .superuser Sample.svc (Sample.rotatedState (seconds 20))
    ⟨"r0"⟩ (seconds 10) (fun _ => Sample.choice (seconds 10) 0 "r2") (fun _ _ _ _ _ => rfl)
    (by unfold TokenOwners; decide) (fun _ => rfl) (by decide)).mpr ⟨?_, ?_⟩
  · rintro ⟨row, revokedAt, hrow, -, -, -, hexpired⟩
    cases hrow
    exact absurd hexpired (by decide)
  · rintro ⟨-, hout⟩
    exact hout (by decide)

/-- A token that expired five seconds ago, ten seconds after its rotation. -/
theorem expiredInGrace_accepted :
    ¬RefreshRule Sample.crates (seconds 10)
      (Repo.getRefreshToken (hashToken Sample.crates "r0") (Sample.rotatedState (seconds 5)).db)
      (Sample.rotatedState (seconds 5)) (Sample.presented (seconds 5)).1
      (Sample.presented (seconds 5)).2.1 (Sample.presented (seconds 5)).2.2 := by
  intro hrule
  have hissued : (Sample.presented (seconds 5)).1.toOption.isSome = true := by decide
  cases hr : (Sample.presented (seconds 5)).1 with
  | error e =>
    rw [hr] at hissued
    cases hissued
  | ok pair =>
    obtain ⟨row, hrow, hvalid, -⟩ := hrule.accepts.mp ⟨pair, hr⟩
    cases hrow
    exact absurd hvalid (by decide)

end IamAuth
