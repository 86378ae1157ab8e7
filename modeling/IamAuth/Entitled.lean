import IamAuth.Along
import IamAuth.Frame

/-!
# What a call has read when it issues tokens

Five RPCs issue tokens. `Entitled` says, for each of them, what its history holds
about the user it issues tokens for; a monitor asks it of every issuing statement.
-/

set_option autoImplicit false

namespace IamAuth

open Interleave

/-! ## What makes refresh issue tokens -/

/-- A live row that has not expired, or a rotated one within its grace window. -/
def usableAt (row : RefreshTokenRow) (now : DateTime) : Bool :=
  match row.revokedAt with
  | none => !decide (row.expiresAt < now)
  | some revokedAt => rotated row && inGrace revokedAt now

/-- What the history of a call says about the user it issues tokens for. -/
def Entitled (cr : Crates) : Call → List (Event Resp) → Uuid → Prop
  | .rpc _ _ (.login req), h, v => ∃ user,
      ⟨.sql (.getUserByEmail req.email), .ok (some user)⟩ ∈ h ∧ user.id = v ∧
      user.deletedAt = none
  | .rpc _ _ (.loginTotp _), h, v => ∃ user,
      ⟨.sql (.getUserById v), .ok (some user)⟩ ∈ h ∧ user.deletedAt = none
  | .rpc _ _ (.refresh req), h, v => ∃ row now user,
      ⟨.sql (.getRefreshToken (hashToken cr req.refreshToken)), .ok (some row)⟩ ∈ h ∧
      ⟨.sys .utcNow, now⟩ ∈ h ∧ usableAt row now = true ∧
      ⟨.sql (.getUserById row.userId), .ok (some user)⟩ ∈ h ∧ user.id = v
  | .rpc _ _ (.switchTenant _), h, v => ∃ tenant,
      ⟨.sql (.isActiveMember v tenant), .ok true⟩ ∈ h
  | .rpc _ _ (.exchangeAuthorizationCode _), h, v => ∃ tenant,
      ⟨.sql (.isActiveMember v tenant), .ok true⟩ ∈ h
  | _, _, _ => True

/-- The user an event issues a token or part of a token for: the subject of an
access or ID token, the owner of a refresh token. -/
def issuesFor (cr : Crates) (v : Uuid) : Event Resp → Bool
  | ⟨.sys (.jwtIssue sub _ _ _), _⟩ => sub == cr.formatUuid v
  | ⟨.sys (.jwtIssueIdToken sub _ _ _ _), _⟩ => sub == cr.formatUuid v
  | ⟨.sql (.createRefreshToken userId _ _ _ _), _⟩ => userId == v
  | _ => false

/-- The event issues an access or ID token, or creates a refresh token. -/
def issues : Event Resp → Bool
  | ⟨.sys (.jwtIssue ..), _⟩ => true
  | ⟨.sys (.jwtIssueIdToken ..), _⟩ => true
  | ⟨.sql (.createRefreshToken ..), _⟩ => true
  | _ => false

/-- An event that issues something issues it for a user the call may sign in. -/
def issueRule (cr : Crates) (k : Call) (h : List (Event Resp)) : Event Resp → Prop
  | ⟨.sys (.jwtIssue sub _ _ _), _⟩ => ∃ v, sub = cr.formatUuid v ∧ Entitled cr k h v
  | ⟨.sys (.jwtIssueIdToken sub _ _ _ _), _⟩ => ∃ v, sub = cr.formatUuid v ∧ Entitled cr k h v
  | ⟨.sql (.createRefreshToken userId _ _ _ _), _⟩ => Entitled cr k h userId
  | _ => True

theorem entitled_of_issues {cr : Crates} {k : Call} {h : List (Event Resp)} {e : Event Resp}
    (hrule : issueRule cr k h e) (he : issues e = true) : ∃ v, Entitled cr k h v := by
  obtain ⟨o, r⟩ := e
  cases o with
  | redis c => cases he
  | sys s =>
    cases s <;> try exact (Bool.false_ne_true he).elim
    all_goals
      obtain ⟨v, -, hv⟩ := hrule
      exact ⟨v, hv⟩
  | sql s =>
    cases s <;> try exact (Bool.false_ne_true he).elim
    exact ⟨_, hrule⟩

theorem entitled_of_issuesFor {cr : Crates} (hcr : Function.Injective cr.formatUuid) {k : Call}
    {h : List (Event Resp)} {e : Event Resp} {v : Uuid} (hrule : issueRule cr k h e)
    (he : issuesFor cr v e = true) : Entitled cr k h v := by
  obtain ⟨o, r⟩ := e
  cases o with
  | redis c => cases he
  | sys s =>
    cases s <;> try exact (Bool.false_ne_true he).elim
    all_goals
      obtain ⟨v', hsub, hv⟩ := hrule
      rwa [hcr (hsub.symm.trans (by simpa [issuesFor] using he))] at hv
  | sql s =>
    cases s <;> try exact (Bool.false_ne_true he).elim
    case createRefreshToken userId tokenHash expiresAt tenantId projectId =>
      obtain rfl : userId = v := by simpa [issuesFor] using he
      exact hrule

/-- A refresh that succeeds was entitled to. -/
def issuePost (cr : Crates) : Call → List (Event Resp) → Except Failure Response → Prop
  | .rpc svc md (.refresh req), h, .ok _ => ∃ v, Entitled cr (.rpc svc md (.refresh req)) h v
  | _, _, _ => True

def issueMonitor (cr : Crates) (k : Call) : Monitor Resp (List (Event Resp)) :=
  .history (issueRule cr k)

theorem Entitled.append {cr : Crates} {k : Call} {h : List (Event Resp)} {v : Uuid}
    (hv : Entitled cr k h v) (h' : List (Event Resp)) : Entitled cr k (h ++ h') v := by
  have hsub : ∀ {e : Event Resp}, e ∈ h → e ∈ h ++ h' := fun he => List.mem_append_left _ he
  cases k with
  | rpc svc md r =>
    cases r <;> try trivial
    case login req =>
      obtain ⟨user, hread, huser⟩ := hv
      exact ⟨user, hsub hread, huser⟩
    case loginTotp req =>
      obtain ⟨user, hread, huser⟩ := hv
      exact ⟨user, hsub hread, huser⟩
    case refresh req =>
      obtain ⟨row, now, user, hread, hclock, husable, hfound, huser⟩ := hv
      exact ⟨row, now, user, hsub hread, hsub hclock, husable, hsub hfound, huser⟩
    case switchTenant req =>
      obtain ⟨tenant, hmember⟩ := hv
      exact ⟨tenant, hsub hmember⟩
    case exchangeAuthorizationCode req =>
      obtain ⟨tenant, hmember⟩ := hv
      exact ⟨tenant, hsub hmember⟩
  | start env => trivial
  | profileCreationFailed userId reason => trivial

/-! ## The handlers -/

section Handlers

variable (cr : Crates) (svc : AuthSvc) (md : MetadataMap)

section Pieces

variable {cr} {k : Call} {α : Type} {p : Handler α}

@[simp] theorem issueMonitor_upd (h : List (Event Resp)) (e : Event Resp) :
    (issueMonitor cr k).upd h e = h ++ [e] := rfl

@[simp] theorem issueMonitor_ok (h : List (Event Resp)) (e : Event Resp) :
    (issueMonitor cr k).ok h e = issueRule cr k h e := rfl

/-- Statements that issue nothing. -/
def NoIssue : Op → Prop
  | .sys (.jwtIssue ..) => False
  | .sys (.jwtIssueIdToken ..) => False
  | .sql (.createRefreshToken ..) => False
  | _ => True

theorem NoIssue.rule {o : Op} (ho : NoIssue o) (h : List (Event Resp)) (r : Resp o) :
    issueRule cr k h ⟨o, r⟩ := by
  cases o with
  | sql s => cases s <;> first | exact ho.elim | trivial
  | redis c => trivial
  | sys s => cases s <;> first | exact ho.elim | trivial

theorem Check.noIssue (o : Op) (h : Check o) : NoIssue o := by
  cases o with
  | sql s => cases s <;> first | exact h.elim | trivial
  | redis c => trivial
  | sys s => cases s <;> first | exact h.elim | trivial

/-- A stretch without issuing statements. -/
theorem along_noIssue (hp : p.Emits NoIssue) {post : List (Event Resp) → Except Failure α → Prop}
    {h : List (Event Resp)} (hpost : ∀ h' r, post (h ++ h') r) :
    p.Along (issueMonitor cr k) post h :=
  Prog.Emits.along_stretch (fun h e ho => ho.rule h e.2) hp hpost

theorem along_noIssue_then {β : Type} (hp : p.Emits NoIssue) {f : α → Handler β}
    {post : List (Event Resp) → Except Failure β → Prop} {h : List (Event Resp)}
    (herr : ∀ h' e, post (h ++ h') (.error e))
    (hf : ∀ a h', (f a).Along (issueMonitor cr k) post (h ++ h')) :
    p.Along (issueMonitor cr k) (Prog.Then (issueMonitor cr k) post f) h :=
  Prog.Emits.then_stretch (fun h e ho => ho.rule h e.2) hp herr hf

theorem along_noIssue_bind {β : Type} (hp : p.Emits NoIssue) {f : α → Handler β}
    {post : List (Event Resp) → Except Failure β → Prop} {h : List (Event Resp)}
    (herr : ∀ h' e, post (h ++ h') (.error e))
    (hf : ∀ a h', (f a).Along (issueMonitor cr k) post (h ++ h')) :
    (p >>= f).Along (issueMonitor cr k) post h :=
  Prog.Emits.bind_stretch (fun h e ho => ho.rule h e.2) hp herr hf

/-- The tokens of a user the call may sign in. -/
theorem along_issueTokens {h : List (Event Resp)} {v : Uuid} (hv : Entitled cr k h v)
    (email : String) (tenant : Uuid) (project : Option Uuid)
    {post : List (Event Resp) → Except Failure TokenPair → Prop}
    (hpost : ∀ h' r, post (h ++ h') r) :
    (issueTokens cr svc v email tenant project).Along (issueMonitor cr k) post h := by
  simp only [issueTokens, Prog.along_bind, along_sys, issueMonitor_ok, issueMonitor_upd,
    along_addSeconds, Prog.then_ok, Prog.along_okOr, Prog.then_error, along_query, Prog.along_pure,
    List.append_assoc]
  refine fun r => ⟨⟨v, rfl, hv⟩, fun _ => hpost _ _, fun access _ refresh => ⟨trivial, fun now => ?_⟩⟩
  refine ⟨trivial, fun _ => ⟨?_, ?_⟩, fun _ => hpost _ _⟩
  · exact fun _ => ⟨hv.append _, hpost _ _⟩
  · exact fun _ => ⟨hv.append _, hpost _ _⟩

theorem along_issueForActiveTenant {h : List (Event Resp)} {v : Uuid} (hv : Entitled cr k h v)
    (email : String) {post : List (Event Resp) → Except Failure TokenPair → Prop}
    (hpost : ∀ h' r, post (h ++ h') r) :
    (issueForActiveTenant cr svc v email).Along (issueMonitor cr k) post h := by
  simp only [issueForActiveTenant, Prog.along_bind, along_query, issueMonitor_ok,
    issueMonitor_upd, Prog.then_ok, Prog.then_error]
  refine ⟨fun members => ⟨trivial, ?_⟩, fun d => ⟨trivial, hpost _ _⟩⟩
  refine along_issueTokens svc (hv.append _) email _ none fun h' r => ?_
  rw [List.append_assoc]
  exact hpost _ r

end Pieces

/-! ## The five RPCs -/

theorem along_login_issue (req : LoginRequest) :
    (login cr svc req).Along (issueMonitor cr (.rpc svc md (.login req))) (fun _ _ => True) [] := by
  simp only [login, Prog.along_bind, along_query, issueMonitor_ok, issueMonitor_upd, Prog.then_ok,
    Prog.then_error, List.nil_append]
  refine ⟨fun found => ⟨trivial, ?_⟩, fun d => ⟨trivial, trivial⟩⟩
  cases found with
  | none => simp [issueRule]
  | some user =>
    refine along_noIssue_bind ((check_refuseIfLocked user).imp Check.noIssue) (fun _ _ => trivial)
      fun _ h₁ => ?_
    simp only [Prog.along_bind, along_sys, issueMonitor_ok, issueMonitor_upd, Prog.then_ok]
    refine fun ok => ⟨trivial, ?_⟩
    cases ok with
    | false =>
      refine along_noIssue_bind ((check_countFailure cr svc _ _ _).imp Check.noIssue)
        (fun _ _ => trivial) fun _ h₂ => ?_
      simp [issueRule]
    | true =>
      simp only [Bool.not_true, Bool.false_eq_true, ↓reduceIte]
      refine along_noIssue_bind (by simp [Prog.Emits]) (fun _ _ => trivial) fun _ h₂ => ?_
      refine (Prog.along_bind _ _ _ _ _).mpr ((Prog.along_failIf _ _ _ _ _).mpr
        ⟨fun _ => trivial, fun hdeleted => ?_⟩)
      rw [Prog.then_ok]
      refine along_noIssue_bind (by simp [Prog.Emits, NoIssue]) (fun _ _ => trivial) fun _ h₃ => ?_
      split
      · exact along_noIssue (by simp [Prog.Emits, NoIssue]) fun _ _ => trivial
      · refine along_noIssue_bind (by simp [Prog.Emits, NoIssue]) (fun _ _ => trivial) fun _ h₄ => ?_
        refine along_issueForActiveTenant svc ?_ _ fun _ _ => trivial
        exact ⟨user, by simp, rfl, by simpa using hdeleted⟩

theorem along_loginTotp_issue (req : LoginTotpRequest) :
    (loginTotp cr svc req).Along (issueMonitor cr (.rpc svc md (.loginTotp req)))
      (fun _ _ => True) [] := by
  refine along_noIssue_bind (by simp [Prog.Emits, NoIssue]) (fun _ _ => trivial) fun parsed h₁ => ?_
  refine along_noIssue_bind (by simp [Prog.Emits]) (fun _ _ => trivial) fun claims h₂ => ?_
  refine along_noIssue_bind (by simp [Prog.Emits]) (fun _ _ => trivial) fun _ h₃ => ?_
  refine along_noIssue_bind (by simp [Prog.Emits]) (fun _ _ => trivial) fun uid h₄ => ?_
  simp only [Prog.along_bind, along_query, issueMonitor_ok, issueMonitor_upd, Prog.then_ok,
    Prog.then_error, Prog.along_okOr]
  refine ⟨fun found => ⟨trivial, fun _ => trivial, fun user hfound => ?_⟩, fun d => ⟨trivial, trivial⟩⟩
  obtain ⟨rfl, hpending⟩ := Option.filter_eq_some_iff.mp hfound
  refine along_noIssue_then ((check_refuseIfLocked user).imp Check.noIssue) (fun _ _ => trivial)
    fun _ h₅ => ?_
  refine along_noIssue_bind ((check_checkCode cr _ _ _).imp Check.noIssue) (fun _ _ => trivial)
    fun ok h₆ => ?_
  cases ok with
  | false =>
    refine along_noIssue_bind ((check_countFailure cr svc _ _ _).imp Check.noIssue)
      (fun _ _ => trivial) fun _ _ => ?_
    exact along_noIssue (by simp [Prog.Emits, NoIssue]) fun _ _ => trivial
  | true =>
    refine along_noIssue_bind (by simp [Prog.Emits, NoIssue]) (fun _ _ => trivial) fun _ h₇ => ?_
    refine along_noIssue_bind (by simp [Prog.Emits, NoIssue]) (fun _ _ => trivial) fun _ h₈ => ?_
    refine along_issueForActiveTenant svc ?_ _ fun _ _ => trivial
    simp only [mfaPending, Bool.and_eq_true, Option.isNone_iff_eq_none] at hpending
    exact ⟨user, by simp, hpending.1.1⟩

/-- Both paths of refresh that reissue have checked the row against the clock. -/
theorem along_reissue {req : RefreshRequest} {h : List (Event Resp)} {row : RefreshTokenRow}
    {now : DateTime}
    (hread : ⟨.sql (.getRefreshToken (hashToken cr req.refreshToken)), .ok (some row)⟩ ∈ h)
    (hclock : ⟨.sys .utcNow, now⟩ ∈ h) (husable : usableAt row now = true)
    {post : List (Event Resp) → Except Failure TokenPair → Prop}
    (herr : ∀ h' e, post (h ++ h') (.error e))
    (hok : ∀ h' pair, (∃ v, Entitled cr (.rpc svc md (.refresh req)) (h ++ h') v) →
      post (h ++ h') (.ok pair)) :
    (reissue cr svc row).Along (issueMonitor cr (.rpc svc md (.refresh req))) post h := by
  simp only [reissue, Prog.along_bind, along_query, issueMonitor_ok, issueMonitor_upd, Prog.then_ok,
    Prog.then_error, Prog.along_okOr]
  refine ⟨fun found => ⟨trivial, fun _ => herr _ _, ?_⟩, fun d => ⟨trivial, herr _ _⟩⟩
  rintro user rfl
  have hv : Entitled cr (.rpc svc md (.refresh req))
      (h ++ [⟨.sql (.getUserById row.userId), .ok (some user)⟩]) user.id :=
    ⟨row, now, user, by simp [hread], by simp [hclock], husable, by simp, rfl⟩
  refine along_issueTokens svc hv _ _ _ ?_
  rintro h' (e | pair) <;> rw [List.append_assoc]
  · exact herr _ e
  · exact hok _ pair ⟨user.id, by rw [← List.append_assoc]; exact hv.append h'⟩

theorem along_refresh_issue (req : RefreshRequest) :
    (refresh cr svc req).Along (issueMonitor cr (.rpc svc md (.refresh req)))
      (fun h r => ∀ pair, r = .ok pair → ∃ v, Entitled cr (.rpc svc md (.refresh req)) h v) [] := by
  simp only [refresh, Prog.along_bind, along_query, issueMonitor_ok, issueMonitor_upd, Prog.then_ok,
    Prog.then_error, Prog.along_okOr]
  refine ⟨fun found => ⟨trivial, by simp, ?_⟩, fun d => ⟨trivial, by simp⟩⟩
  rintro row rfl
  have hread : ⟨.sql (.getRefreshToken (hashToken cr req.refreshToken)), .ok (some row)⟩ ∈
      ([] ++ [⟨.sql (.getRefreshToken (hashToken cr req.refreshToken)), .ok (some row)⟩] :
        List (Event Resp)) := by simp
  cases hrevoked : row.revokedAt with
  | none =>
    simp only [Prog.along_bind, along_sys, issueMonitor_ok, issueMonitor_upd, Prog.then_ok,
      Prog.along_failIf]
    refine fun now => ⟨trivial, fun _ => by simp, fun hlive => ?_⟩
    refine along_reissue cr svc md (List.mem_append_left _ hread) (List.mem_append_right _ (List.mem_singleton_self _))
      (by simpa [usableAt, hrevoked] using hlive) (fun _ _ => by simp) fun h' pair hv => ?_
    refine along_noIssue_bind (by simp [Prog.Emits, NoIssue]) (by simp) fun _ h'' _ _ => ?_
    obtain ⟨v, hv⟩ := hv
    exact ⟨v, hv.append h''⟩
  | some revokedAt =>
    dsimp only
    split
    · next hrotated =>
      simp only [Prog.along_bind, along_sys, issueMonitor_ok, issueMonitor_upd, Prog.then_ok]
      refine fun now => ⟨trivial, ?_⟩
      split
      · next hgrace =>
        refine along_reissue cr svc md (List.mem_append_left _ hread)
          (List.mem_append_right _ (List.mem_singleton_self _)) (by simp [usableAt, hrevoked, hrotated, hgrace])
          (fun _ _ => by simp) fun h' pair hv _ _ => hv
      · simp [wipeFamily, issueRule]
    · simp [wipeFamily, issueRule]

theorem along_switchTenant_issue (req : SwitchTenantRequest) :
    (switchTenant cr svc md req).Along (issueMonitor cr (.rpc svc md (.switchTenant req)))
      (fun _ _ => True) [] := by
  refine along_noIssue_bind (by simp [Prog.Emits]) (fun _ _ => trivial) fun caller h₁ => ?_
  refine along_noIssue_bind (by simp [Prog.Emits]) (fun _ _ => trivial) fun tenant h₂ => ?_
  simp only [Prog.along_bind, along_query, issueMonitor_ok, issueMonitor_upd, Prog.then_ok,
    Prog.then_error, Prog.along_failIf]
  refine ⟨fun member => ⟨trivial, fun _ => trivial, fun hmember => ?_⟩, fun d => ⟨trivial, trivial⟩⟩
  obtain rfl : member = true := by simpa using hmember
  have hv : ∀ h', Entitled cr (.rpc svc md (.switchTenant req))
      ([] ++ h₁ ++ h₂ ++ [⟨.sql (.isActiveMember caller tenant), .ok true⟩] ++ h') caller :=
    fun h' => ⟨tenant, by simp⟩
  refine along_noIssue_then (.bind (by simp [Prog.Emits]) ?_) (fun _ _ => trivial) fun project h₃ => ?_
  · rintro (_ | pid)
    · trivial
    · simp [Prog.Emits, NoIssue]
  refine along_noIssue_bind (by simp [Prog.Emits, NoIssue]) (fun _ _ => trivial) fun found h₄ => ?_
  refine along_noIssue_bind (by simp [Prog.Emits]) (fun _ _ => trivial) fun user h₅ => ?_
  refine along_issueTokens svc ?_ _ _ _ fun _ _ => trivial
  simpa using hv (h₃ ++ h₄ ++ h₅)

theorem along_exchange_issue (req : ExchangeRequest) :
    (exchangeAuthorizationCode cr svc req).Along
      (issueMonitor cr (.rpc svc md (.exchangeAuthorizationCode req))) (fun _ _ => True) [] := by
  refine along_noIssue_bind (by simp [Prog.Emits, NoIssue]) (fun _ _ => trivial) fun found h₁ => ?_
  refine along_noIssue_bind (by simp [Prog.Emits]) (fun _ _ => trivial) fun claim h₂ => ?_
  obtain ⟨code, expired⟩ := claim
  refine along_noIssue_bind (by simp [Prog.Emits]) (fun _ _ => trivial) fun _ h₃ => ?_
  refine along_noIssue_bind (.bind (by simp [Prog.Emits, NoIssue]) ?_) (fun _ _ => trivial)
    fun claimed h₄ => ?_
  · rintro (_ | n) <;> trivial
  refine along_noIssue_bind (by simp [Prog.Emits]) (fun _ _ => trivial) fun _ h₅ => ?_
  refine along_noIssue_bind (by simp [Prog.Emits]) (fun _ _ => trivial) fun _ h₆ => ?_
  refine along_noIssue_bind (by simp [authenticateClient, Prog.Emits, NoIssue])
    (fun _ _ => trivial) fun _ h₇ => ?_
  refine along_noIssue_bind (by simp [Prog.Emits, NoIssue]) (fun _ _ => trivial) fun email h₈ => ?_
  refine along_noIssue_bind (by simp [Prog.Emits, NoIssue]) (fun _ _ => trivial) fun tenant h₉ => ?_
  simp only [Prog.along_bind, along_query, issueMonitor_ok, issueMonitor_upd, Prog.then_ok,
    Prog.then_error, Prog.along_failIf]
  refine ⟨fun member => ⟨trivial, fun _ => trivial, fun hmember => ?_⟩, fun d => ⟨trivial, trivial⟩⟩
  obtain rfl : member = true := by simpa using hmember
  have hv : ∀ h', Entitled cr (.rpc svc md (.exchangeAuthorizationCode req))
      ([] ++ h₁ ++ h₂ ++ h₃ ++ h₄ ++ h₅ ++ h₆ ++ h₇ ++ h₈ ++ h₉ ++
        [⟨.sql (.isActiveMember code.userId tenant), .ok true⟩] ++ h') code.userId :=
    fun h' => ⟨tenant, by simp⟩
  have hv₀ := hv []
  rw [List.append_nil] at hv₀
  refine along_issueTokens svc hv₀ _ _ _ ?_
  rintro h₁₀ (e | pair)
  · trivial
  · simp only [Prog.then_ok, Prog.along_bind, along_sys, issueMonitor_ok, issueMonitor_upd,
      Prog.along_okOr, Prog.then_error, Prog.along_pure]
    exact fun r => ⟨⟨code.userId, rfl, hv h₁₀⟩, fun _ => trivial, fun _ _ => trivial⟩

end Handlers

/-- Calls that issue tokens. -/
def Call.issues : Call → Bool
  | .rpc _ _ (.login _) => true
  | .rpc _ _ (.loginTotp _) => true
  | .rpc _ _ (.refresh _) => true
  | .rpc _ _ (.switchTenant _) => true
  | .rpc _ _ (.exchangeAuthorizationCode _) => true
  | _ => false

/-- The rule, for the calls it is about. -/
def callMonitor (cr : Crates) (k : Call) : Monitor Resp (List (Event Resp)) :=
  .history fun h e => k.issues = true → issueRule cr k h e

theorem along_issueBody (cr : Crates) (k : Call) :
    (k.body cr).Along (callMonitor cr k) (issuePost cr k) [] := by
  have hissuing : (k.body cr).Along (issueMonitor cr k) (issuePost cr k) [] →
      (k.body cr).Along (callMonitor cr k) (issuePost cr k) [] :=
    Prog.Along.history_imp fun _ _ h _ => h
  have hother : k.issues = false → (∀ h r, issuePost cr k h r) →
      (k.body cr).Along (callMonitor cr k) (issuePost cr k) [] := fun hk hpost =>
    Prog.along_trivial (fun _ _ h => by rw [hk] at h; cases h) hpost _ _
  cases k with
  | rpc svc md r =>
    cases r
    case login req => exact hissuing (along_wrap _ (along_login_issue cr svc md req))
    case loginTotp req => exact hissuing (along_wrap _ (along_loginTotp_issue cr svc md req))
    case switchTenant req => exact hissuing (along_wrap _ (along_switchTenant_issue cr svc md req))
    case exchangeAuthorizationCode req =>
      exact hissuing (along_wrap _ (along_exchange_issue cr svc md req))
    case refresh req =>
      refine hissuing ((Prog.along_bind _ _ _ _ _).mpr ((along_refresh_issue cr svc md req).mono ?_))
      rintro h (e | pair) hv
      · trivial
      · exact hv pair rfl
    all_goals exact hother rfl fun _ _ => trivial
  | start env => exact hother rfl fun _ _ => trivial
  | profileCreationFailed userId reason => exact hother rfl fun _ _ => trivial

/-- Every call of a run is on a path its rule allows. -/
theorem tracks_issueBody (cr : Crates) (conn : DbRole) (st : State) (ls : List Act) :
    Pool.Tracks (callMonitor cr) (issuePost cr) (fun _ => []) (runFrom cr conn st ls) :=
  Pool.tracks_run (along_issueBody cr) st ls

/-- What a call has issued, its rule allowed. -/
theorem issueRule_of_mem {cr : Crates} {conn : DbRole} {st : State} {ls : List Act} {i : Nat}
    {k : Call} {e : Event Resp} (hk : (runFrom cr conn st ls).callOf i = some k)
    (hissues : k.issues = true) (he : e ∈ (runFrom cr conn st ls).hist i) :
    ∃ h h', (runFrom cr conn st ls).hist i = h ++ h' ∧ issueRule cr k h e := by
  obtain ⟨xs, ys, hlog⟩ := List.append_of_mem (Pool.mem_hist.1 he)
  obtain ⟨k', hk', hok⟩ := (tracks_issueBody cr conn st ls).past_history hlog
  cases hk.symm.trans hk'
  refine ⟨xs.filterMap (Pool.ownEvent i), ((i, e) :: ys).filterMap (Pool.ownEvent i), ?_,
    hok hissues⟩
  rw [Pool.hist, hlog, List.filterMap_append]

end IamAuth
