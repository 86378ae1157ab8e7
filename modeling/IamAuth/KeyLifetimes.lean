import IamAuth.Sequential

/-!
# The lifetime of a new API key

create_api_key adds a lifetime chosen by the caller to the clock, without a check.
chrono panics when the duration or the sum leaves its range, and the call ends
with neither a response nor an error. Every other lifetime is stored as it was asked for.
-/

set_option autoImplicit false

namespace IamAuth

open Interleave

/-- chrono can represent the lifetime and the time at which it ends. -/
def LifetimeFits (now : DateTime) (ttlSeconds : Int) : Prop :=
  ttlSeconds ≤ 0 ∨ ttlSeconds ≤ 9223372036854775 ∧
    (fromTimestamp (timestamp (now + seconds ttlSeconds))).isSome

instance (now : DateTime) (ttlSeconds : Int) : Decidable (LifetimeFits now ttlSeconds) :=
  inferInstanceAs (Decidable (_ ∨ _))

/-- The end of the lifetime: none is asked for by zero or less. -/
def lifetimeEnd (now : DateTime) (ttlSeconds : Int) : Option DateTime :=
  if 0 < ttlSeconds then some (now + seconds ttlSeconds) else none

/-- A clean error and no key, or one key with the lifetime that was asked for. -/
def LifetimeKept (now : DateTime) (ttlSeconds : Int) (keys keys' : List ApiKeyRecord) :
    Except Failure CreateApiKeyResponse → Prop
  | .error .panic => False
  | .error (.status ..) => keys' = keys
  | .ok resp => ∃ row, keys' = keys ++ [row] ∧ row.id = resp.key.id ∧
      row.expiresAt = resp.key.expiresAt ∧ row.expiresAt = lifetimeEnd now ttlSeconds

/-- The checks of create_api_key before it reads the clock. -/
structure KeyChecks (cr : Crates) (md : MetadataMap) (req : CreateApiKeyRequest) : Prop where
  caller : (cr.parseUuid (metaOf md "x-user-id")).isSome
  named : req.name ≠ ""
  held : ∀ s ∈ req.scopes, s ∈ callerPerms md

instance (cr : Crates) (md : MetadataMap) (req : CreateApiKeyRequest) :
    Decidable (KeyChecks cr md req) :=
  decidable_of_iff ((cr.parseUuid (metaOf md "x-user-id")).isSome ∧ req.name ≠ "" ∧
    ∀ s ∈ req.scopes, s ∈ callerPerms md)
    ⟨fun h => ⟨h.1, h.2.1, h.2.2⟩, fun h => ⟨h.caller, h.named, h.held⟩⟩

section Create

variable {cr : Crates} {conn : DbRole} {st : State} {h : List (Event Resp)}
  {A : State → List (Event Resp) → Choice → Event Resp → Prop}

theorem requireScopes_held {perms scopes : List String} (hheld : ∀ s ∈ scopes, s ∈ perms) :
    requireScopes perms scopes = pure () := by
  induction scopes with
  | nil => rfl
  | cons s rest ih =>
    have hs : perms.contains s = true := List.contains_iff_mem.mpr (hheld s List.mem_cons_self)
    have hrest := ih fun s' hs' => hheld s' (List.mem_cons_of_mem s hs')
    rw [requireScopes, hs, hrest]
    rfl

theorem lifetimeFits_iff {now : DateTime} {ttlSeconds : Int} (hpos : 0 < ttlSeconds) :
    LifetimeFits now ttlSeconds ↔ FitsChrono now ttlSeconds := by
  constructor
  · rintro (hneg | hin)
    · omega
    · exact ⟨by omega, hin.1, hin.2⟩
  · intro hin
    exact .inr ⟨hin.2.1, hin.2.2⟩

/-- With a lifetime asked for, the clock is read once. -/
theorem ends_apiKeyExpiry (ttl : Int) {now : DateTime}
    (hnow : ∀ c e, A st h c e → c.now = now)
    {Q : Except Failure (Option DateTime) → State → List (Event Resp) → Prop}
    (hfits : ∀ h', LifetimeFits now ttl → Q (.ok (lifetimeEnd now ttl)) st h')
    (hpanic : ∀ h', ¬LifetimeFits now ttl → Q (.error .panic) st h') :
    (apiKeyExpiry ttl).Ends (machine cr conn) A Q st h := by
  unfold apiKeyExpiry
  split
  · next hpos =>
    refine .bind (ends_sys _ fun c hc => ?_)
    obtain rfl : c.now = now := hnow c _ hc
    refine .bind (ends_addSeconds c.now ttl (fun hfit => ?_) fun hout => ?_)
    · have hq := hfits (h ++ [⟨.sys .utcNow, c.now⟩]) ((lifetimeFits_iff hpos).2 hfit)
      rwa [lifetimeEnd, if_pos hpos] at hq
    · exact hpanic _ fun hfit => hout ((lifetimeFits_iff hpos).1 hfit)
  · next hneg =>
    have hq := hfits h (.inl (by omega))
    rwa [lifetimeEnd, if_neg hneg] at hq

/-- The checks after the expiry issue no statement and do not panic. -/
theorem activeTenant_done (cr : Crates) (md : MetadataMap) :
    (∃ tenant, activeTenant cr md = pure tenant) ∨
    ∃ code m, activeTenant cr md = Prog.fail (.status code m) := by
  simp only [activeTenant]
  cases (metaOf md "x-tenant-id").isEmpty with
  | true => exact .inr ⟨.failedPrecondition, "no active tenant on token", rfl⟩
  | false =>
    cases cr.parseUuid (metaOf md "x-tenant-id") with
    | none => exact .inr ⟨.internal, "invalid active tenant", rfl⟩
    | some tenant => exact .inl ⟨tenant, rfl⟩

theorem parseOptProject_done (cr : Crates) (s : String) :
    (∃ project, parseOptProject cr s = pure project) ∨
    ∃ code m, parseOptProject cr s = Prog.fail (.status code m) := by
  unfold parseOptProject
  split
  · exact .inl ⟨none, rfl⟩
  · cases cr.parseUuid s with
    | none => exact .inr ⟨.invalidArgument, "invalid project id", rfl⟩
    | some p => exact .inl ⟨some p, rfl⟩

theorem createApiKey_row {id keyHash name : String} {userId tenantId : Uuid} {scopes : List String}
    {expiresAt : Option DateTime} {projectId : Option Uuid} {c : Choice} {db db' : Db}
    {r : Reply (.createApiKey id userId keyHash name scopes expiresAt tenantId projectId)}
    (hx : Sql.exec conn c db (.createApiKey id userId keyHash name scopes expiresAt tenantId
      projectId) = .ok (r, db')) :
    ∃ row, db'.apiKeys = db.apiKeys ++ [row] ∧ row.id = id ∧ row.expiresAt = expiresAt := by
  simp only [Sql.exec, Repo.createApiKey] at hx
  repeat' split at hx
  all_goals cases hx
  exact ⟨_, rfl, rfl, rfl⟩

/-- How a call that passes the checks before the clock ends. -/
theorem ends_createApiKey {md : MetadataMap} {req : CreateApiKeyRequest}
    (hchecks : KeyChecks cr md req) (svc : AuthSvc) (cs : Nat → Choice) :
    (createApiKey cr svc md req).Ends (machine cr conn) (fun _ h c _ => c = cs h.length)
      (fun r st' _ =>
        LifetimeKept (cs 2).now req.ttlSeconds st.db.apiKeys st'.db.apiKeys r ↔
          LifetimeFits (cs 2).now req.ttlSeconds) st [] := by
  obtain ⟨uid, huid⟩ := Option.isSome_iff_exists.mp hchecks.caller
  have hname : req.name.isEmpty = false := by simpa using hchecks.named
  unfold createApiKey callerUuid
  rw [huid, hname]
  refine .bind (Prog.ends_of_okOr (fun hnone => absurd hnone (by simp)) fun uid' _ => ?_)
  refine .bind (Prog.ends_of_failIf (fun hempty => absurd hempty (by simp)) fun _ => ?_)
  refine .bind ?_
  rw [requireScopes_held hchecks.held]
  refine (Prog.ends_pure _ _ _ _ _ ()).mpr ?_
  -- The parts of the key are drawn first, so the clock is read at the third step.
  refine .bind (ends_sys _ fun c₀ _ => ?_)
  refine .bind (ends_sys _ fun c₁ _ => ?_)
  refine .bind (ends_apiKeyExpiry req.ttlSeconds (fun c _ hc => congrArg Choice.now hc)
    (fun h' hfits => ?_) fun h' hout => ?_)
  · have herror : ∀ code m, LifetimeKept (cs 2).now req.ttlSeconds st.db.apiKeys st.db.apiKeys
        (.error (.status code m)) ↔ LifetimeFits (cs 2).now req.ttlSeconds :=
      fun _ _ => iff_of_true rfl hfits
    rw [Prog.endsThen_ok]
    rcases activeTenant_done cr md with ⟨tenant, htenant⟩ | ⟨code, m, htenant⟩
    · rw [htenant]
      refine .bind ((Prog.ends_pure _ _ _ _ _ tenant).mpr ?_)
      rw [Prog.endsThen_ok]
      rcases parseOptProject_done cr (metaOf md "x-project-id") with
        ⟨project, hproject⟩ | ⟨code, m, hproject⟩
      · rw [hproject]
        refine .bind ((Prog.ends_pure _ _ _ _ _ project).mpr ?_)
        refine .bind (ends_query (.createApiKey ..) _ (fun c r db' _ hx => ?_) fun c e _ _ => herror _ _)
        obtain ⟨row, hrows, hid, hexpires⟩ := createApiKey_row hx
        refine .bind (ends_auditAs svc fun db'' es hframe _ => ?_)
        refine .bind (ends_sys _ fun c' _ => iff_of_true ⟨row, ?_, hid, hexpires, hexpires⟩ hfits)
        rw [← hrows]
        exact hframe.apiKeys (by simp)
      · rw [hproject]
        exact herror code m
    · rw [htenant]
      exact herror code m
  · exact iff_of_false id hout

end Create

/-- With the other checks passing, create_api_key keeps the lifetime it was asked for
exactly when chrono can represent it; the clock is that of the third step. -/
theorem lifetimeKept_iff (cr : Crates) (conn : DbRole) (svc : AuthSvc) (md : MetadataMap)
    (req : CreateApiKeyRequest) (hchecks : KeyChecks cr md req) (cs : Nat → Choice) (st : State) :
    LifetimeKept (cs 2).now req.ttlSeconds st.db.apiKeys
        ((createApiKey cr svc md req).eval (machine cr conn) cs st).2.1.db.apiKeys
        ((createApiKey cr svc md req).eval (machine cr conn) cs st).1 ↔
      LifetimeFits (cs 2).now req.ttlSeconds := by
  have hends : (createApiKey cr svc md req).Ends (machine cr conn) (fun _ h c _ => c = cs h.length)
      (fun r st' _ => LifetimeKept (cs 2).now req.ttlSeconds st.db.apiKeys st'.db.apiKeys r ↔
        LifetimeFits (cs 2).now req.ttlSeconds) st [] := ends_createApiKey hchecks svc cs
  exact hends.eval_meets (Prog.meets_choices _ cs)

namespace Sample

/-- User 10, acting in the default tenant, asks for a key without scopes. -/
def keyCaller : MetadataMap := metadata 10 defaultTenantId ""

/-- At the epoch. -/
def keyAsked (ttlSeconds : Int) : Except Failure CreateApiKeyResponse × State × List (Event Resp) :=
  (createApiKey crates svc keyCaller ⟨"ci", [], ttlSeconds⟩).eval (machine crates .superuser)
    (fun _ => choice 0 0 "k") (stateOf (user 10 none false))

theorem lifetimeKept_minute :
    LifetimeKept 0 60 (stateOf (user 10 none false)).db.apiKeys (keyAsked 60).2.1.db.apiKeys
      (keyAsked 60).1 :=
  (lifetimeKept_iff crates .superuser svc keyCaller ⟨"ci", [], 60⟩ (by decide)
    (fun _ => choice 0 0 "k") (stateOf (user 10 none false))).mpr (by decide)

theorem not_kept_of_panic {ttlSeconds : Int} (h : (keyAsked ttlSeconds).1 = .error .panic) :
    ¬LifetimeKept 0 ttlSeconds (stateOf (user 10 none false)).db.apiKeys
      (keyAsked ttlSeconds).2.1.db.apiKeys (keyAsked ttlSeconds).1 := by
  rw [h]
  exact id

/-- The largest 64-bit lifetime is no duration, and the next largest one that is
ends after chrono's last year. -/
theorem lifetime_panics :
    KeyChecks crates keyCaller ⟨"ci", [], 9223372036854775807⟩ ∧
    KeyChecks crates keyCaller ⟨"ci", [], 9223372036854775⟩ ∧
    (keyAsked 9223372036854775807).1 = .error .panic ∧
    (keyAsked 9223372036854775).1 = .error .panic ∧
    ¬LifetimeKept 0 9223372036854775807 (stateOf (user 10 none false)).db.apiKeys
      (keyAsked 9223372036854775807).2.1.db.apiKeys (keyAsked 9223372036854775807).1 ∧
    ¬LifetimeKept 0 9223372036854775 (stateOf (user 10 none false)).db.apiKeys
      (keyAsked 9223372036854775).2.1.db.apiKeys (keyAsked 9223372036854775).1 := by
  have hlargest : (keyAsked 9223372036854775807).1 = .error .panic := by decide
  have hlong : (keyAsked 9223372036854775).1 = .error .panic := by decide
  have hchecks : ∀ ttlSeconds, KeyChecks crates keyCaller ⟨"ci", [], ttlSeconds⟩ := by
    intro ttlSeconds
    refine ⟨?_, ?_, ?_⟩
    · decide
    · simp
    · intro s hs
      cases hs
  exact ⟨hchecks _, hchecks _, hlargest, hlong, not_kept_of_panic hlargest, not_kept_of_panic hlong⟩

end Sample

end IamAuth
