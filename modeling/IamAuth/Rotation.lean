import IamAuth.Issued
import IamAuth.RefreshTokens
import IamAuth.Relational.Order

/-!
# Rotation chains

A refresh creates a successor and then revokes the token it was given, if that is
still live, and writes the successor's hash into it. Other calls may run between
the two statements. `creations`, the keys of all tokens created so far, fixes the
order: the table is a part of it from which whole users are missing.
-/

set_option autoImplicit false

namespace IamAuth

open Interleave Relational

/-- `t` was rotated into `t'`. -/
def Link (table : List RefreshToken) (t t' : RefreshToken) : Prop :=
  t ∈ table ∧ t' ∈ table ∧ t.replacedBy = some t'.tokenHash

structure ChainsSound (table : List RefreshToken) : Prop where
  revoked : ∀ t ∈ table, t.replacedBy.isSome = true → t.revokedAt.isSome = true
  /-- The successor is there, was inserted later and has the same binding. -/
  successor : ∀ t ∈ table, ∀ next, t.replacedBy = some next → ∃ t', Before table t t' ∧
    t'.tokenHash = next ∧ t'.userId = t.userId ∧ t'.tenantId = t.tenantId ∧
    t'.projectId = t.projectId
  unshared : ∀ t ∈ table, ∀ t' ∈ table, t.replacedBy.isSome = true →
    t'.replacedBy = t.replacedBy → t' = t
  /-- So the links form chains, each within one binding. -/
  acyclic : ∀ t, ¬Relation.TransGen (Link table) t t
  binding : ∀ t t', Relation.TransGen (Link table) t t' →
    t'.userId = t.userId ∧ t'.tenantId = t.tenantId ∧ t'.projectId = t.projectId

/-! ## Events -/

/-- The key of the token an event has created. -/
def createdKey : Event Resp → Option TokenKey
  | ⟨.sql s, .ok _⟩ => s.tokenKey
  | _ => none

def creations (log : List (Nat × Event Resp)) : List TokenKey :=
  log.filterMap fun x => createdKey x.2

/-- The hash of a new token is none of an older one. -/
def freshHash (w : World) : Act → Prop
  | .step i _ =>
    match w.pending i with
    | some (.sql s) =>
      match s.tokenKey with
      | some key => key.tokenHash ∉ (creations w.log).map (·.tokenHash)
      | none => True
    | _ => True
  | _ => True

instance (w : World) (l : Act) : Decidable (freshHash w l) := by
  unfold freshHash
  match l with
  | .start k => exact isTrue trivial
  | .env e => exact isTrue trivial
  | .step i c =>
    dsimp only
    generalize w.pending i = pending
    match pending with
    | none => exact isTrue trivial
    | some (.redis cmd) => exact isTrue trivial
    | some (.sys s) => exact isTrue trivial
    | some (.sql s) =>
      dsimp only
      generalize s.tokenKey = key
      match key with
      | none => exact isTrue trivial
      | some key => exact inferInstanceAs (Decidable (_ ∉ _))

def rotates : Event Resp → Bool
  | ⟨.sql (.rotateRefreshToken ..), _⟩ => true
  | _ => false

/-- A call rotates once, the token whose row it has read, into a token it has
created since for the binding of the row. -/
def rotateRule (h : List (Event Resp)) : Event Resp → Prop
  | ⟨.sql (.rotateRefreshToken tokenHash next), _⟩ => h.any rotates = false ∧
    ∃ h₁ h₂ row user, h = h₁ ++ h₂ ∧
      ⟨.sql (.getRefreshToken tokenHash), .ok (some row)⟩ ∈ h₁ ∧
      ⟨.sql (.getUserById row.userId), .ok (some user)⟩ ∈ h ∧
      ⟨next, user.id, row.tenantId, row.projectId⟩ ∈ h₂.filterMap createdKey
  | _ => True

def rotateMonitor : Monitor Resp (List (Event Resp)) := .history rotateRule

@[simp] theorem rotateMonitor_upd (h : List (Event Resp)) (e : Event Resp) :
    rotateMonitor.upd h e = h ++ [e] := rfl

@[simp] theorem rotateMonitor_ok (h : List (Event Resp)) (e : Event Resp) :
    rotateMonitor.ok h e = rotateRule h e := rfl

theorem Unrotated.rotateRule {h : List (Event Resp)} {e : Event Resp} (he : Unrotated e.1) :
    rotateRule h e := by
  obtain ⟨o, r⟩ := e
  cases o with
  | redis q => trivial
  | sys s => trivial
  | sql s => cases s <;> first | exact he.elim | trivial

section Handlers

variable (cr : Crates) (svc : AuthSvc)

theorem along_unrotated {α : Type} {p : Handler α} {h : List (Event Resp)} (hp : p.Emits Unrotated) :
    p.Along rotateMonitor (fun _ _ => True) h :=
  hp.along_of (fun _ _ he => he.rotateRule) h

theorem unrotated_reissue (row : RefreshTokenRow) : (reissue cr svc row).Emits Unrotated := by
  refine .bind (by simp [Prog.Emits, Unrotated, Issued]) fun _ => .bind (by simp [Prog.Emits]) ?_
  intro user
  exact (signIn_issueTokens cr svc _ _ _ _).imp SignIn.unrotated

theorem along_refresh_rotate (req : RefreshRequest) :
    (refresh cr svc req).Along rotateMonitor (fun _ _ => True) [] := by
  apply (Prog.along_bind _ _ _ _ _).mpr
  apply (along_query _ _ _).mpr
  refine ⟨?_, fun d => ⟨trivial, trivial⟩⟩
  intro found
  refine ⟨trivial, ?_⟩
  apply (Prog.along_bind _ _ _ _ _).mpr
  apply (Prog.along_okOr _ _ _ _ _).mpr
  refine ⟨fun _ => trivial, ?_⟩
  intro row hfound
  subst hfound
  have hwipe := (plain_wipeFamily cr svc row).imp Plain.unrotated
  simp only [rotateMonitor_upd, Prog.then_ok, List.nil_append]
  cases hrevoked : row.revokedAt with
  | some revokedAt =>
    apply along_unrotated
    dsimp only
    split
    · refine .bind (by simp [Prog.Emits, Unrotated, Issued]) fun now => ?_
      split
      · exact unrotated_reissue cr svc row
      · exact hwipe
    · exact hwipe
  | none =>
    simp [reissue, issueTokens, rotateRule]
    intro now _ found user hfound access refresh clock _ created
    subst hfound
    refine ⟨⟨rfl, rfl, rfl, rfl, rfl, rfl, rfl⟩, [_], _, rfl, row, List.mem_singleton_self _, user,
      ⟨rfl, rfl⟩, ?_⟩
    refine ⟨.sql (.createRefreshToken user.id (hashToken cr refresh)
      (clock + seconds svc.refreshTtlSecs) row.tenantId row.projectId), .ok created, ?_, rfl⟩
    simp

theorem along_rotateBody (k : Call) :
    (k.body cr).Along rotateMonitor (fun _ _ => True) [] := by
  have hunrotated : k.rotates = false → (k.body cr).Along rotateMonitor (fun _ _ => True) [] :=
    fun hk => along_unrotated (unrotated_body cr k hk)
  cases k with
  | rpc svc md r =>
    cases r
    case refresh req => exact along_wrap _ (along_refresh_rotate cr svc req)
    all_goals exact hunrotated rfl
  | start env => exact hunrotated rfl
  | profileCreationFailed userId reason => exact hunrotated rfl

end Handlers

/-! ## What every run keeps -/

structure ChainInv (w : World) : Prop where
  tracks : Pool.Tracks (fun _ : Call => rotateMonitor) (fun _ _ _ => True) (fun _ => []) w
  hashes : TokenHashes w.state.db
  fresh : ((creations w.log).map (·.tokenHash)).Nodup
  order : (w.state.db.refreshTokens.map (·.key)).Sublist (creations w.log)
  /-- What was created after a row of the table for the same user is in it too. -/
  closed : ∀ k k', Before (creations w.log) k k' → k'.userId = k.userId →
    k ∈ w.state.db.refreshTokens.map (·.key) → k' ∈ w.state.db.refreshTokens.map (·.key)
  reads : ∀ xs i tokenHash (row : RefreshTokenRow) ys,
    w.log = xs ++ (i, ⟨.sql (.getRefreshToken tokenHash), .ok (some row)⟩) :: ys →
    ⟨tokenHash, row.userId, row.tenantId, row.projectId⟩ ∈ creations xs
  users : ∀ i u (user : UserRow),
    (i, (⟨.sql (.getUserById u), .ok (some user)⟩ : Event Resp)) ∈ w.log → user.id = u
  rotated : ∀ t ∈ w.state.db.refreshTokens, ∀ next, t.replacedBy = some next →
    t.revokedAt.isSome = true ∧
    ∃ i r, (i, (⟨.sql (.rotateRefreshToken t.tokenHash next), r⟩ : Event Resp)) ∈ w.log

/-! ## One statement on the table -/

section Table

variable {s : Sql} {table table' : List RefreshToken} {l : List TokenKey}

theorem keys_update {p : RefreshToken → Bool} {f : RefreshToken → RefreshToken}
    (hkey : ∀ t, (f t).key = t.key) : (updateWhere p f table).map (·.key) = table.map (·.key) :=
  map_updateWhere _ (fun t _ => hkey t) table

theorem TokenStep.order (hstep : TokenStep s table table') (h : (table.map (·.key)).Sublist l) :
    (table'.map (·.key)).Sublist (l ++ s.tokenKey.toList) := by
  cases hstep with
  | same hs => exact h.trans (List.sublist_append_left _ _)
  | update hs hf hkey hrevoked hreplaced =>
    rw [keys_update hkey]
    exact h.trans (List.sublist_append_left _ _)
  | delete hs id =>
    have hsub : ((deleteWhere (fun t => t.userId == id) table).map (·.key)).Sublist
        (table.map (·.key)) := List.filter_sublist.map _
    exact (hsub.trans h).trans (List.sublist_append_left _ _)
  | insert hs hlive hlast hnew =>
    rw [List.map_append, hs]
    exact h.append (List.Sublist.refl _)

theorem TokenStep.closed (hstep : TokenStep s table table')
    (hfresh : ∀ key, s.tokenKey = some key → key ∉ l)
    (h : ∀ k k', Before l k k' → k'.userId = k.userId → k ∈ table.map (·.key) →
      k' ∈ table.map (·.key)) {k k' : TokenKey} (hbefore : Before (l ++ s.tokenKey.toList) k k')
    (huser : k'.userId = k.userId) (hk : k ∈ table'.map (·.key)) : k' ∈ table'.map (·.key) := by
  cases hstep with
  | same hs =>
    rw [hs, Option.toList_none, List.append_nil] at hbefore
    exact h k k' hbefore huser hk
  | update hs hf hkey hrevoked hreplaced =>
    rw [hs, Option.toList_none, List.append_nil] at hbefore
    rw [keys_update hkey] at hk ⊢
    exact h k k' hbefore huser hk
  | delete hs id =>
    rw [hs, Option.toList_none, List.append_nil] at hbefore
    obtain ⟨t, ht, rfl⟩ := List.mem_map.mp hk
    obtain ⟨ht, hid⟩ := mem_deleteWhere.1 ht
    obtain ⟨t', ht', rfl⟩ := List.mem_map.mp (h _ k' hbefore huser (List.mem_map_of_mem ht))
    -- The deletion takes both rows or none.
    have huser : t'.userId = t.userId := huser
    refine List.mem_map.mpr ⟨t', mem_deleteWhere.2 ⟨ht', ?_⟩, rfl⟩
    rw [huser]
    exact hid
  | @insert t hs hlive hlast hnew =>
    rw [hs, Option.toList_some] at hbefore
    rw [List.map_append, List.mem_append] at hk ⊢
    rcases before_concat.1 hbefore with hbefore | ⟨-, rfl⟩
    · left
      apply h k k' hbefore huser
      rcases hk with hk | hk
      · exact hk
      · obtain rfl : k = t.key := List.mem_singleton.mp hk
        exact absurd hbefore.left (hfresh _ hs)
    · exact .inr (List.mem_singleton_self _)

/-- A row that names a successor did so before, or this is its rotation. -/
theorem TokenStep.rotated (hstep : TokenStep s table table') {t' : RefreshToken}
    (ht' : t' ∈ table') {next : String} (hnext : t'.replacedBy = some next) :
    (∃ t ∈ table, t.tokenHash = t'.tokenHash ∧ t.replacedBy = some next ∧
      (t.revokedAt.isSome = true → t'.revokedAt.isSome = true)) ∨
    (t'.revokedAt.isSome = true ∧ s = .rotateRefreshToken t'.tokenHash next) := by
  cases hstep with
  | same hs => exact .inl ⟨t', ht', rfl, hnext, id⟩
  | @update p f hs hf hkey hrevoked hreplaced =>
    obtain ⟨t, ht, heq⟩ := mem_updateWhere.1 ht'
    split at heq
    · next hhit =>
      subst heq
      rcases hreplaced t hhit with hsame | ⟨next', hs', hnext'⟩
      · exact .inl ⟨t, ht, (hf.hash t).symm, hsame.symm.trans hnext, fun _ => hrevoked t⟩
      · rw [hnext] at hnext'
        obtain rfl := Option.some.inj hnext'
        rw [hf.hash t]
        exact .inr ⟨hrevoked t, hs'⟩
    · subst heq
      exact .inl ⟨t, ht, rfl, hnext, id⟩
  | delete hs id => exact .inl ⟨t', (mem_deleteWhere.1 ht').1, rfl, hnext, fun h => h⟩
  | insert hs hlive hlast hnew =>
    rcases List.mem_append.mp ht' with ht' | ht'
    · exact .inl ⟨t', ht', rfl, hnext, id⟩
    · rw [List.mem_singleton.mp ht', hlast] at hnext
      cases hnext

/-- A row that is revoked stays as it is, and a row that changes is revoked by
the change. -/
theorem TokenStep.kept (hstep : TokenStep s table table') (hhashes : (table.map (·.tokenHash)).Nodup)
    {t t' : RefreshToken} (ht : t ∈ table) (ht' : t' ∈ table') (hhash : t'.tokenHash = t.tokenHash) :
    t' = t ∨ (t.revokedAt = none ∧ t'.revokedAt.isSome = true) := by
  have hsame : ∀ t₀ ∈ table, t₀.tokenHash = t.tokenHash → t₀ = t := by
    intro t₀ ht₀ hhash₀
    exact List.inj_on_of_nodup_map hhashes ht₀ ht hhash₀
  cases hstep with
  | same hs => exact .inl (hsame t' ht' hhash)
  | update hs hf hkey hrevoked hreplaced =>
    obtain ⟨t₀, ht₀, heq⟩ := mem_updateWhere.1 ht'
    split at heq
    · next hhit =>
      subst heq
      rw [hf.hash t₀] at hhash
      obtain rfl := hsame t₀ ht₀ hhash
      exact .inr ⟨hf.live _ hhit, hrevoked _⟩
    · subst heq
      exact .inl (hsame t₀ ht₀ hhash)
  | delete hs id => exact .inl (hsame t' (mem_deleteWhere.1 ht').1 hhash)
  | insert hs hlive hlast hnew =>
    rcases List.mem_append.mp ht' with ht' | ht'
    · exact .inl (hsame t' ht' hhash)
    · obtain rfl := List.mem_singleton.mp ht'
      exact absurd hhash.symm (hnew t ht)

/-- Every row was there before, or is the one this statement creates. -/
theorem TokenStep.source (hstep : TokenStep s table table') {t' : RefreshToken} (ht' : t' ∈ table') :
    (∃ t ∈ table, t.tokenHash = t'.tokenHash) ∨ s.tokenKey = some t'.key := by
  cases hstep with
  | same hs => exact .inl ⟨t', ht', rfl⟩
  | update hs hf hkey hrevoked hreplaced =>
    obtain ⟨t, ht, rfl⟩ := mem_updateWhere.1 ht'
    refine .inl ⟨t, ht, ?_⟩
    split
    · exact (hf.hash t).symm
    · rfl
  | delete hs id => exact .inl ⟨t', (mem_deleteWhere.1 ht').1, rfl⟩
  | insert hs hlive hlast hnew =>
    rcases List.mem_append.mp ht' with ht' | ht'
    · exact .inl ⟨t', ht', rfl⟩
    · obtain rfl := List.mem_singleton.mp ht'
      exact .inr hs

end Table

section Step

variable {cr : Crates} {conn : DbRole} {w : World}

theorem creations_append (xs ys : List (Nat × Event Resp)) :
    creations (xs ++ ys) = creations xs ++ creations ys :=
  List.filterMap_append

theorem ChainInv.mem_creations (h : ChainInv w) {t : RefreshToken}
    (ht : t ∈ w.state.db.refreshTokens) : t.key ∈ creations w.log :=
  h.order.subset (List.mem_map_of_mem ht)

/-- The log of a step, once its effect on the table is known. -/
theorem ChainInv.snoc (h : ChainInv w) {w' : World} {i : Nat} {e : Event Resp}
    (hlog : w'.log = w.log ++ [(i, e)])
    (htracks : Pool.Tracks (fun _ : Call => rotateMonitor) (fun _ _ _ => True) (fun _ => []) w')
    (hhashes : TokenHashes w'.state.db)
    (hfresh : ∀ key, createdKey e = some key →
      key.tokenHash ∉ (creations w.log).map (·.tokenHash))
    (horder : (w'.state.db.refreshTokens.map (·.key)).Sublist
      (creations w.log ++ (createdKey e).toList))
    (hclosed : ∀ k k', Before (creations w.log ++ (createdKey e).toList) k k' →
      k'.userId = k.userId → k ∈ w'.state.db.refreshTokens.map (·.key) →
      k' ∈ w'.state.db.refreshTokens.map (·.key))
    (hread : ∀ tokenHash row, e = ⟨.sql (.getRefreshToken tokenHash), .ok (some row)⟩ →
      ⟨tokenHash, row.userId, row.tenantId, row.projectId⟩ ∈ creations w.log)
    (huser : ∀ u user, e = ⟨.sql (.getUserById u), .ok (some user)⟩ → user.id = u)
    (hrotated : ∀ t' ∈ w'.state.db.refreshTokens, ∀ next, t'.replacedBy = some next →
      (∃ t ∈ w.state.db.refreshTokens, t.tokenHash = t'.tokenHash ∧ t.replacedBy = some next ∧
        (t.revokedAt.isSome = true → t'.revokedAt.isSome = true)) ∨
      (t'.revokedAt.isSome = true ∧
        ∃ r, e = ⟨.sql (.rotateRefreshToken t'.tokenHash next), r⟩)) : ChainInv w' := by
  have hcreations : creations w'.log = creations w.log ++ (createdKey e).toList := by
    rw [hlog, creations_append]
    cases hkey : createdKey e <;> simp [creations, hkey]
  refine ⟨htracks, hhashes, ?_, ?_, ?_, ?_, ?_, ?_⟩
  · rw [hcreations, List.map_append]
    cases hkey : createdKey e with
    | none => simpa using h.fresh
    | some key =>
      refine List.nodup_append.mpr ⟨h.fresh, by simp, ?_⟩
      intro a ha b hb
      obtain rfl : b = key.tokenHash := by simpa using hb
      rintro rfl
      exact hfresh key hkey ha
  · rw [hcreations]
    exact horder
  · intro k k' hbefore
    rw [hcreations] at hbefore
    exact hclosed k k' hbefore
  · intro xs j tokenHash row ys hsplit
    rw [hlog] at hsplit
    rcases snoc_split hsplit with ⟨rfl, he⟩ | ⟨ys', hsplit⟩
    · cases he
      exact hread tokenHash row rfl
    · exact h.reads xs j tokenHash row ys' hsplit
  · intro j u user hmem
    rw [hlog] at hmem
    rcases List.mem_append.mp hmem with hmem | hmem
    · exact h.users j u user hmem
    · cases List.mem_singleton.mp hmem
      exact huser u user rfl
  · intro t' ht' next hnext
    rw [hlog]
    rcases hrotated t' ht' next hnext with ⟨t, ht, hhash, hnext, hkept⟩ | ⟨hrevoked, r, rfl⟩
    · obtain ⟨hrevoked, j, r, hmem⟩ := h.rotated t ht next hnext
      rw [hhash] at hmem
      exact ⟨hkept hrevoked, j, r, List.mem_append_left _ hmem⟩
    · exact ⟨hrevoked, i, r, List.mem_append_right _ (List.mem_singleton_self _)⟩

/-- A step that leaves the table alone. -/
theorem ChainInv.skip (h : ChainInv w) {w' : World} {i : Nat} {e : Event Resp}
    (hlog : w'.log = w.log ++ [(i, e)])
    (htracks : Pool.Tracks (fun _ : Call => rotateMonitor) (fun _ _ _ => True) (fun _ => []) w')
    (hdb : w'.state.db = w.state.db) (hnone : ∀ s r, e ≠ ⟨.sql s, .ok r⟩) : ChainInv w' := by
  have hkey : createdKey e = none := by
    unfold createdKey
    split
    · exact absurd rfl (hnone _ _)
    · rfl
  refine h.snoc hlog htracks ?_ ?_ ?_ ?_ ?_ ?_ ?_
  · rw [hdb]
    exact h.hashes
  · intro key hkey'
    rw [hkey] at hkey'
    cases hkey'
  · rw [hkey, hdb, Option.toList_none, List.append_nil]
    exact h.order
  · rw [hkey, hdb, Option.toList_none, List.append_nil]
    exact h.closed
  · intro tokenHash row he
    exact absurd he (hnone _ _)
  · intro u user he
    exact absurd he (hnone _ _)
  · intro t' ht' next hnext
    rw [hdb] at ht'
    exact .inl ⟨t', ht', rfl, hnext, fun hrevoked => hrevoked⟩

theorem chainInv_next {l : Act} (hl : freshHash w l) (h : ChainInv w) :
    ChainInv (Pool.next (machine cr conn) (Call.body cr) w l) := by
  have htracks := Pool.tracks_next (M := machine cr conn) (along_rotateBody cr) l h.tracks
  rcases Pool.next_cases (machine cr conn) (Call.body cr) w l with
    ⟨k₀, rfl, hw⟩ | ⟨i, c, k₀, o, f, rfl, hi, hw⟩ | ⟨i, c, -, -, hw⟩ | ⟨e, -, hw⟩
  · rw [hw] at htracks ⊢
    exact ⟨htracks, h.hashes, h.fresh, h.order, h.closed, h.reads, h.users, h.rotated⟩
  · have hp : w.pending i = some o := Pool.pending_eq_some.2 ⟨k₀, f, hi⟩
    have hlog : (Pool.next (machine cr conn) (Call.body cr) w (.step i c)).log =
        w.log ++ [(i, ⟨o, ((machine cr conn).exec o c w.state).1⟩)] := by rw [hw]
    have hdb : (Pool.next (machine cr conn) (Call.body cr) w (.step i c)).state.db =
        ((machine cr conn).exec o c w.state).2.db := by rw [hw]
    cases o with
    | redis q =>
      refine h.skip hlog htracks (hdb.trans (exec_redis_db q c w.state)) ?_
      intro s r he
      cases he
    | sys s =>
      refine h.skip hlog htracks (hdb.trans rfl) ?_
      intro s' r he
      cases he
    | sql s =>
      rcases Sql.run_cases conn s c w.state.db with ⟨e, he⟩ | ⟨r, db', hx, hr⟩
      · rw [exec_sql_reply, he] at hlog
        rw [exec_sql_db, he] at hdb
        refine h.skip hlog htracks hdb ?_
        intro s' r he
        cases he
      · rw [exec_sql_reply, hr] at hlog
        rw [exec_sql_db, hr] at hdb
        have hstep := tokenStep_exec hx
        have hfresh : ∀ key, s.tokenKey = some key →
            key.tokenHash ∉ (creations w.log).map (·.tokenHash) := by
          intro key hkey
          simpa [freshHash, hp, hkey] using hl
        refine h.snoc hlog htracks ?_ hfresh ?_ ?_ ?_ ?_ ?_
        · rw [hdb]
          exact tokenHashes_exec hx h.hashes
        · rw [hdb]
          exact hstep.order h.order
        · rw [hdb]
          intro k k' hbefore huser hk
          refine hstep.closed ?_ h.closed hbefore huser hk
          intro key hkey hmem
          exact hfresh key hkey (List.mem_map_of_mem hmem)
        · intro tokenHash row he
          cases he
          obtain ⟨t, ht, rfl⟩ := Option.map_eq_some_iff.mp (congrArg Prod.fst (Except.ok.inj hx))
          have hhash : t.tokenHash = tokenHash := by simpa using List.find?_some ht
          have hkey := h.mem_creations (List.mem_of_find?_eq_some ht)
          rwa [RefreshToken.key, hhash] at hkey
        · intro u user he
          cases he
          exact getUserById_id (congrArg Prod.fst (Except.ok.inj hx))
        · rw [hdb]
          intro t' ht' next hnext
          rcases hstep.rotated ht' hnext with hold | ⟨hrevoked, rfl⟩
          · exact .inl hold
          · exact .inr ⟨hrevoked, _, rfl⟩
  · rw [hw]
    exact h
  · rw [hw] at htracks ⊢
    exact ⟨htracks, h.hashes, h.fresh, h.order, h.closed, h.reads, h.users, h.rotated⟩

theorem chainInv_init (redis : Redis) : ChainInv (Pool.init ⟨migrated, redis⟩) where
  tracks := Pool.tracks_init _
  hashes := by simp [TokenHashes, Pool.init, migrated]
  fresh := by simp [creations, Pool.init]
  order := by simp [Pool.init, migrated]
  closed := by
    intro k k' hbefore
    cases hbefore
  reads := by simp [Pool.init]
  users := by simp [Pool.init]
  rotated := by simp [Pool.init, migrated]

end Step

/-! ## What the invariant says about the chains -/

section Chains

variable {w : World}

/-- Tokens have one creation each. -/
theorem ChainInv.creation_unique (h : ChainInv w) {x y : Nat × Event Resp} (hx : x ∈ w.log)
    (hy : y ∈ w.log) {k k' : TokenKey} (hk : createdKey x.2 = some k)
    (hk' : createdKey y.2 = some k') (hhash : k.tokenHash = k'.tokenHash) : x = y := by
  by_contra hne
  have hcreated : ∀ {a b}, Before w.log a b → ∀ {ka kb}, createdKey a.2 = some ka →
      createdKey b.2 = some kb → ka.tokenHash ≠ kb.tokenHash := by
    intro a b hab ka kb hka hkb
    have hpair : ([ka, kb]).Sublist (creations w.log) := by
      have hsub := List.Sublist.filterMap (fun x : Nat × Event Resp => createdKey x.2) hab
      simpa [creations, hka, hkb] using hsub
    exact (Before.map (·.tokenHash) hpair).ne h.fresh
  rcases before_or hx hy hne with hxy | hyx
  · exact hcreated hxy hk hk' hhash
  · exact hcreated hyx hk' hk hhash.symm

/-- The rotation of a row: its own call has read the row and then created the
successor, for the same binding. -/
theorem ChainInv.rotation (h : ChainInv w) {i : Nat} {tokenHash next : String}
    {r : Resp (.sql (.rotateRefreshToken tokenHash next))}
    (hmem : (i, (⟨.sql (.rotateRefreshToken tokenHash next), r⟩ : Event Resp)) ∈ w.log)
    {t : RefreshToken} (ht : t ∈ w.state.db.refreshTokens) (hhash : t.tokenHash = tokenHash) :
    ∃ k' e, (i, e) ∈ w.log ∧ createdKey e = some k' ∧ k'.tokenHash = next ∧
      k'.userId = t.userId ∧ k'.tenantId = t.tenantId ∧ k'.projectId = t.projectId ∧
      Before (creations w.log) t.key k' := by
  obtain ⟨xs, ys, hlog⟩ := List.append_of_mem hmem
  obtain ⟨-, -, -, h₁, h₂, row, user, hsplit, hread, huser, hcreate⟩ := h.tracks.past_history hlog
  obtain ⟨l₁, l₂, rfl, rfl, rfl⟩ := List.filterMap_eq_append_iff.mp hsplit
  have hown : ∀ {l : List (Nat × Event Resp)} {e}, e ∈ l.filterMap (Pool.ownEvent i) → (i, e) ∈ l := by
    intro l e he
    obtain ⟨⟨j, e'⟩, hx, hxe⟩ := List.mem_filterMap.mp he
    unfold Pool.ownEvent at hxe
    split at hxe
    · next hj =>
      cases hxe
      cases hj
      exact hx
    · cases hxe
  obtain ⟨a, b, rfl⟩ := List.append_of_mem (hown hread)
  obtain ⟨e, he, hcreated⟩ := List.mem_filterMap.mp hcreate
  have he : (i, e) ∈ l₂ := hown he
  have hin := h.reads a i tokenHash row (b ++ l₂ ++ (i, ⟨_, r⟩) :: ys) (by simp [hlog])
  have hsub : (a ++ l₂).Sublist w.log := by
    rw [hlog]
    exact ((List.sublist_append_left a _).append (List.Sublist.refl l₂)).trans
      (List.sublist_append_left _ _)
  have hcreations : (creations a ++ creations l₂).Sublist (creations w.log) := by
    rw [← creations_append]
    exact hsub.filterMap _
  have hkey : t.key = ⟨tokenHash, row.userId, row.tenantId, row.projectId⟩ := by
    refine List.inj_on_of_nodup_map h.fresh (h.mem_creations ht) ?_ hhash
    exact hcreations.subset (List.mem_append_left _ hin)
  have hid : user.id = row.userId := by
    apply h.users i row.userId user
    rw [hlog]
    exact List.mem_append_left _ (hown huser)
  refine ⟨⟨next, user.id, row.tenantId, row.projectId⟩, e, ?_, hcreated, rfl, ?_, ?_, ?_, ?_⟩
  · rw [hlog]
    simp [he]
  · exact hid.trans (congrArg TokenKey.userId hkey).symm
  · exact (congrArg TokenKey.tenantId hkey).symm
  · exact (congrArg TokenKey.projectId hkey).symm
  · rw [hkey]
    refine (before_append hin ?_).mono hcreations
    exact List.mem_filterMap.mpr ⟨(i, e), he, hcreated⟩

/-- A call rotates one token only. -/
theorem ChainInv.rotation_unique (h : ChainInv w) {i : Nat} {e e' : Event Resp}
    (he : (i, e) ∈ w.log) (he' : (i, e') ∈ w.log) (hr : rotates e = true)
    (hr' : rotates e' = true) : e = e' := by
  have honce : ∀ xs e₁ ys, w.log = xs ++ (i, e₁) :: ys → rotates e₁ = true →
      ∀ e₀, (i, e₀) ∈ xs → rotates e₀ = false := by
    intro xs e₁ ys hlog hr₁ e₀ he₀
    obtain ⟨-, -, hok⟩ := h.tracks.past_history hlog
    obtain ⟨o, r⟩ := e₁
    cases o with
    | redis q => cases hr₁
    | sys s => cases hr₁
    | sql s =>
      cases s <;> try exact absurd hr₁ Bool.false_ne_true
      have hnone := List.any_eq_false.mp hok.1 e₀
        (List.mem_filterMap.mpr ⟨(i, e₀), he₀, by simp [Pool.ownEvent]⟩)
      simpa using hnone
  by_contra hne
  have hne : (i, e) ≠ (i, e') := fun heq => hne (congrArg Prod.snd heq)
  obtain ⟨xs, ys, hlog⟩ := List.append_of_mem he
  rw [hlog] at he'
  rcases List.mem_append.mp he' with hin | hin
  · rw [honce xs e ys hlog hr e' hin] at hr'
    cases hr'
  · rcases List.mem_cons.mp hin with heq | hin
    · exact hne heq.symm
    · obtain ⟨ys₁, ys₂, rfl⟩ := List.append_of_mem hin
      have hlog' : w.log = (xs ++ (i, e) :: ys₁) ++ (i, e') :: ys₂ := by simp [hlog]
      rw [honce _ e' ys₂ hlog' hr' e (by simp)] at hr
      cases hr

theorem ChainInv.successor (h : ChainInv w) {t : RefreshToken} (ht : t ∈ w.state.db.refreshTokens)
    {next : String} (hnext : t.replacedBy = some next) :
    ∃ t', Before w.state.db.refreshTokens t t' ∧ t'.tokenHash = next ∧ t'.userId = t.userId ∧
      t'.tenantId = t.tenantId ∧ t'.projectId = t.projectId := by
  obtain ⟨-, i, r, hmem⟩ := h.rotated t ht next hnext
  obtain ⟨k', e, -, -, hhash, huser, htenant, hproject, hbefore⟩ := h.rotation hmem ht rfl
  have hin := h.closed t.key k' hbefore huser (List.mem_map_of_mem ht)
  obtain ⟨t', ht', rfl⟩ := List.mem_map.mp hin
  have hnodup : (creations w.log).Nodup := List.Nodup.of_map _ h.fresh
  have hkeys := hbefore.of_sublist hnodup h.order (List.mem_map_of_mem ht) hin
  exact ⟨t', before_of_map hkeys (hnodup.sublist h.order) ht ht', hhash, huser, htenant, hproject⟩

theorem ChainInv.unshared (h : ChainInv w) {t t' : RefreshToken}
    (ht : t ∈ w.state.db.refreshTokens) (ht' : t' ∈ w.state.db.refreshTokens)
    (hsome : t.replacedBy.isSome = true) (hsame : t'.replacedBy = t.replacedBy) : t' = t := by
  obtain ⟨next, hnext⟩ := Option.isSome_iff_exists.mp hsome
  obtain ⟨-, i, r, hmem⟩ := h.rotated t ht next hnext
  obtain ⟨-, i', r', hmem'⟩ := h.rotated t' ht' next (hsame.trans hnext)
  obtain ⟨k, e, he, hkey, hhash, -⟩ := h.rotation hmem ht rfl
  obtain ⟨k', e', he', hkey', hhash', -⟩ := h.rotation hmem' ht' rfl
  -- The call that created the successor is the one that rotated both.
  have hcall := h.creation_unique he he' hkey hkey' (hhash.trans hhash'.symm)
  obtain rfl : i = i' := congrArg Prod.fst hcall
  have hrotation := h.rotation_unique hmem hmem' rfl rfl
  simp only [Sigma.mk.injEq, Op.sql.injEq, Sql.rotateRefreshToken.injEq] at hrotation
  exact List.inj_on_of_nodup_map h.hashes ht' ht hrotation.1.1.symm

theorem ChainInv.chains (h : ChainInv w) : ChainsSound w.state.db.refreshTokens := by
  have hnodup : w.state.db.refreshTokens.Nodup := List.Nodup.of_map _ h.hashes
  have hlink : ∀ t t', Link w.state.db.refreshTokens t t' → Before w.state.db.refreshTokens t t' ∧
      t'.userId = t.userId ∧ t'.tenantId = t.tenantId ∧ t'.projectId = t.projectId := by
    rintro t t' ⟨ht, ht', hnext⟩
    obtain ⟨t₂, hbefore, hhash, hbinding⟩ := h.successor ht hnext
    obtain rfl := List.inj_on_of_nodup_map h.hashes hbefore.right ht' hhash
    exact ⟨hbefore, hbinding⟩
  have hchain : ∀ t t', Relation.TransGen (Link w.state.db.refreshTokens) t t' →
      Before w.state.db.refreshTokens t t' ∧
        t'.userId = t.userId ∧ t'.tenantId = t.tenantId ∧ t'.projectId = t.projectId := by
    intro t t' hchain
    induction hchain with
    | single hl => exact hlink _ _ hl
    | tail _ hl ih =>
      obtain ⟨hbefore, huser, htenant, hproject⟩ := hlink _ _ hl
      exact ⟨ih.1.trans hbefore hnodup, huser.trans ih.2.1, htenant.trans ih.2.2.1,
        hproject.trans ih.2.2.2⟩
  constructor
  · intro t ht hsome
    obtain ⟨next, hnext⟩ := Option.isSome_iff_exists.mp hsome
    exact (h.rotated t ht next hnext).1
  · intro t ht next hnext
    exact h.successor ht hnext
  · intro t ht t' ht' hsome hsame
    exact h.unshared ht ht' hsome hsame
  · intro t hcycle
    exact (hchain t t hcycle).1.ne hnodup rfl
  · intro t t' hlinks
    exact (hchain t t' hlinks).2

end Chains

/-! ## Runs -/

section Runs

variable {cr : Crates} {conn : DbRole}

/-- The table a run leaves behind. -/
def tokensAfter (cr : Crates) (conn : DbRole) (redis : Redis) (ls : List Act) : List RefreshToken :=
  (runFrom cr conn ⟨migrated, redis⟩ ls).state.db.refreshTokens

structure RotationSound (cr : Crates) (conn : DbRole) (redis : Redis) (ls : List Act) : Prop where
  chains : ChainsSound (tokensAfter cr conn redis ls)
  /-- A row that is revoked at some point of the run is the same from there on. -/
  kept : ∀ pre post, ls = pre ++ post → ∀ t ∈ tokensAfter cr conn redis pre,
    t.revokedAt.isSome = true → ∀ t' ∈ tokensAfter cr conn redis ls,
    t'.tokenHash = t.tokenHash → t' = t
  /-- A successor is named once, by the update that revokes the row. -/
  once : ∀ pre l, ls = pre ++ [l] → ∀ t ∈ tokensAfter cr conn redis pre,
    ∀ t' ∈ tokensAfter cr conn redis ls, t'.tokenHash = t.tokenHash →
    t'.replacedBy ≠ t.replacedBy →
    t.replacedBy = none ∧ t.revokedAt = none ∧ t'.revokedAt.isSome = true

variable (cr conn) in
theorem tokenStep_next (w : World) (l : Act) :
    (Pool.next (machine cr conn) (Call.body cr) w l).state.db.refreshTokens =
      w.state.db.refreshTokens ∨
    ∃ i c s, l = .step i c ∧ w.pending i = some (.sql s) ∧ TokenStep s w.state.db.refreshTokens
      (Pool.next (machine cr conn) (Call.body cr) w l).state.db.refreshTokens := by
  rcases db_next cr conn (Call.body cr) w l with hs | ⟨i, c, s, r, db', hl, hp, hx, -, hs⟩
  · exact .inl (by rw [hs])
  · refine .inr ⟨i, c, s, hl, hp, ?_⟩
    rw [hs]
    exact tokenStep_exec hx

theorem chainInv_run {redis : Redis} {ls : List Act}
    (hls : Pool.Each (machine cr conn) (Call.body cr) freshHash (Pool.init ⟨migrated, redis⟩) ls) :
    ChainInv (runFrom cr conn ⟨migrated, redis⟩ ls) :=
  Pool.run_inv (fun _ _ hl h => chainInv_next hl h) hls (chainInv_init redis)

/-- The rows of a hash that once was the hash of this row. -/
structure Kept (t : RefreshToken) (w : World) : Prop where
  inv : ChainInv w
  created : t.tokenHash ∈ (creations w.log).map (·.tokenHash)
  rows : ∀ t' ∈ w.state.db.refreshTokens, t'.tokenHash = t.tokenHash → t' = t

theorem kept_next {t : RefreshToken} (hrevoked : t.revokedAt.isSome = true) {w : World} {l : Act}
    (hl : freshHash w l) (h : Kept t w) : Kept t (Pool.next (machine cr conn) (Call.body cr) w l) := by
  refine ⟨chainInv_next hl h.inv, ?_, ?_⟩
  · have hlog : w.log <+: (Pool.next (machine cr conn) (Call.body cr) w l).log := Pool.log_next w l
    obtain ⟨xs, hxs⟩ := hlog
    rw [← hxs, creations_append, List.map_append]
    exact List.mem_append_left _ h.created
  · intro t' ht' hhash
    rcases tokenStep_next cr conn w l with hsame | ⟨i, c, s, rfl, hp, hstep⟩
    · rw [hsame] at ht'
      exact h.rows t' ht' hhash
    · rcases hstep.source ht' with ⟨t₀, ht₀, hhash₀⟩ | hkey
      · obtain rfl := h.rows t₀ ht₀ (hhash₀.trans hhash)
        rcases hstep.kept h.inv.hashes ht₀ ht' hhash with rfl | ⟨hlive, -⟩
        · rfl
        · rw [hlive] at hrevoked
          cases hrevoked
      · have hfresh : t'.key.tokenHash ∉ (creations w.log).map (·.tokenHash) := by
          simpa only [freshHash, hp, hkey] using hl
        exact absurd h.created (by rwa [← hhash])

/-- In every run of the service whose new tokens have new hashes, rotation
chains are sound in every state. -/
theorem rotationSound (redis : Redis) (ls : List Act)
    (hls : Pool.Each (machine cr conn) (Call.body cr) freshHash (Pool.init ⟨migrated, redis⟩) ls) :
    RotationSound cr conn redis ls where
  chains := (chainInv_run hls).chains
  kept := by
    intro pre post heq t ht hrevoked
    subst heq
    obtain ⟨hpre, hpost⟩ := (Pool.each_append _ _ _ _ _ _).mp hls
    have hinv := chainInv_run hpre
    have hstart : Kept t (runFrom cr conn ⟨migrated, redis⟩ pre) := by
      refine ⟨hinv, List.mem_map_of_mem (hinv.mem_creations ht), ?_⟩
      intro t' ht' hhash
      exact List.inj_on_of_nodup_map hinv.hashes ht' ht hhash
    have hend := Pool.run_inv (fun _ _ hl h => kept_next hrevoked hl h) hpost hstart
    rw [tokensAfter, runFrom_append]
    exact hend.rows
  once := by
    intro pre l heq t ht t' ht' hhash hchanged
    subst heq
    obtain ⟨hpre, -⟩ := (Pool.each_append _ _ _ _ _ _).mp hls
    have hinv := chainInv_run hpre
    rw [tokensAfter, runFrom_append] at ht'
    rcases tokenStep_next cr conn (runFrom cr conn ⟨migrated, redis⟩ pre) l with
      hsame | ⟨i, c, s, -, -, hstep⟩
    · have hin : t' ∈ (runFrom cr conn ⟨migrated, redis⟩ pre).state.db.refreshTokens := by
        rw [← hsame]
        exact ht'
      obtain rfl := List.inj_on_of_nodup_map hinv.hashes hin ht hhash
      exact absurd rfl hchanged
    · rcases hstep.kept hinv.hashes ht ht' hhash with rfl | ⟨hlive, hrevoked⟩
      · exact absurd rfl hchanged
      · refine ⟨?_, hlive, hrevoked⟩
        cases hnext : t.replacedBy with
        | none => rfl
        | some next =>
          have hset := (hinv.rotated t ht next hnext).1
          rw [hlive] at hset
          cases hset

end Runs

/-! Two refreshes of one token in turn, then a logout of the pair that won. -/

namespace Sample

def rotationRun : List Act :=
  let step := fun (n : Nat) (text : String) => choice 0 (BitVec.ofNat 128 n) text
  alone 0 (.start ⟨"", "", "console", "secret", "", "demo@iam.local", "demo1234"⟩)
    [step 0 "", step 0 "", step 0 "", step 30 "", step 0 ""] ++
  alone 1 (.rpc svc [("x-user-id", formatUuid 30)] (.switchTenant ⟨formatUuid defaultTenantId, ""⟩))
    (List.replicate 6 (step 1 "r0")) ++
  [.start (.rpc svc [] (.refresh ⟨"r0"⟩)), .start (.rpc svc [] (.refresh ⟨"r0"⟩))] ++
  (List.replicate 8 [.step 2 (step 2 "r1"), .step 3 (step 3 "r2")]).flatten ++
  alone 4 (.rpc svc [] (.logout ⟨"r1", ""⟩)) [step 0 ""]

end Sample

theorem rotationSound_rotationRun :
    RotationSound Sample.crates .superuser [] Sample.rotationRun :=
  rotationSound [] Sample.rotationRun (by decide +kernel)

/-- The other refresh leaves the row as it is, and its own pair is in no chain. -/
example : (tokensAfter Sample.crates .superuser [] Sample.rotationRun).map
    (fun t => (t.tokenHash, t.revokedAt.isSome, t.replacedBy)) =
      [("r0", true, some "r1"), ("r1", true, none), ("r2", false, none)] := by decide +kernel

end IamAuth
