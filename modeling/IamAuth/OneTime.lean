import IamAuth.Along
import IamAuth.Frame
import IamAuth.Interleave.Spend

/-!
# One-time credentials

Authorization codes, password-reset and e-mail verification tokens and recovery
codes. Each is consumed by one `UPDATE` that looks at the row it writes, so it
does not matter what a handler has read before and how the calls interleave.
-/

set_option autoImplicit false

namespace IamAuth

open Interleave Relational

/-! ## The events that create and spend them -/

/-- The claim of a code as exchange_authorization_code accepts it. -/
def claimsCode (codeHash : String) : Event Resp → Bool
  | ⟨.sql (.claimAuthorizationCode h), .ok n⟩ => h == codeHash && n == 1
  | _ => false

/-- The tables of one-time tokens, which are written alike. -/
inductive TokenTable where
  | resets
  | verifications

def TokenTable.rows (db : Db) : TokenTable → List OneTimeToken
  | .resets => db.passwordResets
  | .verifications => db.emailVerifications

/-- The statement that consumes a token. -/
def TokenTable.consumption (tokenHash : String) : TokenTable → Sql
  | .resets => .consumePasswordReset tokenHash
  | .verifications => .consumeEmailVerification tokenHash

def spendsToken (tokenHash : String) : TokenTable → Event Resp → Bool
  | .resets, ⟨.sql (.consumePasswordReset h), .ok (some _)⟩ => h == tokenHash
  | .verifications, ⟨.sql (.consumeEmailVerification h), .ok (some _)⟩ => h == tokenHash
  | _, _ => false

def insertsToken (tokenHash : String) : TokenTable → Event Resp → Bool
  | .resets, ⟨.sql (.createPasswordReset h _ _), .ok _⟩ => h == tokenHash
  | .verifications, ⟨.sql (.createEmailVerification h _ _), .ok _⟩ => h == tokenHash
  | _, _ => false

def spendsRecovery (u : Uuid) (codeHash : String) : Event Resp → Bool
  | ⟨.sql (.consumeRecoveryCode v h), .ok true⟩ => v == u && h == codeHash
  | _ => false

def createsRecovery (u : Uuid) (codeHash : String) : Event Resp → Bool
  | ⟨.sql (.insertRecoveryCode v h), .ok _⟩ => v == u && h == codeHash
  | _ => false

/-- The event writes a password. -/
def updatesPassword : Event Resp → Bool
  | ⟨.sql (.updatePassword ..), _⟩ => true
  | _ => false

/-! ## What is left to spend -/

/-- There is a row for the code, and it meets `Q`. -/
def codeRow (codeHash : String) (Q : AuthorizationCode → Prop) (db : Db) : Prop :=
  (∃ k ∈ db.oauthAuthorizationCodes, k.codeHash = codeHash) ∧
  ∀ k ∈ db.oauthAuthorizationCodes, k.codeHash = codeHash → Q k

/-- The code was claimed, and its row stays. -/
def codeGone (codeHash : String) (db : Db) : Prop :=
  (∃ k ∈ db.oauthAuthorizationCodes, k.codeHash = codeHash) ∧
  ∀ k ∈ db.oauthAuthorizationCodes, k.codeHash = codeHash → k.used = true

def tokenGone (tokenHash : String) (table : List OneTimeToken) : Prop :=
  ∀ t ∈ table, t.tokenHash = tokenHash → t.consumedAt.isSome = true

def recoveryGone (u : Uuid) (codeHash : String) (db : Db) : Prop :=
  ∀ t ∈ db.totpRecoveryCodes, t.userId = u → t.codeHash = codeHash → t.usedAt.isSome = true

/-- The primary key of a token table. -/
def tokenKeys (table : List OneTimeToken) : Prop := (table.map (·.tokenHash)).Nodup

instance (table : List OneTimeToken) : Decidable (tokenKeys table) :=
  inferInstanceAs (Decidable (List.Nodup _))

/-! ## Token tables -/

section Tokens

variable {c : Choice} {tokenHash h : String} {userId : Uuid} {expiresAt : DateTime} {db : Db}
variable {table table' : List OneTimeToken}

theorem tokenKeys_insert (hkeys : tokenKeys table)
    (hins : Repo.insertOneTimeToken h userId expiresAt db table = .ok table') :
    tokenKeys table' := by
  unfold Repo.insertOneTimeToken at hins
  split at hins
  · cases hins
  · next hfresh =>
    split at hins <;> cases hins
    have hnew : ∀ t ∈ table, t.tokenHash ≠ h := by simpa using hfresh
    simp only [tokenKeys, List.map_append, List.nodup_append]
    refine ⟨hkeys, by simp, ?_⟩
    intro a ha b hb
    obtain ⟨t, ht, rfl⟩ := List.mem_map.mp ha
    obtain rfl : b = h := by simpa using hb
    exact hnew t ht

theorem tokenKeys_consume (hkeys : tokenKeys table) :
    tokenKeys (Repo.consumeOneTimeToken c h table).2 := by
  have hmap : (Repo.consumeOneTimeToken c h table).2.map (·.tokenHash) = table.map (·.tokenHash) :=
    map_updateWhere _ (by simp) table
  rw [tokenKeys, hmap]
  exact hkeys

theorem tokenKeys_delete {p : OneTimeToken → Bool} (hkeys : tokenKeys table) :
    tokenKeys (deleteWhere p table) :=
  List.Nodup.sublist (List.filter_sublist.map _) hkeys

theorem tokenGone_insert (hgone : tokenGone tokenHash table) (hne : h ≠ tokenHash)
    (hins : Repo.insertOneTimeToken h userId expiresAt db table = .ok table') :
    tokenGone tokenHash table' := by
  unfold Repo.insertOneTimeToken at hins
  repeat' split at hins
  all_goals cases hins
  intro t ht hhash
  rcases List.mem_append.mp ht with ht | ht
  · exact hgone t ht hhash
  · obtain rfl := List.mem_singleton.mp ht
    exact absurd hhash hne

theorem tokenGone_consume (hgone : tokenGone tokenHash table) :
    tokenGone tokenHash (Repo.consumeOneTimeToken c h table).2 := by
  intro t' ht' hhash
  obtain ⟨t, ht, rfl⟩ := mem_updateWhere.1 ht'
  by_cases hp : Repo.consumable c h t = true
  · simp [hp]
  · rw [if_neg hp] at hhash ⊢
    exact hgone t ht hhash

theorem tokenGone_delete {p : OneTimeToken → Bool} (hgone : tokenGone tokenHash table) :
    tokenGone tokenHash (deleteWhere p table) := by
  intro t ht hhash
  exact hgone t (mem_deleteWhere.1 ht).1 hhash

/-- What a successful consumption found. -/
theorem consume_some {u : Uuid} (hout : (Repo.consumeOneTimeToken c h table).1 = some u) :
    ∃ t ∈ table, t.tokenHash = h ∧ t.userId = u ∧ t.consumedAt = none ∧ c.now < t.expiresAt := by
  obtain ⟨t, ht, rfl⟩ := Option.map_eq_some_iff.mp hout
  have hmem := List.mem_of_find?_eq_some ht
  have hcan := List.find?_some ht
  simp only [Repo.consumable, Bool.and_eq_true, beq_iff_eq, Option.isNone_iff_eq_none,
    decide_eq_true_eq] at hcan
  exact ⟨t, hmem, hcan.1.1, rfl, hcan.1.2, hcan.2⟩

/-- The one row of the hash is consumed, so none is left. -/
theorem tokenGone_of_consume {u : Uuid} (hkeys : tokenKeys table)
    (hout : (Repo.consumeOneTimeToken c h table).1 = some u) :
    tokenGone h (Repo.consumeOneTimeToken c h table).2 := by
  obtain ⟨t, ht, hhash, -, hfree, htime⟩ := consume_some hout
  intro t' ht' hhash'
  obtain ⟨t₀, ht₀, rfl⟩ := mem_updateWhere.1 ht'
  by_cases hp : Repo.consumable c h t₀ = true
  · simp [hp]
  · rw [if_neg hp] at hhash'
    have hsame : t₀ = t := List.inj_on_of_nodup_map hkeys ht₀ ht (hhash'.trans hhash.symm)
    rw [hsame] at hp
    simp [Repo.consumable, hhash, hfree, htime] at hp

theorem consume_refused (hgone : tokenGone h table) :
    (Repo.consumeOneTimeToken c h table).1 = none := by
  cases hout : (Repo.consumeOneTimeToken c h table).1 with
  | none => rfl
  | some u =>
    obtain ⟨t, ht, hhash, -, hfree, -⟩ := consume_some hout
    have hdone := hgone t ht hhash
    rw [hfree] at hdone
    cases hdone

end Tokens

/-! ## Statements -/

section Statement

variable {conn : DbRole} {c : Choice} {s : Sql} {db db' : Db} {r : Reply s}

/-- What a statement does to a table of one-time tokens, and the event it leaves. -/
theorem rows_exec (h : s.exec conn c db = .ok (r, db')) (tokenHash : String) (t : TokenTable) :
    (t.rows db' = t.rows db ∧ spendsToken tokenHash t ⟨.sql s, .ok r⟩ = false) ∨
    (∃ p, t.rows db' = deleteWhere p (t.rows db) ∧
      spendsToken tokenHash t ⟨.sql s, .ok r⟩ = false) ∨
    (∃ h' userId expiresAt, Repo.insertOneTimeToken h' userId expiresAt db (t.rows db) =
        .ok (t.rows db') ∧ spendsToken tokenHash t ⟨.sql s, .ok r⟩ = false ∧
      insertsToken tokenHash t ⟨.sql s, .ok r⟩ = (h' == tokenHash)) ∨
    ∃ h' out, Repo.consumeOneTimeToken c h' (t.rows db) = (out, t.rows db') ∧
      spendsToken tokenHash t ⟨.sql s, .ok r⟩ = (out.isSome && h' == tokenHash) := by
  cases t with
  | resets =>
    by_cases hw : .passwordResets ∈ s.writes
    · cases s <;> simp only [Sql.writes, List.mem_cons, List.not_mem_nil, reduceCtorEq, or_self,
        or_false, false_or] at hw
      case deleteUserEventSoft id hard eventType payload =>
        have hrows := (frame_insertOutbox (deleteUserEventSoft_ok h)).passwordResets (by simp)
        cases hard with
        | true => exact .inr (.inl ⟨_, hrows, rfl⟩)
        | false => exact .inl ⟨hrows, rfl⟩
      case createPasswordReset tokenHash' userId expiresAt =>
        simp only [Sql.exec, Repo.createPasswordReset] at h
        split at h
        · next table' hins =>
          cases h
          exact .inr (.inr (.inl ⟨_, _, _, hins, rfl, rfl⟩))
        · cases h
      case consumePasswordReset tokenHash' =>
        obtain ⟨hout, rfl⟩ := Prod.ext_iff.mp (Except.ok.inj h)
        refine .inr (.inr (.inr ⟨tokenHash', r, Prod.ext hout rfl, ?_⟩))
        cases r <;> rfl
    · refine .inl ⟨(Sql.exec_frame h).passwordResets hw, ?_⟩
      cases s <;> first | rfl | exact absurd (by simp [Sql.writes]) hw
  | verifications =>
    by_cases hw : .emailVerifications ∈ s.writes
    · cases s <;> simp only [Sql.writes, List.mem_cons, List.not_mem_nil, reduceCtorEq, or_self,
        or_false, false_or] at hw
      case deleteUserEventSoft id hard eventType payload =>
        have hrows := (frame_insertOutbox (deleteUserEventSoft_ok h)).emailVerifications (by simp)
        cases hard with
        | true => exact .inr (.inl ⟨_, hrows, rfl⟩)
        | false => exact .inl ⟨hrows, rfl⟩
      case createEmailVerification tokenHash' userId expiresAt =>
        simp only [Sql.exec, Repo.createEmailVerification] at h
        split at h
        · next table' hins =>
          cases h
          exact .inr (.inr (.inl ⟨_, _, _, hins, rfl, rfl⟩))
        · cases h
      case consumeEmailVerification tokenHash' =>
        obtain ⟨hout, rfl⟩ := Prod.ext_iff.mp (Except.ok.inj h)
        refine .inr (.inr (.inr ⟨tokenHash', r, Prod.ext hout rfl, ?_⟩))
        cases r <;> rfl
    · refine .inl ⟨(Sql.exec_frame h).emailVerifications hw, ?_⟩
      cases s <;> first | rfl | exact absurd (by simp [Sql.writes]) hw

theorem tokenKeys_exec {t : TokenTable} (h : s.exec conn c db = .ok (r, db'))
    (hkeys : tokenKeys (t.rows db)) : tokenKeys (t.rows db') := by
  rcases rows_exec h "" t with ⟨hrows, -⟩ | ⟨p, hrows, -⟩ | ⟨h', u, e, hins, -⟩ | ⟨h', out, hout, -⟩
  · rwa [hrows]
  · rw [hrows]
    exact tokenKeys_delete hkeys
  · exact tokenKeys_insert hkeys hins
  · have hrows : t.rows db' = (Repo.consumeOneTimeToken c h' (t.rows db)).2 := by rw [hout]
    rw [hrows]
    exact tokenKeys_consume hkeys

theorem tokenGone_exec {tokenHash : String} {t : TokenTable} (h : s.exec conn c db = .ok (r, db'))
    (hnew : insertsToken tokenHash t ⟨.sql s, .ok r⟩ = false)
    (hgone : tokenGone tokenHash (t.rows db)) : tokenGone tokenHash (t.rows db') := by
  rcases rows_exec h tokenHash t with
    ⟨hrows, -⟩ | ⟨p, hrows, -⟩ | ⟨h', u, e, hins, -, hevent⟩ | ⟨h', out, hout, -⟩
  · rwa [hrows]
  · rw [hrows]
    exact tokenGone_delete hgone
  · refine tokenGone_insert hgone ?_ hins
    rwa [hevent, beq_eq_false_iff_ne] at hnew
  · have hrows : t.rows db' = (Repo.consumeOneTimeToken c h' (t.rows db)).2 := by rw [hout]
    rw [hrows]
    exact tokenGone_consume hgone

/-- The statement that spends a token consumes a row of its hash. -/
theorem spendsToken_exec {tokenHash : String} {t : TokenTable}
    (h : s.exec conn c db = .ok (r, db')) (hs : spendsToken tokenHash t ⟨.sql s, .ok r⟩ = true) :
    ∃ u, Repo.consumeOneTimeToken c tokenHash (t.rows db) = (some u, t.rows db') := by
  rcases rows_exec h tokenHash t with
    ⟨-, hnot⟩ | ⟨p, -, hnot⟩ | ⟨h', u, e, -, hnot, -⟩ | ⟨h', out, hout, hevent⟩
  · rw [hnot] at hs
    cases hs
  · rw [hnot] at hs
    cases hs
  · rw [hnot] at hs
    cases hs
  · rw [hevent, Bool.and_eq_true, beq_iff_eq] at hs
    obtain ⟨hsome, rfl⟩ := hs
    obtain ⟨u, rfl⟩ := Option.isSome_iff_exists.mp hsome
    exact ⟨u, hout⟩

/-- What holds of a code and does not depend on whether it is used holds on. -/
theorem codeRow_exec {codeHash : String} {Q : AuthorizationCode → Prop}
    (hQ : ∀ k, Q k → Q { k with used := true }) (h : s.exec conn c db = .ok (r, db'))
    (hrow : codeRow codeHash Q db) : codeRow codeHash Q db' := by
  by_cases hw : .oauthAuthorizationCodes ∈ s.writes
  · obtain ⟨⟨k₀, hk₀, hhash₀⟩, hall⟩ := hrow
    cases s <;> simp only [Sql.writes, List.mem_cons, List.not_mem_nil, reduceCtorEq, or_self,
      or_false] at hw
    case insertAuthorizationCode h' clientId userId redirectUri scope challenge method nonce =>
      simp only [Sql.exec, Repo.insertAuthorizationCode] at h
      split at h
      · cases h
      · next hfresh =>
        split at h <;> cases h
        have hne : h' ≠ codeHash := by
          intro heq
          have hnew : ∀ k ∈ db.oauthAuthorizationCodes, k.codeHash ≠ h' := by simpa using hfresh
          exact hnew k₀ hk₀ (hhash₀.trans heq.symm)
        refine ⟨⟨k₀, List.mem_append_left _ hk₀, hhash₀⟩, ?_⟩
        intro k hk hhash
        rcases List.mem_append.mp hk with hk | hk
        · exact hall k hk hhash
        · obtain rfl := List.mem_singleton.mp hk
          exact absurd hhash hne
    case claimAuthorizationCode h' =>
      cases h
      refine ⟨⟨_, mem_updateWhere.2 ⟨k₀, hk₀, rfl⟩, ?_⟩, ?_⟩
      · split <;> exact hhash₀
      · intro k' hk' hhash'
        obtain ⟨k, hk, rfl⟩ := mem_updateWhere.1 hk'
        split at hhash'
        · next hp =>
          rw [if_pos hp]
          exact hQ k (hall k hk hhash')
        · next hp =>
          rw [if_neg hp]
          exact hall k hk hhash'
  · rw [codeRow, (Sql.exec_frame h).oauthAuthorizationCodes hw]
    exact hrow

theorem codeGone_exec {codeHash : String} (h : s.exec conn c db = .ok (r, db'))
    (hgone : codeGone codeHash db) : codeGone codeHash db' :=
  codeRow_exec (fun _ _ => rfl) h hgone

theorem recoveryGone_exec {u : Uuid} {codeHash : String} (h : s.exec conn c db = .ok (r, db'))
    (hnew : createsRecovery u codeHash ⟨.sql s, .ok r⟩ = false) (hgone : recoveryGone u codeHash db) :
    recoveryGone u codeHash db' := by
  by_cases hw : .totpRecoveryCodes ∈ s.writes
  · cases s <;> simp only [Sql.writes, List.mem_cons, List.not_mem_nil, reduceCtorEq, or_self,
      or_false, false_or] at hw
    case deleteUserEventSoft id hard eventType payload =>
      rw [recoveryGone, (frame_insertOutbox (deleteUserEventSoft_ok h)).totpRecoveryCodes (by simp)]
      split
      · intro t ht
        exact hgone t (mem_deleteWhere.1 ht).1
      · exact hgone
    case insertRecoveryCode userId h' =>
      simp only [Sql.exec, Repo.insertRecoveryCode] at h
      split at h <;> cases h
      intro t ht hu hhash
      rcases List.mem_append.mp ht with ht | ht
      · exact hgone t ht hu hhash
      · obtain rfl := List.mem_singleton.mp ht
        simp only [createsRecovery, Bool.and_eq_false_iff, beq_eq_false_iff_ne] at hnew
        rcases hnew with hne | hne
        · exact absurd hu hne
        · exact absurd hhash hne
    case deleteRecoveryCodes userId =>
      cases h
      intro t ht
      exact hgone t (mem_deleteWhere.1 ht).1
    case consumeRecoveryCode userId h' =>
      cases h
      intro t' ht' hu hhash
      obtain ⟨t, ht, rfl⟩ := mem_updateWhere.1 ht'
      split
      · rfl
      · next hp =>
        rw [if_neg hp] at hu hhash
        exact hgone t ht hu hhash
  · rw [recoveryGone, (Sql.exec_frame h).totpRecoveryCodes hw]
    exact hgone

end Statement

/-! ## The four credentials in any interleaving -/

section Runs

variable {cr : Crates} {conn : DbRole}

/-- `Spending` from what the transactions of repo.rs do. -/
theorem spending_of_exec {spends creates : Event Resp → Bool} (I gone : Db → Prop)
    (hI : ∀ (s : Sql) c db r db', s.exec conn c db = .ok (r, db') → I db → I db')
    (hspend : ∀ (s : Sql) c db r db', s.exec conn c db = .ok (r, db') → I db →
      spends ⟨.sql s, .ok r⟩ = true → gone db')
    (hkeep : ∀ (s : Sql) c db r db', s.exec conn c db = .ok (r, db') →
      creates ⟨.sql s, .ok r⟩ = false → gone db → gone db')
    (hrefuse : ∀ (s : Sql) c db r db', s.exec conn c db = .ok (r, db') → gone db →
      spends ⟨.sql s, .ok r⟩ = false)
    (herror : ∀ (s : Sql) d, spends ⟨.sql s, .error d⟩ = false)
    (hredis : ∀ q r, spends ⟨.redis q, r⟩ = false) (hsys : ∀ q r, spends ⟨.sys q, r⟩ = false) :
    Pool.Spending (machine cr conn) spends creates (fun st => I st.db) (fun st => gone st.db) := by
  have hcases : ∀ (o : Op) c (st : State),
      ((machine cr conn).exec o c st).2.db = st.db ∧
        spends ⟨o, ((machine cr conn).exec o c st).1⟩ = false ∨
      ∃ (s : Sql) (r : Reply s) (db' : Db), s.exec conn c st.db = .ok (r, db') ∧
        (⟨o, ((machine cr conn).exec o c st).1⟩ : Event Resp) = ⟨.sql s, .ok r⟩ ∧
        ((machine cr conn).exec o c st).2.db = db' := by
    intro o c st
    cases o with
    | sql s =>
      rcases Sql.run_cases conn s c st.db with ⟨e, he⟩ | ⟨r, db', hx, hr⟩
      · refine .inl ⟨by rw [exec_sql_db, he], ?_⟩
        rw [exec_sql_reply, he]
        exact herror s e
      · exact .inr ⟨s, r, db', hx, by rw [exec_sql_reply, hr], by rw [exec_sql_db, hr]⟩
    | redis q => exact .inl ⟨exec_redis_db q c st, hredis q _⟩
    | sys q => exact .inl ⟨rfl, hsys q _⟩
  constructor
  · intro o c st hst
    rcases hcases o c st with ⟨hdb, -⟩ | ⟨s, r, db', hx, -, hdb⟩
    · rwa [hdb]
    · rw [hdb]
      exact hI s c _ r db' hx hst
  · intro e st hst
    exact hst
  · intro o c st hst hs
    rcases hcases o c st with ⟨-, hnot⟩ | ⟨s, r, db', hx, hevent, hdb⟩
    · rw [hnot] at hs
      cases hs
    · rw [hevent] at hs
      rw [hdb]
      exact hspend s c _ r db' hx hst hs
  · intro o c st hnew hst
    rcases hcases o c st with ⟨hdb, -⟩ | ⟨s, r, db', hx, hevent, hdb⟩
    · rwa [hdb]
    · rw [hevent] at hnew
      rw [hdb]
      exact hkeep s c _ r db' hx hnew hst
  · intro e st hst
    exact hst
  · intro o c st hst
    rcases hcases o c st with ⟨-, hnot⟩ | ⟨s, r, db', hx, hevent, -⟩
    · exact hnot
    · rw [hevent]
      exact hrefuse s c _ r db' hx hst

theorem claim_one {codeHash : String} {db : Db}
    (h : (Repo.claimAuthorizationCode codeHash db).1 = 1) :
    codeGone codeHash (Repo.claimAuthorizationCode codeHash db).2 := by
  have hpos : 0 < (Repo.claimAuthorizationCode codeHash db).1 := by omega
  obtain ⟨k, hk⟩ := List.length_pos_iff_exists_mem.mp hpos
  obtain ⟨hmem, hhit⟩ := List.mem_filter.mp hk
  simp only [Bool.and_eq_true, beq_iff_eq, Bool.not_eq_true'] at hhit
  refine ⟨⟨{ k with used := true }, mem_updateWhere.2 ⟨k, hmem, ?_⟩, hhit.1⟩, ?_⟩
  · simp [hhit.1, hhit.2]
  · intro k' hk' hhash
    obtain ⟨k₀, hk₀, rfl⟩ := mem_updateWhere.1 hk'
    split
    · rfl
    · next hp =>
      rw [if_neg hp] at hhash
      simpa [hhash] using hp

theorem claim_refused {codeHash : String} {db : Db} (h : codeGone codeHash db) :
    (Repo.claimAuthorizationCode codeHash db).1 = 0 := by
  apply List.length_eq_zero_iff.mpr
  apply List.filter_eq_nil_iff.mpr
  intro k hk hhit
  simp only [Bool.and_eq_true, beq_iff_eq, Bool.not_eq_true'] at hhit
  have hused := h.2 k hk hhit.1
  rw [hhit.2] at hused
  cases hused

theorem spending_code (codeHash : String) :
    Pool.Spending (machine cr conn) (claimsCode codeHash) (fun _ => false) (fun _ => True)
      (fun st => codeGone codeHash st.db) := by
  apply spending_of_exec (fun _ => True) (codeGone codeHash)
  · intros
    trivial
  · intro s c db r db' hx _ hs
    cases s <;> try exact (Bool.false_ne_true hs).elim
    case claimAuthorizationCode h =>
      simp only [claimsCode, Bool.and_eq_true, beq_iff_eq] at hs
      obtain ⟨rfl, hone⟩ := hs
      cases hx
      exact claim_one hone
  · intro s c db r db' hx _ hgone
    exact codeGone_exec hx hgone
  · intro s c db r db' hx hgone
    cases s <;> try rfl
    case claimAuthorizationCode h =>
      have hcount : (Repo.claimAuthorizationCode h db).1 = r := congrArg Prod.fst (Except.ok.inj hx)
      simp only [claimsCode, Bool.and_eq_false_iff, beq_eq_false_iff_ne]
      by_cases heq : h = codeHash
      · subst heq
        rw [← hcount, claim_refused hgone]
        exact .inr Nat.zero_ne_one
      · exact .inl heq
  · intro s d
    cases s <;> rfl
  · intro q r
    rfl
  · intro q r
    rfl

theorem spending_token (tokenHash : String) (t : TokenTable) :
    Pool.Spending (machine cr conn) (spendsToken tokenHash t) (insertsToken tokenHash t)
      (fun st => tokenKeys (t.rows st.db)) (fun st => tokenGone tokenHash (t.rows st.db)) := by
  apply spending_of_exec (fun db => tokenKeys (t.rows db)) fun db => tokenGone tokenHash (t.rows db)
  · intro s c db r db' hx hkeys
    exact tokenKeys_exec hx hkeys
  · intro s c db r db' hx hkeys hs
    obtain ⟨u, hout⟩ := spendsToken_exec hx hs
    have hrows : t.rows db' = (Repo.consumeOneTimeToken c tokenHash (t.rows db)).2 := by rw [hout]
    rw [hrows]
    exact tokenGone_of_consume hkeys (congrArg Prod.fst hout)
  · intro s c db r db' hx hnew hgone
    exact tokenGone_exec hx hnew hgone
  · intro s c db r db' hx hgone
    rw [Bool.eq_false_iff]
    intro hs
    obtain ⟨u, hout⟩ := spendsToken_exec hx hs
    have hfirst := congrArg Prod.fst hout
    rw [consume_refused hgone] at hfirst
    cases hfirst
  · intro s d
    cases t <;> cases s <;> rfl
  · intro q r
    cases t <;> rfl
  · intro q r
    cases t <;> rfl

theorem spending_recovery (u : Uuid) (codeHash : String) :
    Pool.Spending (machine cr conn) (spendsRecovery u codeHash) (createsRecovery u codeHash)
      (fun _ => True) (fun st => recoveryGone u codeHash st.db) := by
  apply spending_of_exec (fun _ => True) (recoveryGone u codeHash)
  · intros
    trivial
  · intro s c db r db' hx _ hs
    cases s <;> try exact (Bool.false_ne_true hs).elim
    case consumeRecoveryCode v h =>
      cases r with
      | false => cases hs
      | true =>
        simp only [spendsRecovery, Bool.and_eq_true, beq_iff_eq] at hs
        obtain ⟨rfl, rfl⟩ := hs
        obtain ⟨-, rfl⟩ := Prod.ext_iff.mp (Except.ok.inj hx)
        intro t' ht' hu hhash
        obtain ⟨t, ht, rfl⟩ := mem_updateWhere.1 ht'
        split
        · rfl
        · next hp =>
          rw [if_neg hp] at hu hhash
          simpa [Repo.unusedCode, hu, hhash, Option.isSome_iff_ne_none] using hp
  · intro s c db r db' hx hnew hgone
    exact recoveryGone_exec hx hnew hgone
  · intro s c db r db' hx hgone
    cases s <;> try rfl
    case consumeRecoveryCode v h =>
      cases r with
      | false => rfl
      | true =>
        simp only [spendsRecovery, Bool.and_eq_false_iff, beq_eq_false_iff_ne]
        by_contra hboth
        simp only [not_or, ne_eq, not_not] at hboth
        obtain ⟨rfl, rfl⟩ := hboth
        have hany : db.totpRecoveryCodes.any (Repo.unusedCode v h) = true :=
          congrArg Prod.fst (Except.ok.inj hx)
        obtain ⟨t, ht, hfree⟩ := List.any_eq_true.mp hany
        simp only [Repo.unusedCode, Bool.and_eq_true, beq_iff_eq, Option.isNone_iff_eq_none] at hfree
        have hdone := hgone t ht hfree.1.1 hfree.1.2
        rw [hfree.2] at hdone
        cases hdone
  · intro s d
    cases s <;> rfl
  · intro q r
    rfl
  · intro q r
    rfl

end Runs

/-! ## What the calls have done when they succeed -/

def validatesTotp : Event Resp → Bool
  | ⟨.sys (.validateTotp ..), valid⟩ => valid
  | _ => false

def Call.usesFactor : Call → Bool
  | .rpc _ _ (.loginTotp _) => true
  | .rpc _ _ (.disableTotp _) => true
  | _ => false

/-- The user whose second factor a call uses. -/
def actsFor (cr : Crates) : Call → List (Event Resp) → Uuid → Prop
  | .rpc _ _ (.loginTotp req), h, u => ∃ claims,
      ⟨.sys (.jwtParse req.mfaToken), some claims⟩ ∈ h ∧ cr.parseUuid claims.sub = some u
  | .rpc _ md (.disableTotp _), _, u => cr.parseUuid (metaOf md "x-user-id") = some u
  | _, _, _ => False

/-- A valid TOTP, or a recovery code spent for the call's own user. -/
def spentFactor (cr : Crates) (k : Call) (codeHash : String) (h : List (Event Resp)) : Prop :=
  h.any validatesTotp = true ∨ ∃ u, actsFor cr k h u ∧ h.any (spendsRecovery u codeHash) = true

theorem actsFor_append (cr : Crates) {k : Call} {h : List (Event Resp)} {u : Uuid} (hact : actsFor cr k h u)
    (ys : List (Event Resp)) : actsFor cr k (h ++ ys) u := by
  cases k with
  | rpc svc md r =>
    cases r <;> try exact hact
    case loginTotp req =>
      obtain ⟨claims, hparsed, hsub⟩ := hact
      exact ⟨claims, List.mem_append_left _ hparsed, hsub⟩
  | start env => exact hact
  | profileCreationFailed userId reason => exact hact

theorem spentFactor.append {cr : Crates} {k : Call} {codeHash : String} {h : List (Event Resp)}
    (hspent : spentFactor cr k codeHash h) (ys : List (Event Resp)) :
    spentFactor cr k codeHash (h ++ ys) := by
  rcases hspent with hvalid | ⟨u, hact, hany⟩
  · exact .inl (by simp [hvalid])
  · exact .inr ⟨u, actsFor_append cr hact ys, by simp [hany]⟩

/-- The password is written once, for a token spent before; a recovery code is
looked for among those of the call's own user. -/
def spendRule (cr : Crates) (k : Call) (h : List (Event Resp)) : Event Resp → Prop
  | ⟨.sql (.updatePassword ..), _⟩ => ∀ svc md req, k = .rpc svc md (.resetPassword req) →
      h.any (spendsToken (hashToken cr req.token) .resets) = true ∧ h.any updatesPassword = false
  | ⟨.sql (.consumeRecoveryCode u _), _⟩ => k.usesFactor = true → actsFor cr k h u
  | _ => True

/-- What a call that succeeds has spent. -/
def spendPost (cr : Crates) : Call → List (Event Resp) → Except Failure Response → Prop
  | .rpc _ _ (.exchangeAuthorizationCode req), h, .ok _ =>
    h.any (claimsCode (hashToken cr req.code)) = true
  | .rpc _ _ (.verifyEmail req), h, .ok _ =>
    h.any (spendsToken (hashToken cr req.token) .verifications) = true
  | .rpc svc md (.loginTotp req), h, .ok _ =>
    spentFactor cr (.rpc svc md (.loginTotp req)) (hashToken cr req.code) h
  | .rpc svc md (.disableTotp req), h, .ok _ =>
    (∃ u row, ⟨.sql (.getUserById u), .ok (some row)⟩ ∈ h ∧ row.totpEnabled = false) ∨
    spentFactor cr (.rpc svc md (.disableTotp req)) (hashToken cr req.code) h
  | _, _, _ => True

def spendMonitor (cr : Crates) (k : Call) : Monitor Resp (List (Event Resp)) :=
  .history (spendRule cr k)

@[simp] theorem spendMonitor_upd (cr : Crates) (k : Call) (h : List (Event Resp)) (e : Event Resp) :
    (spendMonitor cr k).upd h e = h ++ [e] := rfl

@[simp] theorem spendMonitor_ok (cr : Crates) (k : Call) (h : List (Event Resp)) (e : Event Resp) :
    (spendMonitor cr k).ok h e = spendRule cr k h e := rfl

section Handlers

variable (cr : Crates) (svc : AuthSvc) (md : MetadataMap)

/-- Statements the rule says nothing about. -/
def Unspent : Op → Prop
  | .sql (.updatePassword ..) => False
  | .sql (.consumeRecoveryCode ..) => False
  | _ => True

/-- From here on a call only carries its history along. -/
theorem along_unspent {α : Type} {k : Call} {p : Handler α} (hp : p.Emits Unspent)
    {Q : List (Event Resp) → Prop} (hQ : ∀ h e, Q h → Q (h ++ [e]))
    {post : List (Event Resp) → Except Failure α → Prop} (hpost : ∀ h r, Q h → post h r)
    {h : List (Event Resp)} (hh : Q h) : p.Along (spendMonitor cr k) post h := by
  refine Prog.Emits.along_persists ?_ hQ hpost hp hh
  rintro h ⟨o, r⟩ ho -
  cases o with
  | sql s => cases s <;> first | exact ho.elim | trivial
  | redis q => trivial
  | sys q => trivial

/-- The same up to the wrapping of the result as a response. -/
theorem along_unspent_wrap {α : Type} {k : Call} {p : Handler α} (f : α → Response)
    (hp : p.Emits Unspent) {Q : List (Event Resp) → Prop} (hQ : ∀ h e, Q h → Q (h ++ [e]))
    (hpost : ∀ h r, Q h → spendPost cr k h r) {h : List (Event Resp)} (hh : Q h) :
    p.Along (spendMonitor cr k)
      (Prog.Then (spendMonitor cr k) (spendPost cr k) fun a => pure (f a)) h :=
  (Prog.along_bind _ _ _ p _).mp (along_unspent cr (hp.bind (f := fun a => pure (f a)) fun _ => trivial) hQ hpost hh)

theorem any_snoc {q : Event Resp → Bool} (h : List (Event Resp)) (e : Event Resp)
    (hh : h.any q = true) : (h ++ [e]).any q = true := by
  simp [hh]

theorem unspent_issueTokens (userId : Uuid) (email : String) (tenantId : Uuid)
    (projectId : Option Uuid) : (issueTokens cr svc userId email tenantId projectId).Emits Unspent := by
  simp [issueTokens, Prog.Emits, Unspent]

theorem unspent_issueForActiveTenant (userId : Uuid) (email : String) :
    (issueForActiveTenant cr svc userId email).Emits Unspent :=
  .bind (by simp [Prog.Emits, Unspent]) fun _ => unspent_issueTokens cr svc _ _ _ _

theorem unspent_countFailure (id : Uuid) (email detail : String) :
    (countFailure cr svc id email detail).Emits Unspent := by
  unfold countFailure
  split
  · refine .bind (by simp [Prog.Emits, Unspent]) ?_
    rintro (_ | n)
    · trivial
    · simp [Prog.Emits, Unspent]
  · trivial

theorem unspent_issueForCode (code : AuthorizationCode) :
    (issueForCode cr svc code).Emits Unspent := by
  refine .bind (by simp [Prog.Emits, Unspent]) fun email => ?_
  refine .bind (by simp [Prog.Emits, Unspent]) fun tenant => ?_
  refine .bind (by simp [Prog.Emits, Unspent]) fun member => ?_
  refine .bind (by simp [Prog.Emits]) fun _ => ?_
  refine .bind (unspent_issueTokens cr svc _ _ _ _) fun pair => ?_
  simp [Prog.Emits, Unspent]

theorem unspent_authenticateClient (code : AuthorizationCode) (secret : String) :
    (authenticateClient cr code secret).Emits Unspent := by
  refine .bind (by simp [Prog.Emits, Unspent]) fun found => ?_
  refine .bind (by simp [Prog.Emits]) ?_
  rintro ⟨secretHash, isConfidential⟩
  cases isConfidential <;> simp [Prog.Emits]

theorem along_exchange_spend (req : ExchangeRequest) :
    ((Rpc.exchangeAuthorizationCode req).handle cr svc md).Along
      (spendMonitor cr (.rpc svc md (.exchangeAuthorizationCode req)))
      (spendPost cr (.rpc svc md (.exchangeAuthorizationCode req))) [] := by
  simp [Rpc.handle, exchangeAuthorizationCode, claimCode, spendRule, spendPost]
  intro found code hfound hused hclient huri claimed
  cases claimed with
  | error d => simp [spendPost]
  | ok n =>
    simp only [Prog.along_pure, Prog.then_ok, Prog.along_bind, Prog.along_failIf, Prog.then_error]
    refine ⟨fun _ => trivial, fun hone => ?_⟩
    have hn : n = 1 := by simpa using hone
    refine ⟨fun _ => trivial, fun _ => (Prog.along_bind _ _ _ _ _).mp ?_⟩
    refine along_unspent_wrap cr _ ?_ (Q := fun h =>
      h.any (claimsCode (hashToken cr req.code)) = true) any_snoc ?_ ?_
    · exact .bind (unspent_authenticateClient cr code _) fun _ => unspent_issueForCode cr svc code
    · rintro h (e | r) hh
      · trivial
      · exact hh
    · simp [claimsCode, hn]

theorem along_verifyEmail_spend (req : TokenRequest) :
    ((Rpc.verifyEmail req).handle cr svc md).Along
      (spendMonitor cr (.rpc svc md (.verifyEmail req)))
      (spendPost cr (.rpc svc md (.verifyEmail req))) [] := by
  simp [Rpc.handle, verifyEmail, spendRule, spendPost]
  intro found u hfound _
  subst hfound
  simp [spendsToken]

theorem along_resetPassword_spend (req : ResetPasswordRequest) :
    ((Rpc.resetPassword req).handle cr svc md).Along
      (spendMonitor cr (.rpc svc md (.resetPassword req)))
      (spendPost cr (.rpc svc md (.resetPassword req))) [] := by
  simp [Rpc.handle, resetPassword, storePassword, spendRule, spendPost, spendsToken,
    updatesPassword]

/-- The check of a code, for the call's own user. -/
theorem along_checkCode_spend {k : Call} {uid : Uuid} {h : List (Event Resp)}
    (hact : actsFor cr k h uid) (secret : Option String) (code : String)
    {post : List (Event Resp) → Except Failure Bool → Prop} (herr : ∀ h e, post h (.error e))
    (hpost : ∀ ys ok, (ok = true → (h ++ ys).any validatesTotp = true ∨
      (h ++ ys).any (spendsRecovery uid (hashToken cr code)) = true) → post (h ++ ys) (.ok ok)) :
    (checkCode cr uid secret code).Along (spendMonitor cr k) post h := by
  -- The recovery code, after the events `ys` of a TOTP check that failed.
  have hrecovery : ∀ ys, (query (.consumeRecoveryCode uid (hashToken cr code))
      (internal "db error")).Along (spendMonitor cr k) post (h ++ ys) := by
    intro ys
    simp only [along_query, spendMonitor_ok, spendMonitor_upd]
    have hown := actsFor_append cr hact ys
    refine ⟨fun ok => ⟨fun _ => hown, ?_⟩, fun d => ⟨fun _ => hown, herr _ _⟩⟩
    rw [List.append_assoc]
    refine hpost _ ok fun hok => .inr ?_
    have hok : ok = true := hok
    subst hok
    simp [spendsRecovery]
  cases secret with
  | none =>
    simp only [checkCode, checkTotp, Prog.along_bind, Prog.along_pure, Prog.then_ok,
      Bool.false_eq_true, if_false]
    simpa using hrecovery []
  | some plain =>
    simp only [checkCode, checkTotp, Prog.along_bind, along_sys, spendMonitor_ok, spendMonitor_upd,
      Prog.then_ok]
    intro valid
    refine ⟨trivial, ?_⟩
    cases valid with
    | true => exact hpost [_] true fun _ => .inl (by simp [validatesTotp])
    | false => exact hrecovery [_]

theorem along_loginTotp_spend (req : LoginTotpRequest) :
    ((Rpc.loginTotp req).handle cr svc md).Along
      (spendMonitor cr (.rpc svc md (.loginTotp req)))
      (spendPost cr (.rpc svc md (.loginTotp req))) [] := by
  simp [Rpc.handle, loginTotp, spendRule, spendPost]
  intro parsed claims hparsed _ uid huid found user hfound _
  subst hparsed
  have hact : actsFor cr (.rpc svc md (.loginTotp req))
      [⟨.sys (.jwtParse req.mfaToken), some claims⟩, ⟨.sql (.getUserById uid), .ok found⟩] uid :=
    ⟨claims, by simp, huid⟩
  refine along_unspent cr ?_ (Q := fun h => actsFor cr (.rpc svc md (.loginTotp req)) h uid)
    (fun h e hh => actsFor_append cr hh [e]) ?_ hact
  · unfold refuseIfLocked
    cases user.lockedUntil <;> simp [Prog.Emits, Unspent]
  · rintro h (e | _) hact
    · trivial
    · refine (Prog.along_bind _ _ _ _ _).mpr (along_checkCode_spend cr hact _ _ (fun _ _ => trivial) ?_)
      intro ys ok hok
      cases ok with
      | false =>
        refine (Prog.along_bind _ _ _ _ _).mpr (along_unspent cr (unspent_countFailure cr svc _ _ _)
          (Q := fun _ => True) (fun _ _ _ => trivial) ?_ trivial)
        rintro h (e | _) -
        · trivial
        · simp [spendRule, spendPost]
      | true =>
        refine along_unspent_wrap cr _ ?_ (Q := spentFactor cr (.rpc svc md (.loginTotp req))
          (hashToken cr req.code)) (fun h e hh => hh.append [e]) ?_ ?_
        · refine .bind (by simp [Prog.Emits, Unspent]) fun _ => ?_
          refine .bind (by simp [Prog.Emits, Unspent]) fun _ => ?_
          exact unspent_issueForActiveTenant cr svc _ _
        · rintro h (e | r) hh
          · trivial
          · exact hh
        · exact (hok rfl).imp id fun hany => ⟨uid, actsFor_append cr hact ys, hany⟩

theorem along_disableTotp_spend (req : CodeRequest) :
    ((Rpc.disableTotp req).handle cr svc md).Along
      (spendMonitor cr (.rpc svc md (.disableTotp req)))
      (spendPost cr (.rpc svc md (.disableTotp req))) [] := by
  simp [Rpc.handle, disableTotp, spendRule, spendPost]
  intro uid huid user
  refine ⟨fun henabled => .inl henabled, fun _ => ?_⟩
  have hact : actsFor cr (.rpc svc md (.disableTotp req))
      [⟨.sql (.getUserById uid), .ok (some user)⟩] uid := huid
  refine along_checkCode_spend cr hact _ _ (fun _ _ => trivial) ?_
  intro ys ok hok
  cases ok with
  | false => simp [spendPost]
  | true =>
    have hspent : spentFactor cr (.rpc svc md (.disableTotp req)) (hashToken cr req.code)
        ([⟨.sql (.getUserById uid), .ok (some user)⟩] ++ ys) :=
      (hok rfl).imp id fun hany => ⟨uid, huid, hany⟩
    refine along_unspent_wrap cr _ ?_ (Q := spentFactor cr (.rpc svc md (.disableTotp req))
      (hashToken cr req.code)) (fun h e hh => hh.append [e]) ?_ hspent
    · simp [audit, Prog.Emits, Unspent]
    · rintro h (e | r) hh
      · trivial
      · exact .inr hh

end Handlers

theorem along_spendBody (cr : Crates) (k : Call) :
    (k.body cr).Along (spendMonitor cr k) (spendPost cr k) [] := by
  -- The rule and the postcondition are about five RPCs.
  have hother : k.usesFactor = false → (∀ svc md req, k ≠ .rpc svc md (.resetPassword req)) →
      ∀ h e, spendRule cr k h e := by
    intro hfactor hreset h e
    obtain ⟨o, r⟩ := e
    cases o with
    | sql s =>
      cases s <;> try trivial
      case consumeRecoveryCode u codeHash =>
        intro hk
        rw [hfactor] at hk
        cases hk
      case updatePassword u hash =>
        intro svc md req hk
        exact absurd hk (hreset svc md req)
    | redis q => trivial
    | sys q => trivial
  cases k with
  | rpc svc md r =>
    cases r
    case exchangeAuthorizationCode req => exact along_exchange_spend cr svc md req
    case verifyEmail req => exact along_verifyEmail_spend cr svc md req
    case resetPassword req => exact along_resetPassword_spend cr svc md req
    case loginTotp req => exact along_loginTotp_spend cr svc md req
    case disableTotp req => exact along_disableTotp_spend cr svc md req
    all_goals
      refine Prog.along_trivial (hother rfl ?_) (fun _ _ => trivial) _ _
      intro _ _ _ hk
      cases hk
  | start env =>
    refine Prog.along_trivial (hother rfl ?_) (fun _ _ => trivial) _ _
    intro _ _ _ hk
    cases hk
  | profileCreationFailed userId reason =>
    refine Prog.along_trivial (hother rfl ?_) (fun _ _ => trivial) _ _
    intro _ _ _ hk
    cases hk

/-! ## Every run -/

section Final

variable (cr : Crates) (conn : DbRole) (st : State) (ls : List Act)

/-- Call `i` exchanges a code of this hash and succeeds. -/
def exchanged (codeHash : String) (i : Nat) : Prop :=
  ∃ svc md req resp, (runFrom cr conn st ls).callOf i =
      some (.rpc svc md (.exchangeAuthorizationCode req)) ∧
    hashToken cr req.code = codeHash ∧ (runFrom cr conn st ls).result i = some (.ok resp)

/-- Call `i` is a reset_password with a token of this hash that writes a password. -/
def passwordReset (tokenHash : String) (i : Nat) : Prop :=
  ∃ svc md req, (runFrom cr conn st ls).callOf i = some (.rpc svc md (.resetPassword req)) ∧
    hashToken cr req.token = tokenHash ∧
    ((runFrom cr conn st ls).hist i).any updatesPassword = true

/-- Call `i` is a verify_email with a token of this hash that succeeds. -/
def emailVerified (tokenHash : String) (i : Nat) : Prop :=
  ∃ svc md req resp, (runFrom cr conn st ls).callOf i = some (.rpc svc md (.verifyEmail req)) ∧
    hashToken cr req.token = tokenHash ∧ (runFrom cr conn st ls).result i = some (.ok resp)

/-- Call `i` spends a recovery code of `u`. -/
def codeSpent (u : Uuid) (codeHash : String) (i : Nat) : Prop :=
  ((runFrom cr conn st ls).hist i).any (spendsRecovery u codeHash) = true

/-- A step of call `i` runs the statement that consumes a token of this hash, and finds it
unconsumed, with an `expires_at` that its clock has not reached. -/
def consumedInTime (t : TokenTable) (tokenHash : String) (i : Nat) : Prop :=
  ∃ pre c post, ls = pre ++ .step i c :: post ∧
    (runFrom cr conn st pre).pending i = some (.sql (t.consumption tokenHash)) ∧
    ∃ row ∈ t.rows (runFrom cr conn st pre).state.db, row.tokenHash = tokenHash ∧
      row.consumedAt = none ∧ c.now < row.expiresAt

/-- Every credential is spent by at most one call for each time it was created,
and the calls that succeed have spent one in time. -/
structure SpendsOnce : Prop where
  codes : ∀ h i j, exchanged cr conn st ls h i → exchanged cr conn st ls h j → i = j
  resets : ∀ h i j, i ≠ j → passwordReset cr conn st ls h i → passwordReset cr conn st ls h j →
    Pool.SpentApart (spendsToken h .resets) (insertsToken h .resets) (runFrom cr conn st ls).log i j
  oneUpdate : ∀ h i, passwordReset cr conn st ls h i →
    (((runFrom cr conn st ls).hist i).filter updatesPassword).length = 1
  verifications : ∀ h i j, i ≠ j → emailVerified cr conn st ls h i →
    emailVerified cr conn st ls h j →
    Pool.SpentApart (spendsToken h .verifications) (insertsToken h .verifications)
      (runFrom cr conn st ls).log i j
  recoveryCodes : ∀ u h i j, i ≠ j → codeSpent cr conn st ls u h i → codeSpent cr conn st ls u h j →
    Pool.SpentApart (spendsRecovery u h) (createsRecovery u h) (runFrom cr conn st ls).log i j
  ownCode : ∀ u h i k, (runFrom cr conn st ls).callOf i = some k → k.usesFactor = true →
    codeSpent cr conn st ls u h i → actsFor cr k ((runFrom cr conn st ls).hist i) u
  signedIn : ∀ i svc md req resp,
    (runFrom cr conn st ls).callOf i = some (.rpc svc md (.loginTotp req)) →
    (runFrom cr conn st ls).result i = some (.ok resp) →
    spentFactor cr (.rpc svc md (.loginTotp req)) (hashToken cr req.code)
      ((runFrom cr conn st ls).hist i)
  disabled : ∀ i svc md req resp,
    (runFrom cr conn st ls).callOf i = some (.rpc svc md (.disableTotp req)) →
    (runFrom cr conn st ls).result i = some (.ok resp) →
    (∃ u row, ⟨.sql (.getUserById u), .ok (some row)⟩ ∈ (runFrom cr conn st ls).hist i ∧
      row.totpEnabled = false) ∨
    spentFactor cr (.rpc svc md (.disableTotp req)) (hashToken cr req.code)
      ((runFrom cr conn st ls).hist i)
  resetInTime : ∀ h i, passwordReset cr conn st ls h i → consumedInTime cr conn st ls .resets h i
  verifiedInTime : ∀ h i, emailVerified cr conn st ls h i →
    consumedInTime cr conn st ls .verifications h i

variable {cr conn st ls}

theorem tracks_spendBody (cr : Crates) (conn : DbRole) (st : State) (ls : List Act) :
    Pool.Tracks (spendMonitor cr) (spendPost cr) (fun _ => []) (runFrom cr conn st ls) :=
  Pool.tracks_run (along_spendBody cr) st ls

theorem exchanged.spends {h : String} {i : Nat} (hi : exchanged cr conn st ls h i) :
    ∃ e ∈ (runFrom cr conn st ls).hist i, claimsCode h e = true := by
  obtain ⟨svc, md, req, resp, hk, rfl, hr⟩ := hi
  obtain ⟨k, hk', hpost⟩ := (tracks_spendBody cr conn st ls).result_history hr
  cases hk.symm.trans hk'
  exact List.any_eq_true.mp hpost

theorem emailVerified.spends {h : String} {i : Nat} (hi : emailVerified cr conn st ls h i) :
    ∃ e ∈ (runFrom cr conn st ls).hist i, spendsToken h .verifications e = true := by
  obtain ⟨svc, md, req, resp, hk, rfl, hr⟩ := hi
  obtain ⟨k, hk', hpost⟩ := (tracks_spendBody cr conn st ls).result_history hr
  cases hk.symm.trans hk'
  exact List.any_eq_true.mp hpost

/-- When a reset writes the password, it has spent its token and has not written
one before. -/
theorem reset_rule {i : Nat} {svc : AuthSvc} {md : MetadataMap} {req : ResetPasswordRequest}
    (hk : (runFrom cr conn st ls).callOf i = some (.rpc svc md (.resetPassword req)))
    {e : Event Resp} {h₁ h₂ : List (Event Resp)} (he : updatesPassword e = true)
    (hhist : (runFrom cr conn st ls).hist i = h₁ ++ e :: h₂) :
    h₁.any (spendsToken (hashToken cr req.token) .resets) = true ∧ h₁.any updatesPassword = false := by
  obtain ⟨k, hk', hrule⟩ := (tracks_spendBody cr conn st ls).split_history hhist
  cases hk.symm.trans hk'
  obtain ⟨o, r⟩ := e
  cases o with
  | sql s =>
    cases s <;> try exact (Bool.false_ne_true he).elim
    exact hrule svc md req rfl
  | redis q => exact (Bool.false_ne_true he).elim
  | sys q => exact (Bool.false_ne_true he).elim

theorem passwordReset.spends {h : String} {i : Nat} (hi : passwordReset cr conn st ls h i) :
    ∃ e ∈ (runFrom cr conn st ls).hist i, spendsToken h .resets e = true := by
  obtain ⟨svc, md, req, hk, rfl, hany⟩ := hi
  obtain ⟨e, he, hupdates⟩ := List.any_eq_true.mp hany
  obtain ⟨h₁, h₂, hhist⟩ := List.append_of_mem he
  obtain ⟨x, hx, hspends⟩ := List.any_eq_true.mp (reset_rule hk hupdates hhist).1
  exact ⟨x, by rw [hhist]; exact List.mem_append_left _ hx, hspends⟩

/-- No member of the list that satisfies `q` comes after another one. -/
theorem length_filter_le_one {β : Type} {q : β → Bool} {xs : List β}
    (h : ∀ ys x zs, xs = ys ++ x :: zs → q x = true → ys.any q = false) :
    (xs.filter q).length ≤ 1 := by
  by_contra hlen
  obtain ⟨x, y, rest, hrest⟩ : ∃ x y rest, xs.filter q = x :: y :: rest := by
    match hxs : xs.filter q with
    | [] => simp [hxs] at hlen
    | [_] => simp [hxs] at hlen
    | x :: y :: rest => exact ⟨x, y, rest, rfl⟩
  obtain ⟨as, bs, rfl, -, hx, hbs⟩ := List.filter_eq_cons_iff.mp hrest
  obtain ⟨cs, ds, rfl, -, hy, -⟩ := List.filter_eq_cons_iff.mp hbs
  have hnone := h (as ++ x :: cs) y ds (by simp) hy
  simp [hx] at hnone

theorem passwordReset.once {h : String} {i : Nat} (hi : passwordReset cr conn st ls h i) :
    (((runFrom cr conn st ls).hist i).filter updatesPassword).length = 1 := by
  obtain ⟨svc, md, req, hk, rfl, hany⟩ := hi
  obtain ⟨e, he, hupdates⟩ := List.any_eq_true.mp hany
  have hpos : 0 < (((runFrom cr conn st ls).hist i).filter updatesPassword).length :=
    List.length_pos_of_mem (List.mem_filter.mpr ⟨he, hupdates⟩)
  have hle : (((runFrom cr conn st ls).hist i).filter updatesPassword).length ≤ 1 :=
    length_filter_le_one fun h₁ x h₂ hhist hx => (reset_rule hk hx hhist).2
  omega

theorem spendsToken_ok {h : String} {t : TokenTable} {e : Event Resp}
    (he : spendsToken h t e = true) : ∃ (s : Sql) (r : Reply s), e = ⟨.sql s, .ok r⟩ := by
  obtain ⟨o, r⟩ := e
  cases o with
  | sql s =>
    cases r with
    | ok r => exact ⟨s, r, rfl⟩
    | error d => cases t <;> cases s <;> cases he
  | redis q => cases t <;> cases he
  | sys q => cases t <;> cases he

theorem spendsToken_consumption {h : String} {t : TokenTable} {s : Sql} {r : Reply s}
    (he : spendsToken h t ⟨.sql s, .ok r⟩ = true) : s = t.consumption h := by
  cases t with
  | resets =>
    cases s <;> try cases he
    case consumePasswordReset h' =>
      cases r <;> simp [spendsToken] at he
      rw [he]
      rfl
  | verifications =>
    cases s <;> try cases he
    case consumeEmailVerification h' =>
      cases r <;> simp [spendsToken] at he
      rw [he]
      rfl

theorem consumedInTime_of_spends {h : String} {t : TokenTable} {i : Nat} {e : Event Resp}
    (he : e ∈ (runFrom cr conn st ls).hist i) (hspends : spendsToken h t e = true) :
    consumedInTime cr conn st ls t h i := by
  obtain ⟨s, r, rfl⟩ := spendsToken_ok hspends
  rcases Pool.event_origin (Pool.mem_hist.1 he) with hlog | ⟨pre, c, post, hls, hp, hreply, -⟩
  · cases hlog
  · obtain ⟨-, db', hx, -⟩ := exec_sql_ok hreply.symm
    obtain ⟨u, hout⟩ := spendsToken_exec hx hspends
    obtain ⟨row, hrow, hhash, -, hfree, htime⟩ := consume_some (congrArg Prod.fst hout)
    have hconsume := congrArg (fun s => some (Op.sql s)) (spendsToken_consumption hspends)
    exact ⟨pre, c, post, hls, hp.trans hconsume, row, hrow, hhash, hfree, htime⟩

theorem ownCode_of_spent {u : Uuid} {h : String} {i : Nat} {k : Call}
    (hk : (runFrom cr conn st ls).callOf i = some k) (hfactor : k.usesFactor = true)
    (hspent : codeSpent cr conn st ls u h i) :
    actsFor cr k ((runFrom cr conn st ls).hist i) u := by
  obtain ⟨⟨o, r⟩, he, hspends⟩ := List.any_eq_true.mp hspent
  obtain ⟨h₁, h₂, hhist⟩ := List.append_of_mem he
  obtain ⟨k', hk', hrule⟩ := (tracks_spendBody cr conn st ls).split_history hhist
  cases hk.symm.trans hk'
  rw [hhist]
  cases o with
  | sql s =>
    cases s <;> try exact (Bool.false_ne_true hspends).elim
    case consumeRecoveryCode v codeHash =>
      obtain rfl : v = u := by
        rcases r with d | _ | _
        · cases hspends
        · cases hspends
        · simp only [spendsRecovery, Bool.and_eq_true, beq_iff_eq] at hspends
          exact hspends.1
      exact actsFor_append cr (hrule hfactor) _
  | redis q => exact (Bool.false_ne_true hspends).elim
  | sys q => exact (Bool.false_ne_true hspends).elim

/-- In every interleaving of any number of calls, over any clocks. -/
theorem spendsOnce (hst : ∀ t : TokenTable, tokenKeys (t.rows st.db)) :
    SpendsOnce cr conn st ls where
  codes h i j hi hj := by
    obtain ⟨e, he, hs⟩ := hi.spends
    obtain ⟨e', he', hs'⟩ := hj.spends
    exact (Pool.spentOnce_run (spending_code h) trivial ls).unique he he' hs hs'
  resets h i j hij hi hj := by
    obtain ⟨e, he, hs⟩ := hi.spends
    obtain ⟨e', he', hs'⟩ := hj.spends
    exact (Pool.spentOnce_run (spending_token h .resets) (hst _) ls).apart hij he he' hs hs'
  oneUpdate h i hi := hi.once
  verifications h i j hij hi hj := by
    obtain ⟨e, he, hs⟩ := hi.spends
    obtain ⟨e', he', hs'⟩ := hj.spends
    exact (Pool.spentOnce_run (spending_token h .verifications) (hst _) ls).apart hij he he' hs hs'
  recoveryCodes u h i j hij hi hj := by
    obtain ⟨e, he, hs⟩ := List.any_eq_true.mp hi
    obtain ⟨e', he', hs'⟩ := List.any_eq_true.mp hj
    exact (Pool.spentOnce_run (spending_recovery u h) trivial ls).apart hij he he' hs hs'
  ownCode u h i k hk hfactor hspent := ownCode_of_spent hk hfactor hspent
  signedIn i svc md req resp hk hr := by
    obtain ⟨k, hk', hpost⟩ := (tracks_spendBody cr conn st ls).result_history hr
    cases hk.symm.trans hk'
    exact hpost
  disabled i svc md req resp hk hr := by
    obtain ⟨k, hk', hpost⟩ := (tracks_spendBody cr conn st ls).result_history hr
    cases hk.symm.trans hk'
    exact hpost
  resetInTime h i hi := by
    obtain ⟨e, he, hs⟩ := hi.spends
    exact consumedInTime_of_spends he hs
  verifiedInTime h i hi := by
    obtain ⟨e, he, hs⟩ := hi.spends
    exact consumedInTime_of_spends he hs

end Final

/-! Two resets with one token, statement by statement in turn. -/

def withResetToken : State :=
  let st := Sample.stateOf (Sample.user 10 none false)
  { st with db := { st.db with passwordResets := [⟨"t0", 10, seconds 3600, none⟩] } }

def resetting : Call := .rpc Sample.svc [] (.resetPassword ⟨"t0", "password"⟩)

def twoResets : List Act :=
  let c := Sample.choice 0 0 ""
  [.start resetting, .start resetting, .step 0 c, .step 1 c, .step 0 c, .step 0 c, .step 0 c]

theorem spendsOnce_sample : SpendsOnce Sample.crates .superuser withResetToken twoResets :=
  spendsOnce (by intro t; cases t <;> decide)

/-- The first call to consume the token is the one that goes through. -/
example : (runFrom Sample.crates .superuser withResetToken twoResets).result 0 =
      some (.ok (.success true)) ∧
    (runFrom Sample.crates .superuser withResetToken twoResets).result 1 =
      some (.error (invalidArgument "invalid or expired token")) := by decide

end IamAuth
