import IamAuth.WriteIsolation

/-!
# Who may write what

A table of the administration only changes through a call that holds one of its
permissions, whatever runs beside it. A call about the caller's own account leaves the
accounts of the others alone.
-/

set_option autoImplicit false

namespace IamAuth

open Interleave Relational

def Table.all : List Table :=
  [.users, .refreshTokens, .revokedTokens, .emailVerifications, .passwordResets,
    .totpRecoveryCodes, .apiKeys, .tenants, .projects, .memberships, .roles, .rolePermissions,
    .userRoles, .oauthClients, .oauthAuthorizationCodes, .oauthConsents, .auditEvents, .outbox]

theorem Table.mem_all (t : Table) : t ∈ Table.all := by
  cases t <;> decide

/-- The permissions that open a table of the administration, none for the others. A
hard deletion of a user cascades. -/
def Table.guards : Table → List String
  | .roles | .rolePermissions => ["role:write"]
  | .oauthClients => ["role:write"]
  | .projects => ["project:write"]
  | .tenants => ["tenant:write"]
  | .memberships => ["member:write", "tenant:write", "user:delete"]
  | .userRoles => ["role:assign", "role:write", "tenant:write", "user:delete"]
  | _ => []

/-- A table that such permissions leave open. -/
def Table.isOpen (held : String → Bool) (t : Table) : Bool := t.guards.isEmpty || t.guards.any held

def openTables (held : String → Bool) : List Table := Table.all.filter (Table.isOpen held)

theorem mem_openTables {held : String → Bool} {t : Table} :
    t ∈ openTables held ↔ t.isOpen held = true := by
  simp [openTables, Table.mem_all]

theorem Table.isOpen_of_guard {held : String → Bool} {t : Table} {perm : String}
    (hperm : held perm = true) (ht : perm ∈ t.guards) : t.isOpen held = true := by
  simp only [Table.isOpen, Bool.or_eq_true, List.any_eq_true]
  exact .inr ⟨perm, ht, hperm⟩

theorem Table.isOpen_mono {held held' : String → Bool} (h : ∀ p, held p = true → held' p = true)
    {t : Table} (ht : t.isOpen held = true) : t.isOpen held' = true := by
  simp only [Table.isOpen, Bool.or_eq_true, List.any_eq_true] at ht ⊢
  rcases ht with ht | ⟨perm, hmem, hperm⟩
  · exact .inl ht
  · exact .inr ⟨perm, hmem, h perm hperm⟩

theorem Sql.quiet_writes {s : Sql} (h : s.quiet = true) : ∀ t ∈ s.writes, t = .auditEvents := by
  intro t ht
  simp only [Sql.quiet, Bool.or_eq_true, beq_iff_eq] at h
  rcases h with hw | hw <;> rw [hw] at ht
  · cases ht
  · exact List.mem_singleton.mp ht

/-- Registration is open to everyone, and its default role is a row of `user_roles`. -/
def Rpc.isRegister : Rpc → Bool
  | .register _ => true
  | _ => false

/-- What an RPC may write is open to the permissions of its metadata. -/
theorem Rpc.writes_open {cr : Crates} {svc : AuthSvc} {md : MetadataMap} {r : Rpc} {s : Sql}
    (hr : r.isRegister = false) (hs : (Call.rpc svc md r).Issues cr (.sql s)) :
    ∀ t ∈ s.writes, t.isOpen (hasPerm md) = true := by
  rcases hs with hquiet | hs
  · intro t ht
    rw [Sql.quiet_writes hquiet t ht]
    rfl
  · have hfree : (∀ t ∈ s.writes, t.guards = []) → ∀ t ∈ s.writes, t.isOpen (hasPerm md) = true := by
      intro h t ht
      simp [Table.isOpen, h t ht]
    have hheld : ∀ perm, hasPerm md perm = true →
        (∀ t ∈ s.writes, t.guards = [] ∨ perm ∈ t.guards) →
        ∀ t ∈ s.writes, t.isOpen (hasPerm md) = true := by
      intro perm hperm h t ht
      rcases h t ht with hnone | hguard
      · simp [Table.isOpen, hnone]
      · exact Table.isOpen_of_guard hperm hguard
    cases r
    case register => cases hr
    all_goals
      cases s <;> first
        | exact hs.elim
        | refine hfree ?_; simp [Sql.writes, Table.guards]; done
        | refine hheld _ hs.1 ?_; simp [Sql.writes, Table.guards]

/-! ## Runs -/

/-- An RPC other than a registration, with no permission but the given ones. -/
def Call.Within (held : String → Bool) : Call → Prop
  | .rpc _ md r => r.isRegister = false ∧ ∀ perm, hasPerm md perm = true → held perm = true
  | .start _ => False
  | .profileCreationFailed .. => True

theorem Call.Within.writes_open {cr : Crates} {held : String → Bool} {k : Call} {s : Sql}
    (hk : k.Within held) (hs : k.Issues cr (.sql s)) :
    ∀ t ∈ s.writes, t ∈ openTables held := by
  intro t ht
  rw [mem_openTables]
  cases k with
  | rpc svc md r => exact Table.isOpen_mono hk.2 (Rpc.writes_open hk.1 hs t ht)
  | start env => exact hk.elim
  | profileCreationFailed userId reason =>
    rcases hs with hquiet | hs
    · rw [Sql.quiet_writes hquiet t ht]
      rfl
    · exact hs.elim

/-- Complete mediation: calls that hold no permission for a table of the administration
do not change it, whatever they ask for and however they interleave. -/
theorem mediated_run {cr : Crates} {conn : DbRole} {st : State} {ls : List Act}
    {held : String → Bool} (hls : ∀ k, .start k ∈ ls → k.Within held) :
    Frame (openTables held) st.db (runFrom cr conn st ls).state.db := by
  induction ls using List.reverseRecOn with
  | nil => exact .refl _ _
  | append_singleton ls l ih =>
    refine (ih fun k hk => hls k (List.mem_append_left _ hk)).trans ?_
    rw [runFrom_append, Pool.run_cons, Pool.run_nil]
    rcases db_next cr conn (Call.body cr) (runFrom cr conn st ls) l with
      hsame | ⟨i, c, s, r, db', -, hp, hx, -, hnew⟩
    · rw [hsame]
      exact .refl _ _
    · rw [hnew]
      obtain ⟨k, hcall, hs⟩ := pending_issues hp c
      have hk := hls k (List.mem_append_left _ (Pool.start_of_callOf hcall))
      exact (Sql.exec_frame hx).mono (hk.writes_open hs)

namespace Sample

def memberWriter : MetadataMap := metadata 10 1 "member:write"

/-- Somebody who may only write members adds one, and asks for a role. -/
def memberCalls : List Act :=
  alone 0 (.rpc svc memberWriter (.addMember ⟨"u@iam.local"⟩)) (List.replicate 3 (choice 0 0 "")) ++
  alone 1 (.rpc svc memberWriter (.createRole ⟨"auditor", "reads"⟩)) [choice 0 0 ""]

theorem mediated_run_member : Frame (openTables fun perm => perm == "member:write")
    (State.db ⟨migrated, []⟩) (runFrom crates .superuser ⟨migrated, []⟩ memberCalls).state.db := by
  have hmember : ∀ perm, hasPerm memberWriter perm = true → (perm == "member:write") = true := by
    intro perm hperm
    have hheld : hasPerm memberWriter perm = ("member:write" == perm) := by
      have hsplit : splitAtChar ',' "member:write" = ["member:write"] := by decide
      simp [hasPerm, memberWriter, metadata, List.lookup_cons, hsplit]
    rw [hheld, beq_iff_eq] at hperm
    rw [← hperm]
    rfl
  apply mediated_run
  intro k hk
  simp only [memberCalls, alone, List.mem_append, List.mem_cons, List.mem_map, reduceCtorEq,
    and_false, exists_false, or_false, Label.start.injEq] at hk
  rcases hk with rfl | rfl
  · exact ⟨rfl, hmember⟩
  · exact ⟨rfl, hmember⟩

end Sample

end IamAuth
