import IamAuth.Registration
import IamAuth.UserKeys

/-!
# Starts that crash

A start creates its two accounts one after the other: the user and its role in one
transaction, the membership in a statement of its own. It skips an account whose
e-mail is taken. A start that is never scheduled again has crashed.
-/

set_option autoImplicit false

namespace IamAuth

open Interleave Relational

/-! ## Starts with one environment -/

def startBody (cr : Crates) (env : BootstrapEnv) (_ : Unit) : Handler Response :=
  Call.body cr (.start env)

abbrev StartWorld := Pool Unit Resp Failure Response State

abbrev StartAct := Label Unit Choice Outage

/-- The e-mails of the two accounts and their built-in roles. -/
def accounts (env : BootstrapEnv) : List (String × String) :=
  [(env.adminEmail, "admin"), (env.demoEmail, "viewer")]

/-- The user that a committed transaction has created. -/
def creationBy : Event Resp → Option (Uuid × String)
  | ⟨.sql (.createUserWithRole email ..), .ok id⟩ => some (id, email)
  | _ => none

/-- The user that a start has created by its last statement so far. -/
def lastCreated (h : List (Event Resp)) : Option (Uuid × String) := h.getLast?.bind creationBy

/-- The event shows that there is a user with the e-mail. -/
def seen (email : String) : Event Resp → Bool
  | ⟨.sql (.getUserByEmail e), .ok (some _)⟩ => e == email
  | ⟨.sql (.createUserWithRole e ..), .ok _⟩ => e == email
  | _ => false

def seedsClient : Event Resp → Bool
  | ⟨.sql (.insertConsoleClient _), .ok _⟩ => true
  | _ => false

/-- What the history `h` of a start says when it issues a statement. -/
def StartRule (env : BootstrapEnv) (h : List (Event Resp)) : Op → Prop
  | .sql (.createMembership id tenant) =>
    tenant = defaultTenantId ∧ ∃ email, lastCreated h = some (id, email)
  | .sql (.createUserWithRole email _ role) => lastCreated h = none ∧ (email, role) ∈ accounts env
  | .sql (.getUserByEmail _) => lastCreated h = none
  | .sql (.insertConsoleClient client) => lastCreated h = none ∧ client.clientId = env.consoleClientId
  | .sys _ => lastCreated h = none
  | _ => False

/-- What a start that has ended has done, as far as it has got. -/
structure StartPost (env : BootstrapEnv) (h : List (Event Resp)) (r : Except Failure Response) : Prop where
  last : lastCreated h = none
  accounts : ∀ resp, r = .ok resp → ∀ a ∈ accounts env, ∃ e ∈ h, seen a.1 e = true
  client : ∀ resp, r = .ok resp → ∃ e ∈ h, seedsClient e = true

def startMonitor (env : BootstrapEnv) : Monitor Resp (List (Event Resp)) :=
  .history fun h e => StartRule env h e.1

@[simp] theorem startMonitor_upd (env : BootstrapEnv) (h : List (Event Resp)) (e : Event Resp) :
    (startMonitor env).upd h e = h ++ [e] := rfl

@[simp] theorem startMonitor_ok (env : BootstrapEnv) (h : List (Event Resp)) (e : Event Resp) :
    (startMonitor env).ok h e = StartRule env h e.1 := rfl

@[simp] theorem lastCreated_snoc (h : List (Event Resp)) (e : Event Resp) :
    lastCreated (h ++ [e]) = creationBy e := by
  simp [lastCreated]

/-- What one of the two functions has done when it ends. -/
structure BootstrappedUser (email : String) (h h' : List (Event Resp)) (r : Except Failure Unit) : Prop where
  last : lastCreated h' = none
  more : ∀ e ∈ h, e ∈ h'
  account : r = .ok () → ∃ e ∈ h', seen email e = true

theorem along_bootstrapUser {env : BootstrapEnv} {email pass role : String}
    (hemail : email ≠ "") (hpass : pass ≠ "") (haccount : (email, role) ∈ accounts env)
    {h : List (Event Resp)} (hlast : lastCreated h = none) :
    (bootstrapUser email pass role).Along (startMonitor env) (BootstrappedUser email h) h := by
  unfold bootstrapUser
  rw [if_neg (by simp [hemail, hpass])]
  have hend : ∀ {h' : List (Event Resp)} {e : Event Resp} {r : Except Failure Unit},
      (∀ e ∈ h, e ∈ h') → creationBy e = none → (r = .ok () → ∃ x ∈ h' ++ [e], seen email x = true) →
      BootstrappedUser email h (h' ++ [e]) r := by
    intro h' e r hmore hcreation haccount
    exact ⟨by rw [lastCreated_snoc, hcreation], fun x hx => List.mem_append_left _ (hmore x hx), haccount⟩
  refine (Prog.along_bind _ _ _ _ _).mpr ((along_query _ _ _).mpr
    ⟨fun found => ⟨hlast, ?_⟩, fun d => ⟨hlast, hend (fun _ h => h) rfl fun h => by cases h⟩⟩)
  cases found with
  | some user =>
    refine hend (fun _ h => h) rfl fun _ => ?_
    exact ⟨⟨.sql (.getUserByEmail email), .ok (some user)⟩, by simp, beq_self_eq_true email⟩
  | none =>
    refine (Prog.along_bind _ _ _ _ _).mpr ((along_sys _ _).mpr fun hash? => ⟨lastCreated_snoc _ _, ?_⟩)
    refine (Prog.along_bind _ _ _ _ _).mpr ((Prog.along_okOr _ _ _ _ _).mpr
      ⟨fun _ => hend (fun _ h => by simp [h]) rfl (fun h => by cases h), fun hash _ => ?_⟩)
    refine (Prog.along_bind _ _ _ _ _).mpr ((along_query _ _ _).mpr
      ⟨fun id => ⟨⟨lastCreated_snoc _ _, haccount⟩, ?_⟩,
        fun d => ⟨⟨lastCreated_snoc _ _, haccount⟩, hend (fun _ h => by simp [h]) rfl fun h => by cases h⟩⟩)
    refine (along_query _ _ _).mpr ⟨fun _ => ⟨⟨rfl, email, lastCreated_snoc _ _⟩, ?_⟩,
      fun d => ⟨⟨rfl, email, lastCreated_snoc _ _⟩, ?_⟩⟩
    · refine hend (fun _ h => by simp [h]) rfl fun _ => ?_
      exact ⟨⟨.sql (.createUserWithRole email hash role), .ok id⟩, by simp, beq_self_eq_true email⟩
    · exact hend (fun _ h => by simp [h]) rfl fun h => by cases h

theorem along_start (cr : Crates) {env : BootstrapEnv} (hadmin : env.adminEmail ≠ "")
    (hadminPass : env.adminPassword ≠ "") (hdemo : env.demoEmail ≠ "") (hdemoPass : env.demoPassword ≠ "")
    (k : Unit) : (startBody cr env k).Along (startMonitor env) (StartPost env) [] := by
  refine (Prog.along_bind _ _ _ _ _).mpr ((Prog.along_bind _ _ _ _ _).mpr ?_)
  refine (along_bootstrapUser hadmin hadminPass (by simp [accounts]) rfl).mono fun h₁ r₁ hfirst => ?_
  cases r₁ with
  | error f => exact ⟨hfirst.last, fun _ h => (by cases h), fun _ h => (by cases h)⟩
  | ok _ =>
    refine (Prog.along_bind _ _ _ _ _).mpr ((along_query _ _ _).mpr
      ⟨fun _ => ⟨⟨hfirst.last, rfl⟩, ?_⟩, fun d => ⟨⟨hfirst.last, rfl⟩, ?_⟩⟩)
    · refine (along_bootstrapUser hdemo hdemoPass (by simp [accounts]) (lastCreated_snoc _ _)).mono
        fun h₂ r₂ hsecond => ?_
      cases r₂ with
      | error f => exact ⟨hsecond.last, fun _ h => (by cases h), fun _ h => (by cases h)⟩
      | ok _ =>
        refine ⟨hsecond.last, fun _ _ a ha => ?_, fun _ _ => ?_⟩
        · simp only [accounts, List.mem_cons, List.not_mem_nil, or_false] at ha
          rcases ha with rfl | rfl
          · obtain ⟨e, he, hseen⟩ := hfirst.account rfl
            exact ⟨e, hsecond.more e (by simp [he]), hseen⟩
          · exact hsecond.account rfl
        · exact ⟨_, hsecond.more _ (List.mem_append_right _ (List.mem_singleton_self _)), rfl⟩
    · exact ⟨lastCreated_snoc _ _, fun _ h => (by cases h), fun _ h => (by cases h)⟩

/-! ## What starts keep -/

/-- Keys and references of the tables that a start writes. -/
structure UserRefs (db : Db) : Prop where
  keys : UserKeys db
  roleUsers : ∀ ur ∈ db.userRoles, ∃ u ∈ db.users, u.id = ur.userId
  memberUsers : ∀ m ∈ db.memberships, ∃ u ∈ db.users, u.id = m.userId

/-- A migrated database in which neither e-mail is taken. -/
structure FreshStart (env : BootstrapEnv) (db : Db) : Prop where
  refs : UserRefs db
  seeded : ∀ a ∈ accounts env, Seeded a.2 db
  free : ∀ a ∈ accounts env, ∀ u ∈ db.users, u.email ≠ a.1

/-- The account exists, with its role and its membership. -/
def HasAccount (db : Db) (a : String × String) : Prop :=
  ∃ u ∈ db.users, u.email = a.1 ∧ HoldsBuiltin u.id a.2 db ∧
    ⟨u.id, defaultTenantId, "active"⟩ ∈ db.memberships

structure Booted (env : BootstrapEnv) (db : Db) : Prop where
  rows : ∀ a ∈ accounts env, HasAccount db a
  client : db.oauthClients.any (fun k => k.clientId == env.consoleClientId) = true

/-- What the tables hold when `last` is the user that the running start has just
created, if any: only that one may lack its membership. -/
structure AccountRows (env : BootstrapEnv) (last : Option (Uuid × String)) (db : Db) : Prop where
  refs : UserRefs db
  seeded : ∀ a ∈ accounts env, Seeded a.2 db
  holds : ∀ a ∈ accounts env, ∀ u ∈ db.users, u.email = a.1 → HoldsBuiltin u.id a.2 db
  active : ∀ a ∈ accounts env, ∀ u ∈ db.users, u.email = a.1 → ∀ m ∈ db.memberships,
    m.userId = u.id → m.status = "active"
  member : ∀ a ∈ accounts env, ∀ u ∈ db.users, u.email = a.1 →
    ⟨u.id, defaultTenantId, "active"⟩ ∈ db.memberships ∨ last = some (u.id, u.email)
  created : ∀ p, last = some p →
    (∃ a ∈ accounts env, a.1 = p.2) ∧ ∃ u ∈ db.users, u.id = p.1 ∧ u.email = p.2

section Keeps

variable {env : BootstrapEnv} {db db' : Db} {id : Uuid} {email role : String} {conn : DbRole}
  {c : Choice} {last : Option (Uuid × String)}

theorem AccountRows.of_frame {ts : List Table} (h : AccountRows env last db) (hframe : Frame ts db db')
    (husers : .users ∉ ts) (hroles : .roles ∉ ts) (htenants : .tenants ∉ ts)
    (huserRoles : .userRoles ∉ ts) (hmembers : .memberships ∉ ts) : AccountRows env last db' where
  refs := ⟨⟨by rw [hframe.users husers]; exact h.refs.keys.ids,
      by rw [hframe.users husers]; exact h.refs.keys.emails⟩,
    by rw [hframe.userRoles huserRoles, hframe.users husers]; exact h.refs.roleUsers,
    by rw [hframe.memberships hmembers, hframe.users husers]; exact h.refs.memberUsers⟩
  seeded a ha := (h.seeded a ha).of_frame hframe hroles htenants
  holds a ha u hu hemail := by
    rw [hframe.users husers] at hu
    refine (h.holds a ha u hu hemail).mono (hframe.roles hroles) ?_
    rw [hframe.userRoles huserRoles]
    exact List.Subset.refl _
  active := by rw [hframe.users husers, hframe.memberships hmembers]; exact h.active
  member := by rw [hframe.users husers, hframe.memberships hmembers]; exact h.member
  created := by rw [hframe.users husers]; exact h.created

theorem NewUserRows.refs (h : NewUserRows id email role db db') (hrefs : UserRefs db)
    (hkeys : UserKeys db') : UserRefs db' where
  keys := hkeys
  roleUsers := by
    obtain ⟨row, hid, -, husers⟩ := h.user
    obtain ⟨new, hroles, hnew⟩ := h.roles
    intro ur hur
    rw [hroles] at hur
    rcases List.mem_append.mp hur with hur | hur
    · obtain ⟨u, hu, hid⟩ := hrefs.roleUsers ur hur
      exact ⟨u, by simp [husers, hu], hid⟩
    · exact ⟨row, by simp [husers], hid.trans (hnew ur hur).symm⟩
  memberUsers := by
    obtain ⟨row, -, -, husers⟩ := h.user
    intro m hm
    rw [h.frame.memberships (by simp)] at hm
    obtain ⟨u, hu, hid⟩ := hrefs.memberUsers m hm
    exact ⟨u, by simp [husers, hu], hid⟩

theorem NewUserRows.holds {u : Uuid} {name : String} (h : NewUserRows id email role db db')
    (hholds : HoldsBuiltin u name db) : HoldsBuiltin u name db' := by
  obtain ⟨new, hroles, -⟩ := h.roles
  apply hholds.mono (h.frame.roles (by simp))
  rw [hroles]
  exact List.subset_append_left _ _

/-- The transaction that creates an account. -/
theorem AccountRows.create (h : AccountRows env none db) (haccount : (email, role) ∈ accounts env)
    (hdistinct : env.adminEmail ≠ env.demoEmail) (hrows : NewUserRows id email role db db')
    (hkeys : UserKeys db') : AccountRows env (some (id, email)) db' := by
  obtain ⟨row, hid, hemail, husers⟩ := hrows.user
  have hmembers : db'.memberships = db.memberships := hrows.frame.memberships (by simp)
  have hsplit : ∀ u ∈ db'.users, u ∈ db.users ∨ u = row := by
    intro u hu
    rw [husers] at hu
    exact (List.mem_append.mp hu).imp_right List.mem_singleton.mp
  have hrole : ∀ a ∈ accounts env, row.email = a.1 → a.2 = role := by
    intro a ha ha'
    rw [hemail] at ha'
    simp only [accounts, List.mem_cons, Prod.mk.injEq, List.not_mem_nil, or_false] at haccount ha
    rcases haccount with ⟨rfl, rfl⟩ | ⟨rfl, rfl⟩ <;> rcases ha with rfl | rfl
    · rfl
    · exact absurd ha' hdistinct
    · exact absurd ha'.symm hdistinct
    · rfl
  refine ⟨hrows.refs h.refs hkeys, fun a ha => (h.seeded a ha).of_frame hrows.frame (by simp) (by simp),
    fun a ha u hu ha' => ?_, fun a ha u hu ha' m hm hmu => ?_, fun a ha u hu ha' => ?_, fun p hp => ?_⟩
  · rcases hsplit u hu with hu | rfl
    · exact hrows.holds (h.holds a ha u hu ha')
    · rw [hrole a ha ha', hid]
      apply hrows.builtin (h.seeded _ haccount)
      intro ur hur hur'
      obtain ⟨v, hv, hvid⟩ := h.refs.roleUsers ur hur
      exact (hrows.newUser v hv).1 (hvid.trans hur')
  · rw [hmembers] at hm
    rcases hsplit u hu with hu | rfl
    · exact h.active a ha u hu ha' m hm hmu
    · obtain ⟨v, hv, hvid⟩ := h.refs.memberUsers m hm
      exact absurd (hvid.trans (hmu.trans hid)) (hrows.newUser v hv).1
  · rw [hmembers]
    rcases hsplit u hu with hu | rfl
    · rcases h.member a ha u hu ha' with hmember | hlast
      · exact .inl hmember
      · cases hlast
    · exact .inr (by rw [hid, hemail])
  · cases hp
    exact ⟨⟨_, haccount, rfl⟩, row, by simp [husers], hid, hemail⟩

/-- The membership of the user just created. -/
theorem AccountRows.enrol (h : AccountRows env (some (id, email)) db) :
    ∃ db', Repo.createMembership id defaultTenantId db = .ok ((), db') ∧ AccountRows env none db' := by
  obtain ⟨⟨b, hb, -⟩, u, hu, (hid : u.id = id), -⟩ := h.created _ rfl
  have hlastUser : ∀ v ∈ db.users, some (id, email) = some (v.id, v.email) → v.id = id := by
    intro v _ hv
    exact (congrArg Prod.fst (Option.some.inj hv)).symm
  rcases createMembership_of_user ⟨u, hu, hid⟩ (h.seeded b hb).home with ⟨hrun, m, hm, hmu, hmt⟩ | hrun
  · refine ⟨db, hrun, h.refs, h.seeded, h.holds, h.active, fun a ha v hv ha' => ?_, fun _ hp => by cases hp⟩
    rcases h.member a ha v hv ha' with hmember | hlast
    · exact .inl hmember
    · have hvid := hlastUser v hv hlast
      have hactive := h.active a ha v hv ha' m hm (hmu.trans hvid.symm)
      have hrow : m = ⟨v.id, defaultTenantId, "active"⟩ := by
        rw [hvid, ← hmu, ← hmt, ← hactive]
      exact .inl (hrow ▸ hm)
  · have hframe := frame_memberships db (db.memberships ++ [⟨id, defaultTenantId, "active"⟩])
    refine ⟨_, hrun, ⟨⟨h.refs.keys.ids, h.refs.keys.emails⟩, h.refs.roleUsers, fun m hm => ?_⟩,
      fun a ha => (h.seeded a ha).of_frame hframe (by simp) (by simp), h.holds,
      fun a ha v hv ha' m hm hmv => ?_, fun a ha v hv ha' => ?_, fun _ hp => by cases hp⟩
    · rcases List.mem_append.mp hm with hm | hm
      · exact h.refs.memberUsers m hm
      · obtain rfl := List.mem_singleton.mp hm
        exact ⟨u, hu, hid⟩
    · rcases List.mem_append.mp hm with hm | hm
      · exact h.active a ha v hv ha' m hm hmv
      · obtain rfl := List.mem_singleton.mp hm
        rfl
    · rcases h.member a ha v hv ha' with hmember | hlast
      · exact .inl (List.mem_append_left _ hmember)
      · rw [hlastUser v hv hlast]
        exact .inl (List.mem_append_right _ (List.mem_singleton_self _))

end Keeps

/-! ## The invariant -/

/-- The start that runs: the last one. -/
def current (w : StartWorld) : Nat := w.threads.length - 1

structure StartInv (env : BootstrapEnv) (w : StartWorld) : Prop where
  tracks : Pool.Tracks (fun _ => startMonitor env) (fun _ => StartPost env) (fun _ => []) w
  rows : AccountRows env (lastCreated (w.hist (current w))) w.state.db
  seen : ∀ x ∈ w.log, ∀ a ∈ accounts env, seen a.1 x.2 = true → ∃ u ∈ w.state.db.users, u.email = a.1
  client : ∀ x ∈ w.log, seedsClient x.2 = true →
    w.state.db.oauthClients.any (fun k => k.clientId == env.consoleClientId) = true

/-- Starts come one after the other. -/
def oneAtATime (w : StartWorld) : StartAct → Prop
  | .step i _ => i + 1 = w.threads.length
  | _ => True

/-- No start crashes, and none loses the database, between the creation of a user and
that of its membership. -/
def noGap (w : StartWorld) : StartAct → Prop
  | .start _ => ∀ u t, w.pending (current w) ≠ some (.sql (.createMembership u t))
  | .step i c => ∀ u t, w.pending i = some (.sql (.createMembership u t)) → c.fails = false
  | .env _ => True

section Runs

variable {cr : Crates} {conn : DbRole} {env : BootstrapEnv} {st : State} {w : StartWorld}

theorem startInv_init (hfresh : FreshStart env st.db) : StartInv env (Pool.init st) where
  tracks := Pool.tracks_init st
  rows := ⟨hfresh.refs, hfresh.seeded, fun a ha u hu h => absurd h (hfresh.free a ha u hu),
    fun a ha u hu h => absurd h (hfresh.free a ha u hu),
    fun a ha u hu h => absurd h (hfresh.free a ha u hu), fun _ h => by cases h⟩
  seen := by simp [Pool.init]
  client := by simp [Pool.init]

theorem StartInv.pending (h : StartInv env w) {i : Nat} {o : Op} (hp : w.pending i = some o) :
    StartRule env (w.hist i) o := by
  obtain ⟨k, -, hok⟩ :=
    h.tracks.pending_history hp ((machine Sample.crates .superuser).exec o (Sample.choice 0 0 "") w.state).1
  exact hok

/-- What one statement of the running start leaves. -/
theorem accountRows_exec {h : List (Event Resp)} {s : Sql} {c : Choice} {db db' : Db} {r : Reply s}
    (hdistinct : env.adminEmail ≠ env.demoEmail) (hrule : StartRule env h (.sql s))
    (hx : s.exec conn c db = .ok (r, db')) (hrows : AccountRows env (lastCreated h) db) :
    AccountRows env (creationBy ⟨.sql s, .ok r⟩) db' := by
  cases s <;> try exact hrule.elim
  case createMembership id tenant =>
    obtain ⟨rfl, email, hlast⟩ := hrule
    rw [hlast] at hrows
    obtain ⟨db'', hrun, hnext⟩ := hrows.enrol
    cases hrun.symm.trans hx
    exact hnext
  case createUserWithRole email hash role =>
    obtain ⟨hlast, haccount⟩ := hrule
    rw [hlast] at hrows
    obtain ⟨db₁, rfl, hinsert, hroles⟩ := createUserWithRole_ok hx
    exact hrows.create haccount hdistinct (newUserRows hinsert hroles) (userKeys_exec hx hrows.refs.keys)
  case getUserByEmail email =>
    rw [show lastCreated h = none from hrule] at hrows
    cases hx
    exact hrows
  case insertConsoleClient client =>
    rw [hrule.1] at hrows
    exact hrows.of_frame (Sql.exec_frame hx) (by simp [Sql.writes]) (by simp [Sql.writes])
      (by simp [Sql.writes]) (by simp [Sql.writes]) (by simp [Sql.writes])

/-- Neither users nor clients go. -/
theorem startRows_grow {h : List (Event Resp)} {s : Sql} {c : Choice} {db db' : Db} {r : Reply s}
    (hrule : StartRule env h (.sql s)) (hx : s.exec conn c db = .ok (r, db')) :
    db.users ⊆ db'.users ∧ db.oauthClients ⊆ db'.oauthClients := by
  have hframe := Sql.exec_frame hx
  cases s <;> try exact hrule.elim
  case createMembership id tenant =>
    rw [hframe.users (by simp [Sql.writes]), hframe.oauthClients (by simp [Sql.writes])]
    exact ⟨List.Subset.refl _, List.Subset.refl _⟩
  case createUserWithRole email hash role =>
    obtain ⟨db₁, rfl, hinsert, hroles⟩ := createUserWithRole_ok hx
    obtain ⟨row, -, -, husers⟩ := (newUserRows hinsert hroles).user
    rw [husers, hframe.oauthClients (by simp [Sql.writes])]
    exact ⟨List.subset_append_left _ _, List.Subset.refl _⟩
  case getUserByEmail email =>
    cases hx
    exact ⟨List.Subset.refl _, List.Subset.refl _⟩
  case insertConsoleClient client =>
    rw [hframe.users (by simp [Sql.writes])]
    simp only [Sql.exec, Repo.insertConsoleClient, Repo.insertClient] at hx
    repeat' split at hx
    all_goals cases hx
    · exact ⟨List.Subset.refl _, List.Subset.refl _⟩
    · exact ⟨List.Subset.refl _, List.subset_append_left _ _⟩

/-- Between two starts no user waits for its membership. -/
theorem StartInv.last_none (h : StartInv env w)
    (hgap : ∀ u t, w.pending (current w) ≠ some (.sql (.createMembership u t))) :
    lastCreated (w.hist (current w)) = none := by
  cases hlast : lastCreated (w.hist (current w)) with
  | none => rfl
  | some p =>
    obtain ⟨e, he, -⟩ := Option.bind_eq_some_iff.mp hlast
    have hstarted := h.tracks.fresh _ e (Pool.mem_hist.1 (List.mem_of_getLast? he))
    cases hp : w.pending (current w) with
    | none =>
      obtain ⟨r, hr⟩ := Pool.result_of_idle hstarted hp
      obtain ⟨k, -, hpost⟩ := h.tracks.result_history hr
      cases hlast.symm.trans hpost.last
    | some o =>
      have hrule := h.pending hp
      cases o with
      | redis r => exact hrule.elim
      | sys s => cases hlast.symm.trans hrule
      | sql s =>
        cases s <;> try exact hrule.elim
        case createMembership u t => exact absurd hp (hgap u t)
        case createUserWithRole email hash role => cases hlast.symm.trans hrule.1
        case getUserByEmail email => cases hlast.symm.trans hrule
        case insertConsoleClient client => cases hlast.symm.trans hrule.1

theorem accountRows_next (h : StartInv env w) (hdistinct : env.adminEmail ≠ env.demoEmail)
    (l : StartAct) (hone : oneAtATime w l) (hgap : noGap w l) :
    let w' := Pool.next (machine cr conn) (startBody cr env) w l
    AccountRows env (lastCreated (w'.hist (current w'))) w'.state.db := by
  intro w'
  cases l with
  | env e =>
    cases e
    exact h.rows
  | start k =>
    have hnew : current w' = w.threads.length := by simp [w', current, Pool.next]
    have hnone : lastCreated (w'.hist (current w')) = none := by
      rw [hnew, Pool.hist_next_fresh h.tracks.fresh (Nat.le_refl _)]
      rfl
    rw [hnone, ← h.last_none hgap]
    exact h.rows
  | step i c =>
    have hi : i = current w := by
      have hlen : i + 1 = w.threads.length := hone
      simp only [current]
      omega
    subst hi
    have hcurrent : current w' = current w := by
      simp only [current, w', Pool.length_step]
    rw [hcurrent]
    cases hp : w.pending (current w) with
    | none =>
      have hsame : w' = w := Pool.next_idle hp c
      rw [hsame]
      exact h.rows
    | some o =>
      have hrule := h.pending hp
      have hstate : w'.state = ((machine cr conn).exec o c w.state).2 := (Pool.next_step hp c).1
      have hlog : w'.log = w.log ++ [(current w, ⟨o, ((machine cr conn).exec o c w.state).1⟩)] :=
        (Pool.next_step hp c).2
      have hhist : w'.hist (current w) =
          w.hist (current w) ++ [⟨o, ((machine cr conn).exec o c w.state).1⟩] := by
        simp [Pool.hist, hlog, List.filterMap_append, Pool.ownEvent]
      rw [hhist, lastCreated_snoc, hstate]
      have hrows := h.rows
      cases o with
      | redis r => exact hrule.elim
      | sys s =>
        rw [show lastCreated (w.hist (current w)) = none from hrule] at hrows
        exact hrows
      | sql s =>
        rw [exec_sql_db, exec_sql_reply]
        rcases Sql.run_cases conn s c w.state.db with ⟨e, he⟩ | ⟨r, db', hx, hr⟩
        · rw [he]
          -- The one statement that must not fail does not.
          have hnone : lastCreated (w.hist (current w)) = none := by
            cases s <;> try exact hrule.elim
            case createMembership id tenant =>
              obtain ⟨rfl, email, hlast⟩ := hrule
              rw [hlast] at hrows
              obtain ⟨db', hrun, -⟩ := hrows.enrol
              simp [Sql.run, hgap _ _ hp, Sql.exec, hrun] at he
            case createUserWithRole email hash role => exact hrule.1
            case getUserByEmail email => exact hrule
            case insertConsoleClient client => exact hrule.1
          rw [hnone] at hrows
          have hfailed : creationBy ⟨.sql s, .error e⟩ = none := by cases s <;> rfl
          rw [hfailed]
          exact hrows
        · rw [hr]
          exact accountRows_exec hdistinct hrule hx hrows

/-- What an event of a start shows is there right after it. -/
theorem shown_exec {h : List (Event Resp)} {s : Sql} {c : Choice} {db db' : Db} {r : Reply s}
    (hrule : StartRule env h (.sql s)) (hx : s.exec conn c db = .ok (r, db')) :
    (∀ email, seen email ⟨.sql s, .ok r⟩ = true → ∃ u ∈ db'.users, u.email = email) ∧
    (seedsClient ⟨.sql s, .ok r⟩ = true →
      db'.oauthClients.any (fun k => k.clientId == env.consoleClientId) = true) := by
  cases s <;> try exact hrule.elim
  case createMembership id tenant => exact ⟨fun _ h => (by cases h), fun h => (by cases h)⟩
  case createUserWithRole email hash role =>
    obtain ⟨db₁, rfl, hinsert, hroles⟩ := createUserWithRole_ok hx
    obtain ⟨row, -, hemail, husers⟩ := (newUserRows hinsert hroles).user
    refine ⟨fun email' h => ⟨row, by simp [husers], ?_⟩, fun h => by cases h⟩
    exact hemail.trans (eq_of_beq h)
  case getUserByEmail email =>
    refine ⟨fun email' h => ?_, fun h => by cases h⟩
    cases hx
    cases hfound : Repo.getUserByEmail email db with
    | none =>
      rw [hfound] at h
      cases h
    | some u =>
      rw [hfound] at h
      have hu := List.find?_some hfound
      exact ⟨u, List.mem_of_find?_eq_some hfound, (eq_of_beq hu).trans (eq_of_beq h)⟩
  case insertConsoleClient client =>
    refine ⟨fun _ h => (by cases h), fun _ => ?_⟩
    rw [← hrule.2]
    simp only [Sql.exec, Repo.insertConsoleClient, Repo.insertClient] at hx
    repeat' split at hx
    all_goals cases hx
    · assumption
    · simp

theorem shown_next (h : StartInv env w) (l : StartAct) :
    let w' := Pool.next (machine cr conn) (startBody cr env) w l
    (∀ x ∈ w'.log, ∀ a ∈ accounts env, seen a.1 x.2 = true → ∃ u ∈ w'.state.db.users, u.email = a.1) ∧
    (∀ x ∈ w'.log, seedsClient x.2 = true →
      w'.state.db.oauthClients.any (fun k => k.clientId == env.consoleClientId) = true) := by
  refine Pool.logged_next (R := fun log (s : State) =>
    (∀ x ∈ log, ∀ a ∈ accounts env, seen a.1 x.2 = true → ∃ u ∈ s.db.users, u.email = a.1) ∧
    (∀ x ∈ log, seedsClient x.2 = true →
      s.db.oauthClients.any (fun k => k.clientId == env.consoleClientId) = true)) l
    ⟨h.seen, h.client⟩ (fun i c o _ hp => ?_) fun e => by cases e; exact ⟨h.seen, h.client⟩
  have hrule := h.pending hp
  have hquiet : ∀ {e : Event Resp}, (∀ email, seen email e = false) → seedsClient e = false →
      (∀ x ∈ w.log ++ [(i, e)], ∀ a ∈ accounts env, seen a.1 x.2 = true →
        ∃ u ∈ w.state.db.users, u.email = a.1) ∧
      (∀ x ∈ w.log ++ [(i, e)], seedsClient x.2 = true →
        w.state.db.oauthClients.any (fun k => k.clientId == env.consoleClientId) = true) := by
    intro e hseen hclient
    constructor
    · intro x hx a ha hs
      rcases List.mem_append.mp hx with hx | hx
      · exact h.seen x hx a ha hs
      · obtain rfl := List.mem_singleton.mp hx
        exact absurd hs (by simp [hseen])
    · intro x hx hs
      rcases List.mem_append.mp hx with hx | hx
      · exact h.client x hx hs
      · obtain rfl := List.mem_singleton.mp hx
        exact absurd hs (by simp [hclient])
  cases o with
  | redis r => exact hrule.elim
  | sys s => exact hquiet (fun _ => rfl) rfl
  | sql s =>
    rw [exec_sql_db, exec_sql_reply]
    rcases Sql.run_cases conn s c w.state.db with ⟨e, he⟩ | ⟨r, db', hx, hr⟩
    · rw [he]
      exact hquiet (fun _ => by cases s <;> rfl) (by cases s <;> rfl)
    · rw [hr]
      obtain ⟨husers, hclients⟩ := startRows_grow hrule hx
      obtain ⟨hseen, hclient⟩ := shown_exec hrule hx
      constructor
      · intro x hx a ha hs
        rcases List.mem_append.mp hx with hx | hx
        · obtain ⟨u, hu, hemail⟩ := h.seen x hx a ha hs
          exact ⟨u, husers hu, hemail⟩
        · obtain rfl := List.mem_singleton.mp hx
          exact hseen a.1 hs
      · intro x hx hs
        rcases List.mem_append.mp hx with hx | hx
        · obtain ⟨k, hk, hid⟩ := List.any_eq_true.mp (h.client x hx hs)
          exact List.any_eq_true.mpr ⟨k, hclients hk, hid⟩
        · obtain rfl := List.mem_singleton.mp hx
          exact hclient hs

/-- Credentials for two accounts. -/
structure Credentials (env : BootstrapEnv) : Prop where
  adminEmail : env.adminEmail ≠ ""
  adminPassword : env.adminPassword ≠ ""
  demoEmail : env.demoEmail ≠ ""
  demoPassword : env.demoPassword ≠ ""
  distinct : env.adminEmail ≠ env.demoEmail

theorem startInv_next (henv : Credentials env) (h : StartInv env w) (l : StartAct)
    (hone : oneAtATime w l) (hgap : noGap w l) :
    StartInv env (Pool.next (machine cr conn) (startBody cr env) w l) where
  tracks := Pool.tracks_next (along_start cr henv.adminEmail henv.adminPassword henv.demoEmail
    henv.demoPassword) l h.tracks
  rows := accountRows_next h henv.distinct l hone hgap
  seen := (shown_next h l).1
  client := (shown_next h l).2

/-! ## After a start that has succeeded -/

theorem StartInv.booted (h : StartInv env w) {r : Response}
    (hr : w.result (current w) = some (.ok r)) : Booted env w.state.db := by
  obtain ⟨k, -, hpost⟩ := h.tracks.result_history hr
  refine ⟨fun a ha => ?_, ?_⟩
  · obtain ⟨e, he, hseen⟩ := hpost.accounts r rfl a ha
    obtain ⟨u, hu, hemail⟩ := h.seen _ (Pool.mem_hist.1 he) a ha hseen
    refine ⟨u, hu, hemail, h.rows.holds a ha u hu hemail, ?_⟩
    rcases h.rows.member a ha u hu hemail with hmember | hlast
    · exact hmember
    · cases hpost.last.symm.trans hlast
  · obtain ⟨e, he, hseeds⟩ := hpost.client r rfl
    exact h.client _ (Pool.mem_hist.1 he) hseeds

/-- Another start then changes nothing. -/
theorem booted_next (h : StartInv env w) (hbooted : Booted env w.state.db) (l : StartAct)
    (hone : oneAtATime w l) :
    (Pool.next (machine cr conn) (startBody cr env) w l).state.db = w.state.db := by
  rcases db_next cr conn (startBody cr env) w l with hsame | ⟨i, c, s, r, db', rfl, hp, hx, -, hnew⟩
  · exact hsame
  rw [hnew]
  have hrule := h.pending hp
  cases s <;> try exact hrule.elim
  case createMembership id tenant =>
    obtain ⟨rfl, email, hlast⟩ := hrule
    have hi : i = current w := by
      have hlen : i + 1 = w.threads.length := hone
      simp only [current]
      omega
    rw [hi] at hlast
    obtain ⟨⟨a, ha, ha'⟩, u, hu, (hid : u.id = id), hemail⟩ := h.rows.created _ hlast
    obtain ⟨v, hv, hvemail, -, hmember⟩ := hbooted.rows a ha
    have huv : v = u := List.inj_on_of_nodup_map h.rows.refs.keys.emails hv hu
      (hvemail.trans (ha'.trans hemail.symm))
    have hany : w.state.db.memberships.any
        (fun m => Repo.membershipKey m == (id, defaultTenantId)) = true := by
      refine List.any_eq_true.mpr ⟨_, hmember, ?_⟩
      rw [huv, hid]
      exact beq_self_eq_true _
    simp only [Sql.exec, Repo.createMembership, hany, if_true] at hx
    cases hx
    rfl
  case createUserWithRole email hash role =>
    obtain ⟨-, haccount⟩ := hrule
    obtain ⟨u, hu, hemail, -⟩ := hbooted.rows _ haccount
    obtain ⟨db₁, rfl, hinsert, hroles⟩ := createUserWithRole_ok hx
    exact absurd hemail ((newUserRows hinsert hroles).newUser u hu).2
  case getUserByEmail email =>
    cases hx
    rfl
  case insertConsoleClient client =>
    have hany := hbooted.client
    rw [← hrule.2] at hany
    simp only [Sql.exec, Repo.insertConsoleClient, hany, if_true] at hx
    cases hx
    rfl

/-- Whatever starts there are, one that has ended with success has set up both accounts. -/
def AllBooted (env : BootstrapEnv) (w : StartWorld) : Prop :=
  ∀ i r, w.result i = some (.ok r) → Booted env w.state.db

theorem allBooted_next (henv : Credentials env) (h : StartInv env w) (hall : AllBooted env w)
    (l : StartAct) (hone : oneAtATime w l) (hgap : noGap w l) :
    AllBooted env (Pool.next (machine cr conn) (startBody cr env) w l) := by
  intro i r hr
  have hnext : StartInv env (Pool.next (machine cr conn) (startBody cr env) w l) :=
    startInv_next henv h l hone hgap
  have hcurrent : i = current (Pool.next (machine cr conn) (startBody cr env) w l) →
      Booted env (Pool.next (machine cr conn) (startBody cr env) w l).state.db := by
    intro hi
    rw [hi] at hr
    exact hnext.booted hr
  rcases Pool.result_of_next hr with hold | ⟨c, rfl⟩ | ⟨k, rfl, rfl⟩
  · have hbooted := hall i r hold
    rw [booted_next h hbooted l hone]
    exact hbooted
  · apply hcurrent
    have hlen : i + 1 = w.threads.length := hone
    simp only [current, Pool.length_step]
    omega
  · apply hcurrent
    simp [current, Pool.next]

end Runs

/-- In every sequence of starts in which none crashes or loses the database between
the creation of an account and that of its membership, a start that succeeds has set
up both accounts, and nothing changes from there on. -/
theorem starts_recover (cr : Crates) (conn : DbRole) {env : BootstrapEnv} (henv : Credentials env)
    {st : State} (hfresh : FreshStart env st.db) {ls : List StartAct}
    (hone : Pool.Each (machine cr conn) (startBody cr env) oneAtATime (Pool.init st) ls)
    (hgap : Pool.Each (machine cr conn) (startBody cr env) noGap (Pool.init st) ls) :
    ∀ pre post i r, ls = pre ++ post →
      (Pool.run (machine cr conn) (startBody cr env) (Pool.init st) pre).result i = some (.ok r) →
      Booted env (Pool.run (machine cr conn) (startBody cr env) (Pool.init st) pre).state.db ∧
      (Pool.run (machine cr conn) (startBody cr env) (Pool.init st) ls).state.db =
        (Pool.run (machine cr conn) (startBody cr env) (Pool.init st) pre).state.db := by
  intro pre post i r hls hr
  subst hls
  obtain ⟨hpre, hpost⟩ := (Pool.each_append _ _ _ _ _ _).mp (hone.and hgap)
  have hinv : StartInv env (Pool.run (machine cr conn) (startBody cr env) (Pool.init st) pre) ∧
      AllBooted env (Pool.run (machine cr conn) (startBody cr env) (Pool.init st) pre) :=
    Pool.run_inv (I := fun w => StartInv env w ∧ AllBooted env w)
      (fun w l hl h => ⟨startInv_next henv h.1 l hl.1 hl.2, allBooted_next henv h.1 h.2 l hl.1 hl.2⟩)
      hpre ⟨startInv_init hfresh, fun i r h => by cases h⟩
  have hbooted := hinv.2 i r hr
  refine ⟨hbooted, ?_⟩
  rw [Pool.run_append]
  have hsame := Pool.run_inv (I := fun w => StartInv env w ∧
      w.state.db = (Pool.run (machine cr conn) (startBody cr env) (Pool.init st) pre).state.db)
    (fun w l hl h => ⟨startInv_next henv h.1 l hl.1 hl.2,
      (booted_next h.1 (h.2 ▸ hbooted) l hl.1).trans h.2⟩) hpost ⟨hinv.1, rfl⟩
  exact hsame.2

namespace Sample

def bootEnv : BootstrapEnv :=
  ⟨"admin@iam.local", "admin", "console", "secret", "http://localhost", "demo@iam.local", "demo"⟩

theorem freshStart_migrated : FreshStart bootEnv migrated where
  refs := ⟨⟨List.nodup_nil, List.nodup_nil⟩, fun _ h => (by cases h), fun _ h => by cases h⟩
  seeded a ha := by
    have hrole : a.2 = "admin" ∨ a.2 = "user" ∨ a.2 = "viewer" := by
      simp only [accounts, List.mem_cons, List.not_mem_nil, or_false] at ha
      rcases ha with rfl | rfl
      · exact .inl rfl
      · exact .inr (.inr rfl)
    exact seeded_run crates .superuser [] hrole []
  free _ _ _ h := by cases h

/-- The steps of start `i`, which creates the users 10 and 11 as far as they are missing. -/
def startSteps (i : Nat) : List StartAct :=
  List.replicate 5 (.step i (choice 0 10 "")) ++ List.replicate 4 (.step i (choice 0 11 ""))

/-- A first start, and the one after it. -/
theorem starts_recover_first :
    Booted bootEnv (Pool.run (machine crates .superuser) (startBody crates bootEnv)
      (Pool.init ⟨migrated, []⟩) (.start () :: startSteps 0)).state.db ∧
    (Pool.run (machine crates .superuser) (startBody crates bootEnv) (Pool.init ⟨migrated, []⟩)
      (.start () :: startSteps 0 ++ [.start (), .step 1 (choice 0 12 "")])).state.db =
    (Pool.run (machine crates .superuser) (startBody crates bootEnv)
      (Pool.init ⟨migrated, []⟩) (.start () :: startSteps 0)).state.db := by
  have hfresh : FreshStart bootEnv (⟨migrated, []⟩ : State).db := freshStart_migrated
  have henv : Credentials bootEnv := ⟨by decide, by decide, by decide, by decide, by decide⟩
  refine starts_recover crates .superuser henv hfresh ?_ ?_ (.start () :: startSteps 0) _ 0 .done rfl ?_
  · exact ⟨trivial, rfl, rfl, rfl, rfl, rfl, rfl, rfl, rfl, rfl, trivial, rfl, trivial⟩
  · refine ⟨?_, ?_, ?_, ?_, ?_, ?_, ?_, ?_, ?_, ?_, ?_, ?_, trivial⟩
    · intro _ _ h
      cases h
    all_goals
      intro _ _ h
      first
      | rfl
      | cases h
  · rfl

/-- The first start crashes right after it has created the administrator, and the
second one runs to its end. -/
def crashed : List StartAct :=
  .start () :: List.replicate 3 (.step 0 (choice 0 10 "")) ++
    .start () :: List.replicate 6 (.step 1 (choice 0 11 ""))

/-- The second start succeeds, and the administrator is a member of nothing. -/
theorem crashed_stuck :
    let w := Pool.run (machine crates .superuser) (startBody crates bootEnv)
      (Pool.init ⟨migrated, []⟩) crashed
    w.result 1 = some (.ok .done) ∧
    Repo.isActiveMember 10 defaultTenantId w.state.db = false ∧
    ¬Booted bootEnv w.state.db := by
  have hnone : (Pool.run (machine crates .superuser) (startBody crates bootEnv)
      (Pool.init ⟨migrated, []⟩) crashed).state.db.memberships = [⟨11, defaultTenantId, "active"⟩] := by
    decide
  have husers : (Pool.run (machine crates .superuser) (startBody crates bootEnv)
      (Pool.init ⟨migrated, []⟩) crashed).state.db.users.map (fun u => (u.id, u.email)) =
        [(10, "admin@iam.local"), (11, "demo@iam.local")] := by
    decide
  refine ⟨rfl, by decide, fun h => ?_⟩
  obtain ⟨u, hu, hemail, -, hmember⟩ := h.rows ("admin@iam.local", "admin") (by simp [accounts, bootEnv])
  have hmem := List.mem_map_of_mem (f := fun u : UserRow => (u.id, u.email)) hu
  rw [husers] at hmem
  rw [hnone] at hmember
  simp only [List.mem_cons, List.not_mem_nil, or_false, Prod.mk.injEq, MembershipRecord.mk.injEq] at hmem hmember
  rcases hmem with ⟨hid, -⟩ | ⟨-, hdemo⟩
  · exact absurd (hid.symm.trans hmember.1) (by decide)
  · exact absurd (hemail.symm.trans hdemo) (by decide)

end Sample

end IamAuth
