import IamAuth.Spelling

/-!
# Bulk assignment as single assignments

assign_role_bulk validates once and then runs one transaction for each id. An
assignment only adds its own row, and whether the next one goes through does not
depend on the rows added before, so that neither the order nor the repeats matter.
-/

set_option autoImplicit false

namespace IamAuth

open Interleave

/-! ## The rows that a list of users adds -/

/-- The row of an assignment to one of these users that goes through on `db` and is
not there yet. -/
def Fresh (db : Db) (roleName : String) (tenant : Uuid) (project : Option Uuid) (users : List Uuid)
    (ur : UserRole) : Prop :=
  ∃ u ∈ users, Assignable db roleName tenant project u ∧
    (∃ id ∈ Repo.resolveRole roleName tenant db, ur = ⟨u, id, tenant, project⟩) ∧
    ∀ x ∈ db.userRoles, Repo.assignmentKey x ≠ Repo.assignmentKey ur

/-- The assignments to these users have been added to `db`, each once. -/
structure AssignedTo (roleName : String) (tenant : Uuid) (project : Option Uuid) (users : List Uuid)
    (db db' : Db) : Prop where
  frame : Frame [.userRoles, .auditEvents] db db'
  rows : ∃ new, db'.userRoles = db.userRoles ++ new ∧ new.Nodup ∧
    ∀ ur, ur ∈ new ↔ Fresh db roleName tenant project users ur

section AssignedTo

variable {db db' db'' : Db} {roleName : String} {tenant u : Uuid} {project : Option Uuid}
  {users users' : List Uuid} {ur : UserRole}

theorem fresh_append : Fresh db roleName tenant project (users ++ users') ur ↔
    Fresh db roleName tenant project users ur ∨ Fresh db roleName tenant project users' ur := by
  unfold Fresh
  constructor
  · intro ⟨v, hv, hrest⟩
    rcases List.mem_append.mp hv with hv | hv
    · exact .inl ⟨v, hv, hrest⟩
    · exact .inr ⟨v, hv, hrest⟩
  · intro h
    rcases h with ⟨v, hv, hrest⟩ | ⟨v, hv, hrest⟩
    · exact ⟨v, List.mem_append_left _ hv, hrest⟩
    · exact ⟨v, List.mem_append_right _ hv, hrest⟩

theorem Fresh.congr (h : ∀ v, v ∈ users ↔ v ∈ users') :
    Fresh db roleName tenant project users ur ↔ Fresh db roleName tenant project users' ur := by
  simp only [Fresh, h]

/-- The references of a fresh row exist. -/
theorem Fresh.valid (h : Fresh db roleName tenant project users ur) :
    ur.projectId = project ∧ Repo.userRoleReferences ur db = true := by
  obtain ⟨v, -, hcan, ⟨id, hid, rfl⟩, hnew⟩ := h
  refine ⟨rfl, ?_⟩
  obtain ⟨-, ⟨x, hx, hkey⟩ | href⟩ := insertUserRole_ok_iff.1 (assignable_iff.1 hcan id hid)
  · exact absurd hkey (hnew x hx)
  · exact href

theorem AssignedTo.refl (roleName : String) (tenant : Uuid) (project : Option Uuid) (db : Db) :
    AssignedTo roleName tenant project [] db db where
  frame := Frame.refl _ _
  rows := ⟨[], by simp, List.nodup_nil, by simp [Fresh]⟩

theorem AssignedTo.resolve (h : AssignedTo roleName tenant project users db db') :
    Repo.resolveRole roleName tenant db' = Repo.resolveRole roleName tenant db := by
  simp only [Repo.resolveRole, Session.roles, h.frame.roles (by simp)]

theorem AssignedTo.assignable (h : AssignedTo roleName tenant project users db db') :
    Assignable db' roleName tenant project u ↔ Assignable db roleName tenant project u := by
  obtain ⟨new, hnew, -, hall⟩ := h.rows
  exact assignable_of_rows h.frame hnew fun ur hur => ((hall ur).mp hur).valid

theorem AssignedTo.audited (h : AssignedTo roleName tenant project users db db')
    (hframe : Frame [.auditEvents] db' db'') : AssignedTo roleName tenant project users db db'' where
  frame := h.frame.trans (hframe.mono (by simp))
  rows := by
    rw [hframe.userRoles (by simp)]
    exact h.rows

/-- An assignment that does not add a row. -/
theorem AssignedTo.keep (h : AssignedTo roleName tenant project users db db')
    (hnone : ∀ ur, Fresh db roleName tenant project [u] ur →
      Fresh db roleName tenant project users ur) :
    AssignedTo roleName tenant project (users ++ [u]) db db' where
  frame := h.frame
  rows := by
    obtain ⟨new, hnew, hnodup, hall⟩ := h.rows
    refine ⟨new, hnew, hnodup, fun ur => (hall ur).trans ?_⟩
    rw [fresh_append]
    exact ⟨.inl, fun hur => hur.elim id (hnone ur)⟩

theorem AssignedTo.refused (h : AssignedTo roleName tenant project users db db')
    (hno : ¬Assignable db roleName tenant project u) :
    AssignedTo roleName tenant project (users ++ [u]) db db' := by
  apply h.keep
  intro ur hur
  obtain ⟨v, hv, hcan, -⟩ := hur
  cases List.mem_singleton.mp hv
  exact absurd hcan hno

/-- A row whose key is taken is not inserted again. -/
theorem insertUserRole_taken {s : Session} (h : Repo.insertUserRole s ur db = .ok db')
    (htaken : ∃ x ∈ db.userRoles, Repo.assignmentKey x = Repo.assignmentKey ur) : db' = db := by
  obtain ⟨x, hx, hkey⟩ := htaken
  have hany : db.userRoles.any (fun y => Repo.assignmentKey y == Repo.assignmentKey ur) = true :=
    List.any_eq_true.mpr ⟨x, hx, beq_iff_eq.mpr hkey⟩
  unfold Repo.insertUserRole at h
  split at h
  · cases h
  · exact (Except.ok.inj h).symm

theorem AssignedTo.insert (h : AssignedTo roleName tenant project users db db') {s : Session} {id : Nat}
    (hids : Repo.resolveRole roleName tenant db = [id])
    (hcan : Assignable db roleName tenant project u)
    (hinsert : Repo.insertUserRole s ⟨u, id, tenant, project⟩ db' = .ok db'') :
    AssignedTo roleName tenant project (users ++ [u]) db db'' := by
  have hrow : ∀ ur, Fresh db roleName tenant project [u] ur ↔ ur = ⟨u, id, tenant, project⟩ ∧
      ∀ x ∈ db.userRoles, Repo.assignmentKey x ≠ Repo.assignmentKey ur := by
    intro ur
    simp [Fresh, hids, hcan]
  obtain ⟨new, hnew, hnodup, hall⟩ := h.rows
  by_cases htaken : ∃ x ∈ db'.userRoles,
      Repo.assignmentKey x = Repo.assignmentKey ⟨u, id, tenant, project⟩
  · rw [insertUserRole_taken hinsert htaken]
    obtain ⟨x, hx, hkey⟩ := htaken
    apply h.keep
    intro ur hur
    obtain ⟨rfl, hfree⟩ := (hrow ur).mp hur
    -- The key is that of a row of `db`, or of one added before.
    rw [hnew] at hx
    rcases List.mem_append.mp hx with hx | hx
    · exact absurd hkey (hfree x hx)
    · have hfresh := (hall x).mp hx
      have hsame : x = ⟨u, id, tenant, project⟩ := by
        simp only [Repo.assignmentKey, Prod.mk.injEq] at hkey
        obtain ⟨huser, hrole, htenant, -⟩ := hkey
        rw [← huser, ← hrole, ← htenant, ← hfresh.valid.1]
      rwa [hsame] at hfresh
  · have hfree : ∀ x ∈ db.userRoles ++ new,
        Repo.assignmentKey x ≠ Repo.assignmentKey ⟨u, id, tenant, project⟩ := by
      intro x hx hkey
      exact htaken ⟨x, by rwa [hnew], hkey⟩
    rcases (insertUserRole_cases hinsert).2 with ⟨-, hkey⟩ | ⟨-, rfl⟩
    · exact absurd hkey htaken
    · refine ⟨h.frame.trans ((frame_insertUserRole hinsert).mono (by simp)),
        new ++ [⟨u, id, tenant, project⟩], by simp [hnew], ?_, fun ur => ?_⟩
      · apply List.nodup_append.mpr
        refine ⟨hnodup, List.nodup_singleton _, fun x hx y hy hxy => ?_⟩
        rw [List.mem_singleton.mp hy] at hxy
        exact hfree x (List.mem_append_right _ hx) (congrArg _ hxy)
      · rw [List.mem_append, hall ur, fresh_append, List.mem_singleton, hrow]
        refine or_congr Iff.rfl ⟨fun hur => ⟨hur, fun x hx => ?_⟩, And.left⟩
        rw [hur]
        exact hfree x (List.mem_append_left _ hx)

theorem AssignedTo.assign (h : AssignedTo roleName tenant project users db db') {r : Unit}
    (hassign : Repo.assignRole u roleName tenant project db' = .ok (r, db'')) :
    AssignedTo roleName tenant project (users ++ [u]) db db'' := by
  have hcan : Assignable db roleName tenant project u := h.assignable.mp ⟨db'', hassign⟩
  have hins := assignRole_ok hassign
  rw [h.resolve] at hins
  -- At most one role is resolved.
  have hone : (Repo.resolveRole roleName tenant db).length ≤ 1 := by simp [Repo.resolveRole]
  rcases hids : Repo.resolveRole roleName tenant db with _ | ⟨id, _ | ⟨id', rest⟩⟩
  · rw [hids] at hins
    cases hins
    apply h.keep
    intro ur hur
    obtain ⟨-, -, -, ⟨id, hid, -⟩, -⟩ := hur
    simp [hids] at hid
  · rw [hids] at hins
    simp only [Repo.insertUserRoles] at hins
    split at hins
    · next db₁ hinsert =>
      cases hins
      exact h.insert hids hcan hinsert
    · cases hins
  · simp [hids] at hone

/-- The same users, in whatever order and however often, give the same table. -/
theorem AssignedTo.perm {db₁ db₂ : Db} (h₁ : AssignedTo roleName tenant project users db db₁)
    (h₂ : AssignedTo roleName tenant project users' db db₂) (h : ∀ v, v ∈ users ↔ v ∈ users') :
    db₁.userRoles.Perm db₂.userRoles := by
  obtain ⟨new₁, hnew₁, hnodup₁, hall₁⟩ := h₁.rows
  obtain ⟨new₂, hnew₂, hnodup₂, hall₂⟩ := h₂.rows
  rw [hnew₁, hnew₂]
  apply List.Perm.append_left
  apply (List.perm_ext_iff_of_nodup hnodup₁ hnodup₂).mpr
  intro ur
  rw [hall₁, hall₂]
  exact Fresh.congr h

/-- Whoever can be assigned the role has it. -/
theorem AssignedTo.holds (h : AssignedTo roleName tenant project users db db') (hu : u ∈ users)
    (hcan : Assignable db roleName tenant project u) {id : Nat}
    (hid : id ∈ Repo.resolveRole roleName tenant db) :
    ∃ ur ∈ db'.userRoles, Repo.assignmentKey ur = Repo.assignmentKey ⟨u, id, tenant, project⟩ := by
  obtain ⟨new, hnew, -, hall⟩ := h.rows
  rw [hnew]
  by_cases htaken : ∃ x ∈ db.userRoles,
      Repo.assignmentKey x = Repo.assignmentKey ⟨u, id, tenant, project⟩
  · obtain ⟨x, hx, hkey⟩ := htaken
    exact ⟨x, List.mem_append_left _ hx, hkey⟩
  · refine ⟨⟨u, id, tenant, project⟩, List.mem_append_right _ ((hall _).mpr ?_), rfl⟩
    exact ⟨u, hu, hcan, ⟨id, hid, rfl⟩, fun x hx hkey => htaken ⟨x, hx, hkey⟩⟩

end AssignedTo

/-! ## One call for each id -/

/-- The assignment of one id of a bulk request, as a call of its own. -/
def single (svc : AuthSvc) (md : MetadataMap) (req : AssignRoleBulkRequest) (uid : String) : Call :=
  .rpc svc md (.assignRole ⟨uid, req.roleName, req.projectId⟩)

/-- The text is the id of a user to whom the role can be assigned. -/
def Accepts (cr : Crates) (db : Db) (roleName : String) (tenant : Uuid) (project : Option Uuid)
    (uid : String) : Prop :=
  ∃ u, cr.parseUuid uid = some u ∧ Assignable db roleName tenant project u

/-- What a bulk request has checked before its loop. -/
structure BulkChecked (cr : Crates) (conn : DbRole) (md : MetadataMap) (req : AssignRoleBulkRequest)
    (tenant : Uuid) (project : Option Uuid) (db : Db) : Prop where
  perm : hasPerm md "role:assign" = true
  active : activeTenantOpt cr md = some tenant
  visible : Repo.roleInTenant conn req.roleName tenant db = true
  named : optProject cr req.projectId = some project
  inTenant : ∀ pid, project = some pid → Repo.isProjectInTenant conn pid tenant db = true

section Calls

variable {cr : Crates} {conn : DbRole} {svc : AuthSvc} {md : MetadataMap}
  {req : AssignRoleBulkRequest} {tenant : Uuid} {project : Option Uuid} {users : List Uuid}
  {db db' : Db} {st : State} {h : List (Event Resp)}

theorem BulkChecked.later (hchecked : BulkChecked cr conn md req tenant project db)
    (hst : AssignedTo req.roleName tenant project users db db') :
    BulkChecked cr conn md req tenant project db' where
  perm := hchecked.perm
  active := hchecked.active
  visible := by
    rw [Repo.roleInTenant, Session.roles, hst.frame.roles (by simp)]
    exact hchecked.visible
  named := hchecked.named
  inTenant pid hpid := by
    rw [Repo.isProjectInTenant, Session.projects, hst.frame.projects (by simp)]
    exact hchecked.inTenant pid hpid

/-- The checks of a single assignment go through as those of the bulk request did. -/
theorem ends_validated (hchecked : BulkChecked cr conn md req tenant project st.db)
    {Q : Except Failure (Option Uuid) → State → List (Event Resp) → Prop}
    (hok : ∀ h', Q (.ok project) st h') :
    (validateAssign cr req.roleName req.projectId tenant).Ends (machine cr conn) Connected Q st h := by
  refine .bind (ends_query _ _ (fun c r db' _ hx => ?_) fun c e ha hx => ?_)
  · obtain ⟨rfl, rfl⟩ := Prod.mk.inj (Except.ok.inj hx)
    refine .bind (Prog.ends_of_failIf (fun hno => ?_) fun _ => ?_)
    · simp [hchecked.visible] at hno
    refine .bind (ends_parseOptProject _ (fun _ hno => ?_) fun p hp => ?_)
    · cases hno.symm.trans hchecked.named
    obtain rfl : p = project := Option.some.inj (hp.symm.trans hchecked.named)
    cases p with
    | none => exact hok _
    | some pid =>
      refine .bind (ends_query _ _ (fun c r db' _ hx => ?_) fun c e ha hx => ?_)
      · obtain ⟨rfl, rfl⟩ := Prod.mk.inj (Except.ok.inj hx)
        refine .bind (Prog.ends_of_failIf (fun hno => ?_) fun _ => hok _)
        simp [hchecked.inTenant pid rfl] at hno
      · cases hx (ha _ rfl)
  · cases hx (ha _ rfl)

theorem ends_single (svc : AuthSvc) (hchecked : BulkChecked cr conn md req tenant project db)
    (hst : AssignedTo req.roleName tenant project users db st.db) (uid : String) :
    ((single svc md req uid).body cr).Ends (machine cr conn) Connected
      (fun r st' _ => (r.isOk = true ↔ Accepts cr db req.roleName tenant project uid) ∧
        AssignedTo req.roleName tenant project (users ++ (cr.parseUuid uid).toList) db st'.db)
      st h := by
  have hnow := hchecked.later hst
  refine .bind ?_
  refine .bind (Prog.ends_of_failIf (fun hno => ?_) fun _ => ?_)
  · simp [hchecked.perm] at hno
  refine .bind (ends_activeTenant (fun _ hno => ?_) fun tenant' htenant => ?_)
  · cases hno.symm.trans hchecked.active
  obtain rfl : tenant' = tenant := Option.some.inj (htenant.symm.trans hchecked.active)
  refine .bind (Prog.ends_of_okOr (fun hno => ?_) fun u hu => ?_)
  · have hno : cr.parseUuid uid = none := hno
    rw [hno]
    refine ⟨iff_of_false (by simp [Except.isOk, Except.toBool]) ?_, by simpa using hst⟩
    intro haccepts
    obtain ⟨u, hu, -⟩ := haccepts
    cases hno.symm.trans hu
  have hu : cr.parseUuid uid = some u := hu
  rw [hu]
  refine .bind (ends_validated hnow fun h' => ?_)
  refine .bind (ends_query _ _ (fun c r db₁ _ hassign => ?_) fun c e ha hx => ?_)
  · refine .bind (ends_invalidatePerms svc _ fun redis' h₂ => ?_)
    refine .bind (ends_auditAs svc fun db₂ es hf _ => ?_)
    refine ⟨iff_of_true rfl ⟨u, hu, hst.assignable.mp ⟨db₁, hassign⟩⟩, ?_⟩
    exact (hst.assign hassign).audited hf
  · have hrefused : ¬Assignable db req.roleName tenant' project u := by
      intro hcan
      obtain ⟨db₁, hassign⟩ := hst.assignable.mpr hcan
      cases hassign.symm.trans (hx (ha _ rfl))
    refine ⟨iff_of_false (by simp [Except.isOk, Except.toBool]) ?_, hst.refused hrefused⟩
    intro haccepts
    obtain ⟨v, hv, hcan⟩ := haccepts
    cases hu.symm.trans hv
    exact hrefused hcan

/-- The loop assigns every id that can be assigned, and counts it or lists it. -/
theorem ends_assignEach_all {roleName : String} (uids : List String)
    (hst : AssignedTo roleName tenant project users db st.db)
    {Q : Except Failure AssignRoleBulkResponse → State → List (Event Resp) → Prop}
    (hQ : ∀ out st' h',
      AssignedTo roleName tenant project (users ++ uids.filterMap cr.parseUuid) db st'.db →
      out.assigned + out.failed.length = uids.length →
      (∀ p : String → Bool,
        (∀ uid ∈ uids, p uid = true ↔ ¬Accepts cr db roleName tenant project uid) →
        out.failed = uids.filter p) →
      Q (.ok out) st' h') :
    (assignEach cr svc roleName tenant project uids).Ends (machine cr conn) Connected Q st h := by
  induction uids generalizing users st h Q with
  | nil => exact hQ ⟨0, []⟩ st h (by simpa using hst) rfl fun _ _ => rfl
  | cons uid uids ih =>
    have hparse : (uid :: uids).filterMap cr.parseUuid =
        (cr.parseUuid uid).toList ++ uids.filterMap cr.parseUuid := by
      rw [List.filterMap_cons]
      cases cr.parseUuid uid <;> rfl
    have hfailed : ∀ st' h', ¬Accepts cr db roleName tenant project uid →
        AssignedTo roleName tenant project (users ++ (cr.parseUuid uid).toList) db st'.db →
        (assignEach cr svc roleName tenant project uids).Ends (machine cr conn) Connected
          (Prog.EndsThen (machine cr conn) Connected Q
            fun out => pure { out with failed := uid :: out.failed }) st' h' := by
      intro st' h' hno hst'
      refine ih hst' fun out st'' h'' hdone hcount hlist => hQ _ st'' h'' ?_ ?_ ?_
      · rwa [hparse, ← List.append_assoc]
      · simp only [List.length_cons]
        omega
      · intro p hp
        have huid : p uid = true := (hp uid List.mem_cons_self).mpr hno
        rw [List.filter_cons_of_pos huid, hlist p fun s hs => hp s (List.mem_cons_of_mem _ hs)]
    unfold assignEach assignOne
    cases hu : cr.parseUuid uid with
    | none =>
      refine .bind ((Prog.ends_pure _ _ _ _ _ false).mpr (.bind (hfailed st h ?_ ?_)))
      · intro haccepts
        obtain ⟨u, hu', -⟩ := haccepts
        cases hu.symm.trans hu'
      · simpa [hu] using hst
    | some u =>
      refine .bind (.bind (ends_attempt _ (fun c r db₁ _ hassign => ?_) fun c e ha hx => ?_))
      · have hassign : Repo.assignRole u roleName tenant project st.db = .ok (r, db₁) := hassign
        have hcan : Assignable db roleName tenant project u := hst.assignable.mp ⟨db₁, hassign⟩
        refine .bind (ends_invalidatePerms svc _ fun redis' h' => ?_)
        refine .bind (ih (hst.assign hassign) fun out st'' h'' hdone hcount hlist => ?_)
        refine hQ _ st'' h'' ?_ ?_ ?_
        · rw [hparse, hu, ← List.append_assoc]
          exact hdone
        · simp only [List.length_cons]
          omega
        · intro p hp
          have huid : p uid = false := by
            cases hpu : p uid with
            | false => rfl
            | true => exact absurd ⟨u, hu, hcan⟩ ((hp uid List.mem_cons_self).mp hpu)
          rw [List.filter_cons_of_neg (by simp [huid])]
          exact hlist p fun s hs => hp s (List.mem_cons_of_mem _ hs)
      · have hrefused : ¬Assignable db roleName tenant project u := by
          intro hcan
          obtain ⟨db₁, hassign⟩ := hst.assignable.mpr hcan
          cases hassign.symm.trans (hx (ha _ rfl))
        refine .bind (hfailed st _ ?_ ?_)
        · intro haccepts
          obtain ⟨v, hv, hcan⟩ := haccepts
          cases hu.symm.trans hv
          exact hrefused hcan
        · simpa [hu] using hst.refused hrefused

/-- What a bulk request that succeeds has done. -/
structure BulkDone (cr : Crates) (conn : DbRole) (md : MetadataMap) (req : AssignRoleBulkRequest)
    (db db' : Db) (out : AssignRoleBulkResponse) (tenant : Uuid) (project : Option Uuid) : Prop where
  checked : BulkChecked cr conn md req tenant project db
  assigned : AssignedTo req.roleName tenant project (req.userIds.filterMap cr.parseUuid) db db'
  counted : out.assigned + out.failed.length = req.userIds.length
  failed : ∀ p : String → Bool,
    (∀ uid ∈ req.userIds, p uid = true ↔ ¬Accepts cr db req.roleName tenant project uid) →
    out.failed = req.userIds.filter p

theorem ends_assignRoleBulk (svc : AuthSvc) (md : MetadataMap) (req : AssignRoleBulkRequest) :
    ((Rpc.assignRoleBulk req).handle cr svc md).Ends (machine cr conn) Connected
      (fun r st' _ => ∀ out, r = .ok (.bulk out) →
        ∃ tenant project, BulkDone cr conn md req st.db st'.db out tenant project) st h := by
  have hno : ∀ (e : Failure) (st' : State) (out : AssignRoleBulkResponse),
      (.error e : Except Failure Response) = .ok (.bulk out) →
      ∃ tenant project, BulkDone cr conn md req st.db st'.db out tenant project := by
    intro e st' out hout
    cases hout
  refine .bind ?_
  refine .bind (Prog.ends_of_failIf (fun _ => hno _ _) fun hperm => ?_)
  refine .bind (ends_activeTenant (fun _ _ => hno _ _) fun tenant htenant => ?_)
  refine .bind (ends_validateAssign _ _ _ (fun _ _ => hno _ _)
    fun project h' hvisible hproject hin => ?_)
  refine .bind (ends_assignEach_all _ (AssignedTo.refl _ _ _ _) fun out st' h'' hdone hcount hlist => ?_)
  refine .bind (ends_auditAs svc fun db₂ es hf _ => ?_)
  intro out' hout
  cases hout
  exact ⟨tenant, project, ⟨by simpa using hperm, htenant, hvisible, hproject, hin⟩,
    hdone.audited hf, hcount, hlist⟩

/-- No statement of the turn loses its connection. -/
def ConnectedTurn (cr : Crates) (conn : DbRole) (st : State) (t : Turn Call Choice) : Prop :=
  (t.call.body cr).Meets (machine cr conn) Connected t.choices st []

theorem connectedTurn_of {t : Turn Call Choice} (h : ∀ n, (t.choices n).fails = false) :
    ConnectedTurn cr conn st t :=
  Prog.meets_of_events _ fun n _ _ _ _ _ => h n

/-- One single assignment for each of these ids. -/
def singles (svc : AuthSvc) (md : MetadataMap) (req : AssignRoleBulkRequest)
    (uids : List (String × (Nat → Choice))) : List (Turn Call Choice) :=
  uids.map fun x => ⟨single svc md req x.1, x.2⟩

theorem assignedTo_singles (hchecked : BulkChecked cr conn md req tenant project db)
    (uids : List (String × (Nat → Choice)))
    (hconnected : EachTurn (machine cr conn) (Call.body cr) (ConnectedTurn cr conn) st
      (singles svc md req uids))
    (hst : AssignedTo req.roleName tenant project users db st.db) :
    AssignedTo req.roleName tenant project (users ++ (uids.map (·.1)).filterMap cr.parseUuid) db
      (served cr conn st (singles svc md req uids)).db := by
  induction uids generalizing users st with
  | nil =>
    rw [List.map_nil, List.filterMap_nil, List.append_nil]
    exact hst
  | cons x uids ih =>
    have hturn := (ends_single svc hchecked hst x.1).eval_meets hconnected.1
    have hrest := ih hconnected.2 hturn.2
    have hparse : ((x :: uids).map (·.1)).filterMap cr.parseUuid =
        (cr.parseUuid x.1).toList ++ (uids.map (·.1)).filterMap cr.parseUuid := by
      rw [List.map_cons, List.filterMap_cons]
      cases cr.parseUuid x.1 <;> rfl
    rw [hparse, ← List.append_assoc]
    exact hrest

end Calls

/-- The user of this id has the role that the name resolves to. -/
def HasRole (cr : Crates) (md : MetadataMap) (req : AssignRoleBulkRequest) (db db' : Db)
    (uid : String) : Prop :=
  ∃ u tenant project id, cr.parseUuid uid = some u ∧ activeTenantOpt cr md = some tenant ∧
    optProject cr req.projectId = some project ∧
    id ∈ Repo.resolveRole req.roleName tenant db ∧
    ∃ ur ∈ db'.userRoles, Repo.assignmentKey ur = Repo.assignmentKey ⟨u, id, tenant, project⟩

/-- A bulk request that succeeds leaves the table which single assignments of its ids
leave, in any order; it counts every id, and lists those whose single assignment is
refused; whoever is not listed has the role. -/
theorem bulk_eq_singles (cr : Crates) (conn : DbRole) (svc : AuthSvc) (md : MetadataMap)
    (req : AssignRoleBulkRequest) (st : State) (cs : Nat → Choice) (out : AssignRoleBulkResponse)
    (hconnected : ConnectedTurn cr conn st ⟨.rpc svc md (.assignRoleBulk req), cs⟩)
    (hout : (serve cr conn st ⟨.rpc svc md (.assignRoleBulk req), cs⟩).1 = .ok (.bulk out)) :
    let after := (serve cr conn st ⟨.rpc svc md (.assignRoleBulk req), cs⟩).2.1
    (∀ uids : List (String × (Nat → Choice)), (uids.map (·.1)).Perm req.userIds →
      EachTurn (machine cr conn) (Call.body cr) (ConnectedTurn cr conn) st
        (singles svc md req uids) →
      (served cr conn st (singles svc md req uids)).db.userRoles.Perm after.db.userRoles) ∧
    out.assigned + out.failed.length = req.userIds.length ∧
    (∀ choices : String → Nat → Choice,
      (∀ uid ∈ req.userIds, ConnectedTurn cr conn st ⟨single svc md req uid, choices uid⟩) →
      out.failed = req.userIds.filter fun uid =>
        !(serve cr conn st ⟨single svc md req uid, choices uid⟩).1.isOk) ∧
    (∀ ur ∈ st.db.userRoles, ur ∈ after.db.userRoles) ∧
    ∀ uid ∈ req.userIds, uid ∉ out.failed → HasRole cr md req st.db after.db uid := by
  intro after
  have hends := Prog.Ends.eval_meets (ends_assignRoleBulk svc md req) hconnected
  obtain ⟨tenant, project, hdone⟩ := hends out hout
  refine ⟨fun uids hperm heach => ?_, hdone.counted, fun choices hsingle => ?_, ?_, ?_⟩
  · have hsingles := assignedTo_singles hdone.checked uids heach (AssignedTo.refl _ _ _ _)
    rw [List.nil_append] at hsingles
    apply hsingles.perm hdone.assigned
    intro v
    exact (hperm.filterMap cr.parseUuid).mem_iff
  · apply hdone.failed
    intro uid huid
    have hturn := (ends_single svc hdone.checked (AssignedTo.refl _ _ _ _) uid).eval_meets
      (hsingle uid huid)
    rw [← hturn.1]
    simp [Turn.eval]
  · intro ur hur
    obtain ⟨new, hnew, -⟩ := hdone.assigned.rows
    have hrows : after.db.userRoles = st.db.userRoles ++ new := hnew
    rw [hrows]
    exact List.mem_append_left _ hur
  · intro uid huid hlisted
    have haccepts : Accepts cr st.db req.roleName tenant project uid := by
      classical
      by_contra hno
      have hlist := hdone.failed (fun s => decide ¬Accepts cr st.db req.roleName tenant project s)
        fun s _ => decide_eq_true_iff
      apply hlisted
      rw [hlist]
      exact List.mem_filter.mpr ⟨huid, decide_eq_true hno⟩
    obtain ⟨u, hu, hcan⟩ := haccepts
    obtain ⟨id, hid⟩ := List.exists_mem_of_ne_nil _
      (resolveRole_ne_nil (canAssign_of_inTenant hdone.checked.visible))
    refine ⟨u, tenant, project, id, hu, hdone.checked.active, hdone.checked.named, hid, ?_⟩
    exact hdone.assigned.holds (List.mem_filterMap.mpr ⟨uid, huid, hu⟩) hcan hid

namespace Sample

/-- The registered user, named twice, and two texts that name nobody. -/
def viewers : AssignRoleBulkRequest :=
  ⟨[formatUuid 10, "nobody", formatUuid 10, formatUuid 77], "viewer", ""⟩

def viewersTurn : Turn Call Choice :=
  ⟨.rpc svc supportAdmin (.assignRoleBulk viewers), fun _ => choice 0 0 ""⟩

def registeredState : State := (runFrom crates .superuser ⟨migrated, []⟩ registration).state

/-- The same ids, the last one first. -/
def reversed : List (String × (Nat → Choice)) :=
  viewers.userIds.reverse.map fun uid => (uid, fun _ => choice 0 0 "")

theorem bulk_eq_singles_reversed :
    (served crates .superuser registeredState
        (singles svc supportAdmin viewers reversed)).db.userRoles.Perm
      (serve crates .superuser registeredState viewersTurn).2.1.db.userRoles := by
  have hout : (serve crates .superuser registeredState viewersTurn).1 =
      .ok (.bulk ⟨2, ["nobody", formatUuid 77]⟩) := by
    decide
  have hall := bulk_eq_singles crates .superuser svc supportAdmin viewers registeredState
    (fun _ => choice 0 0 "") _ (connectedTurn_of fun _ => rfl) hout
  have hperm : (reversed.map (·.1)).Perm viewers.userIds := by
    rw [show reversed.map (·.1) = viewers.userIds.reverse from rfl]
    exact List.reverse_perm _
  exact hall.1 reversed hperm ⟨connectedTurn_of fun _ => rfl, connectedTurn_of fun _ => rfl,
    connectedTurn_of fun _ => rfl, connectedTurn_of fun _ => rfl, trivial⟩

end Sample

end IamAuth
