import IamAuth.Frame
import IamAuth.System

/-!
# The keys of users

The table of users has a primary key and a unique e-mail. Every statement updates
rows without touching either, deletes rows, or inserts one that is new in both.
-/

set_option autoImplicit false

namespace IamAuth

open Interleave Relational

structure UserKeys (db : Db) : Prop where
  ids : (db.users.map (·.id)).Nodup
  emails : (db.users.map (·.email)).Nodup

/-- What a statement does to the table of users. -/
inductive UserStep (table : List UserRow) : List UserRow → Prop where
  | update (p : UserRow → Bool) (f : UserRow → UserRow) (hid : ∀ u, (f u).id = u.id)
      (hemail : ∀ u, (f u).email = u.email) : UserStep table (updateWhere p f table)
  | delete (p : UserRow → Bool) : UserStep table (deleteWhere p table)
  | insert (row : UserRow) (hnew : ∀ u ∈ table, u.id ≠ row.id ∧ u.email ≠ row.email) :
      UserStep table (table ++ [row])

section

variable {table table' : List UserRow} {conn : DbRole} {c : Choice} {s : Sql} {db db' : Db}
  {r : Reply s}

theorem UserStep.same (table : List UserRow) : UserStep table table := by
  have hstep : UserStep table (updateWhere (fun _ => false) id table) :=
    .update _ _ (fun _ => rfl) fun _ => rfl
  simpa [updateWhere] using hstep

theorem userStep_insert {id : Uuid} {email hash : String} (h : Repo.insertUser id email hash db = .ok db') :
    UserStep db.users db'.users := by
  unfold Repo.insertUser at h
  split at h
  · cases h
  · next hfresh =>
    cases h
    refine .insert _ fun u hu => ?_
    have hu := fun hany => hfresh (List.any_eq_true.mpr ⟨u, hu, hany⟩)
    simp only [Bool.or_eq_true, beq_iff_eq] at hu
    exact ⟨fun hid => hu (.inl hid), fun hemail => hu (.inr hemail)⟩

theorem userStep_updateUser (id : Uuid) {f : UserRow → UserRow} (hid : ∀ u, (f u).id = u.id)
    (hemail : ∀ u, (f u).email = u.email) :
    UserStep db.users (Repo.updateUser id f db).users := .update _ f hid hemail

theorem userStep_exec (h : s.exec conn c db = .ok (r, db')) : UserStep db.users db'.users := by
  by_cases hw : .users ∈ s.writes
  · cases s <;> simp only [Sql.writes, List.mem_cons, List.not_mem_nil, reduceCtorEq, or_self,
      or_false] at hw
    case createUserWithRole email hash role =>
      obtain ⟨db₁, -, hinsert, hroles⟩ := createUserWithRole_ok h
      rw [(frame_insertUserRoles hroles).users (by simp)]
      exact userStep_insert hinsert
    case createUserWithRoleEvent id email hash role eventType payload =>
      obtain ⟨db₁, db₂, hinsert, hroles, houtbox⟩ := createUserWithRoleEvent_ok h
      rw [(frame_insertOutbox houtbox).users (by simp), (frame_insertUserRoles hroles).users (by simp)]
      exact userStep_insert hinsert
    case deleteUserEventSoft id hard eventType payload =>
      rw [(frame_insertOutbox (deleteUserEventSoft_ok h)).users (by simp)]
      cases hard with
      | true => exact .delete _
      | false => exact .update _ _ (fun _ => rfl) fun _ => rfl
    case restoreUserEvent id eventType payload =>
      rw [(frame_insertOutbox (restoreUserEvent_ok h)).users (by simp)]
      exact userStep_updateUser id (fun _ => rfl) fun _ => rfl
    case incrementLoginFailure id =>
      simp only [Sql.exec, Repo.incrementLoginFailure] at h
      split at h
      · cases h
      · split at h <;> cases h
        exact userStep_updateUser id (fun _ => rfl) fun _ => rfl
    all_goals
      cases h
      exact userStep_updateUser _ (fun _ => rfl) fun _ => rfl
  · rw [(Sql.exec_frame h).users hw]
    exact .same _

/-- A column that no update touches and that insertions keep apart stays a key. -/
theorem UserStep.nodup {κ : Type} {key : UserRow → κ} (hstep : UserStep table table')
    (hupdate : ∀ f : UserRow → UserRow, (∀ u, (f u).id = u.id) → (∀ u, (f u).email = u.email) →
      ∀ u, key (f u) = key u)
    (hinsert : ∀ u row : UserRow, u.id ≠ row.id ∧ u.email ≠ row.email → key u ≠ key row)
    (h : (table.map key).Nodup) : (table'.map key).Nodup := by
  cases hstep with
  | update p f hid hemail =>
    rw [map_updateWhere _ fun u _ => hupdate f hid hemail u]
    exact h
  | delete p => exact h.sublist (List.filter_sublist.map _)
  | insert row hnew =>
    rw [List.map_append]
    refine List.nodup_append.mpr ⟨h, by simp, ?_⟩
    intro a ha b hb
    obtain ⟨u, hu, rfl⟩ := List.mem_map.mp ha
    obtain rfl := List.mem_singleton.mp hb
    exact hinsert u row (hnew u hu)

theorem userKeys_exec (h : s.exec conn c db = .ok (r, db')) (hdb : UserKeys db) : UserKeys db' where
  ids := (userStep_exec h).nodup (fun _ hid _ => hid) (fun _ _ hne => hne.1) hdb.ids
  emails := (userStep_exec h).nodup (fun _ _ hemail => hemail) (fun _ _ hne => hne.2) hdb.emails

end

theorem userKeys_run (cr : Crates) (conn : DbRole) (redis : Redis) (ls : List Act) :
    UserKeys (runFrom cr conn ⟨migrated, redis⟩ ls).state.db :=
  db_run cr conn userKeys_exec (show UserKeys migrated from ⟨List.nodup_nil, List.nodup_nil⟩) ls

end IamAuth
