import IamAuth.Totp

/-!
# Recovery codes and the enrolment they belong to

enroll_totp stores a secret, deletes the old codes, ignoring the failure, and
inserts the new ones one by one. The stored codes are read back from the log with
the calls that inserted them, and so is the secret.
-/

set_option autoImplicit false

namespace IamAuth

open Interleave Relational

/-! ## The calls -/

def Call.isEnroll : Call → Bool
  | .rpc _ _ .enrollTotp => true
  | _ => false

abbrev EnrollCall := {k : Call // k.isEnroll = true}

def EnrollCall.body (cr : Crates) (k : EnrollCall) : Handler Response := k.1.body cr

abbrev EnrollWorld := Pool EnrollCall Resp Failure Response State

abbrev EnrollAct := Label EnrollCall Choice Outage

/-- The user whose codes a statement deletes, or tries to. -/
def clearing : Event Resp → Option Uuid
  | ⟨.sql (.deleteRecoveryCodes u), _⟩ => some u
  | _ => none

/-- What the history `h` of a call says when it issues a statement. -/
def EnrollRule (h : List (Event Resp)) : Op → Prop
  | .sql (.getUserById _) => True
  | .sql (.setTotpSecret ..) => h.filterMap clearing = []
  | .sql (.deleteRecoveryCodes _) => True
  | .sql (.insertRecoveryCode u _) => u ∈ h.filterMap clearing
  | .sql (.insertAudit ..) => True
  | .sys _ => True
  | _ => False

/-- The codes of `u` that a call has inserted since it deleted the old ones. -/
def ownUpd (u : Uuid) (codes : Option (List String)) : Event Resp → Option (List String)
  | ⟨.sql (.deleteRecoveryCodes v), _⟩ => if v = u then some [] else codes
  | ⟨.sql (.insertRecoveryCode v hash), .ok _⟩ => if v = u then codes.map (· ++ [hash]) else codes
  | _ => codes

def ownCodes (u : Uuid) (h : List (Event Resp)) : Option (List String) := h.foldl (ownUpd u) none

/-- Whoever has stored a secret has also tried to delete the old codes. -/
def Cleared (h : List (Event Resp)) : Prop :=
  ∀ u, h.filterMap (secretWrite u) ≠ [] → u ∈ h.filterMap clearing

/-- What an enrolment that has ended has done. -/
def EnrollPost (cr : Crates) (k : Call) (h : List (Event Resp)) (r : Except Failure Response) : Prop :=
  Cleared h ∧ ∀ resp, r = .ok resp → ∃ svc md enrollment u, k = .rpc svc md .enrollTotp ∧
    resp = .enrollment enrollment ∧ cr.parseUuid (metaOf md "x-user-id") = some u ∧
    ownCodes u h = some (enrollment.recoveryCodes.map (hashToken cr))

def enrollMonitor : Monitor Resp (List (Event Resp)) := .history fun h e => EnrollRule h e.1

@[simp] theorem enrollMonitor_upd (h : List (Event Resp)) (e : Event Resp) :
    enrollMonitor.upd h e = h ++ [e] := rfl

@[simp] theorem enrollMonitor_ok (h : List (Event Resp)) (e : Event Resp) :
    enrollMonitor.ok h e = EnrollRule h e.1 := rfl

theorem Cleared.snoc {h : List (Event Resp)} (hh : Cleared h) {e : Event Resp}
    (he : ∀ u, secretWrite u e = none) : Cleared (h ++ [e]) := by
  intro u hu
  rw [List.filterMap_append] at hu ⊢
  have hnone : List.filterMap (secretWrite u) [e] = [] := by simp [he u]
  rw [hnone, List.append_nil] at hu
  exact List.mem_append_left _ (hh u hu)

theorem ownCodes_snoc (u : Uuid) (h : List (Event Resp)) (e : Event Resp) :
    ownCodes u (h ++ [e]) = ownUpd u (ownCodes u h) e := by
  rw [ownCodes, List.foldl_append]
  rfl

/-- The loop over the codes. -/
theorem along_insertCodes (cr : Crates) (u : Uuid) (failure : Failure) (codes : List String)
    (acc : List String) {h : List (Event Resp)} (hdel : u ∈ h.filterMap clearing) (hh : Cleared h)
    (hacc : ownCodes u h = some acc) :
    (Prog.forEach (fun code => query (.insertRecoveryCode u (hashToken cr code)) failure) codes).Along
      enrollMonitor (fun h' r => Cleared h' ∧
        (r = .ok () → ownCodes u h' = some (acc ++ codes.map (hashToken cr)))) h := by
  induction codes generalizing h acc with
  | nil => exact ⟨hh, fun _ => by simp [hacc]⟩
  | cons code codes ih =>
    refine (Prog.along_bind _ _ _ _ _).mpr ((along_query _ _ _).mpr ⟨fun r => ⟨hdel, ?_⟩, fun d => ⟨hdel, ?_⟩⟩)
    · have hnext := ih (acc ++ [hashToken cr code])
        (h := h ++ [⟨.sql (.insertRecoveryCode u (hashToken cr code)), .ok r⟩])
        (by rw [List.filterMap_append]; exact List.mem_append_left _ hdel)
        (hh.snoc fun _ => rfl) (by rw [ownCodes_snoc, hacc]; simp [ownUpd])
      rw [List.append_assoc] at hnext
      exact hnext
    · exact ⟨hh.snoc fun _ => rfl, fun h => by cases h⟩

theorem cleared_of_none {h : List (Event Resp)} (hh : ∀ u, h.filterMap (secretWrite u) = []) :
    Cleared h := fun u hu => absurd (hh u) hu

theorem enrollPost_error {cr : Crates} {k : Call} {h : List (Event Resp)} {f : Failure}
    (hh : Cleared h) : EnrollPost cr k h (.error f) :=
  ⟨hh, fun _ h => by cases h⟩

theorem along_enroll (cr : Crates) (svc : AuthSvc) (md : MetadataMap) :
    (Call.body cr (.rpc svc md .enrollTotp)).Along enrollMonitor
      (EnrollPost cr (.rpc svc md .enrollTotp)) [] := by
  have herror : ∀ {h : List (Event Resp)} {f : Failure}, (∀ u, h.filterMap (secretWrite u) = []) →
      EnrollPost cr (.rpc svc md .enrollTotp) h (.error f) :=
    fun hnone => enrollPost_error (cleared_of_none hnone)
  simp [-List.mem_filterMap, Call.body, Rpc.handle, enrollTotp, EnrollRule]
  refine ⟨fun _ => herror fun _ => rfl, fun u hu => ⟨fun user => ⟨fun _ => herror fun _ => rfl,
    fun _ _ => ⟨fun _ => herror fun _ => rfl, fun secret _ recovery _ => ⟨fun _ => herror fun _ => rfl,
    fun stored _ => ⟨fun _ => ⟨⟨rfl, rfl, rfl, rfl⟩, fun r => ?_⟩,
      fun _ => ⟨⟨rfl, rfl, rfl, rfl⟩, herror fun _ => rfl⟩⟩⟩⟩⟩, herror fun _ => rfl,
    fun _ => herror fun _ => rfl⟩⟩
  have hown : ∀ {h' : List (Event Resp)}, Cleared h' ∧ (Except.ok () = (.ok () : Except Failure Unit) →
      ownCodes u h' = some ([] ++ recovery.map (hashToken cr))) →
      EnrollPost cr (.rpc svc md .enrollTotp) h'
        (.ok (.enrollment ⟨secret.base32, secret.otpauthUri, recovery⟩)) := by
    intro h' hpost
    refine ⟨hpost.1, fun resp hresp => ?_⟩
    cases hresp
    exact ⟨svc, md, _, u, rfl, rfl, hu, hpost.2 rfl⟩
  refine (along_insertCodes cr u _ recovery [] ?_ ?_ ?_).mono fun h' r hpost => ?_
  · exact List.mem_singleton_self u
  · intro v hv
    have hvu : u = v := by
      by_contra hne
      exact hv (by simp [secretWrite, hne])
    subst hvu
    exact List.mem_singleton_self u
  · simp [ownCodes, ownUpd]
  · cases r with
    | error f => exact enrollPost_error hpost.1
    | ok _ =>
      simp [audit]
      refine ⟨fun _ _ => ⟨trivial, hown ⟨hpost.1.snoc fun _ => rfl, fun _ => ?_⟩⟩, fun _ => hown hpost⟩
      rw [ownCodes_snoc]
      exact hpost.2 rfl

theorem along_enrollBody (cr : Crates) (k : EnrollCall) :
    (k.body cr).Along enrollMonitor (EnrollPost cr k.1) [] := by
  obtain ⟨k, hk⟩ := k
  cases k with
  | rpc svc md r =>
    cases r <;> try exact (Bool.false_ne_true hk).elim
    exact along_enroll cr svc md
  | start env => cases hk
  | profileCreationFailed userId reason => cases hk

/-! ## The stored codes, with the calls that inserted them -/

/-- The hashes of the unused codes of `u`. -/
def codesOf (u : Uuid) (db : Db) : List String :=
  (db.totpRecoveryCodes.filter fun t => t.userId == u && t.usedAt.isNone).map (·.codeHash)

def storedUpd (u : Uuid) (codes : List (Option Nat × String)) :
    Nat × Event Resp → List (Option Nat × String)
  | (_, ⟨.sql (.deleteRecoveryCodes v), .ok _⟩) => if v = u then [] else codes
  | (i, ⟨.sql (.insertRecoveryCode v hash), .ok _⟩) =>
    if v = u then codes ++ [(some i, hash)] else codes
  | _ => codes

/-- The codes that a log leaves; those of the start come from no call. -/
def storedCodes (u : Uuid) (db₀ : Db) (log : List (Nat × Event Resp)) : List (Option Nat × String) :=
  log.foldl (storedUpd u) ((codesOf u db₀).map fun hash => (none, hash))

theorem storedCodes_snoc (u : Uuid) (db₀ : Db) (log : List (Nat × Event Resp)) (x : Nat × Event Resp) :
    storedCodes u db₀ (log ++ [x]) = storedUpd u (storedCodes u db₀ log) x := by
  rw [storedCodes, List.foldl_append]
  rfl

/-- The call that stored the secret of `u`, or none if it is still that of the start. -/
def secretBy (u : Uuid) (log : List (Nat × Event Resp)) : Option Nat :=
  (Pool.labelled (secretWrite u) log).getLast?.map (·.1)

theorem secretBy_snoc (u : Uuid) (log : List (Nat × Event Resp)) (i : Nat) (e : Event Resp) :
    secretBy u (log ++ [(i, e)]) = if (secretWrite u e).isSome then some i else secretBy u log := by
  unfold secretBy
  rw [Pool.labelled_snoc]
  cases h : secretWrite u e <;> simp

theorem codesOf_frame {ts : List Table} {db db' : Db} (h : Frame ts db db')
    (hn : .totpRecoveryCodes ∉ ts) (u : Uuid) : codesOf u db' = codesOf u db := by
  rw [codesOf, codesOf, h.totpRecoveryCodes hn]

/-- What a statement of an enrolment does to the stored codes. -/
theorem codesOf_exec {conn : DbRole} {c : Choice} {s : Sql} {db db' : Db} {r : Reply s}
    {h : List (Event Resp)} (hrule : EnrollRule h (.sql s)) (hx : s.exec conn c db = .ok (r, db'))
    (u : Uuid) {codes : List (Option Nat × String)} (hcodes : codesOf u db = codes.map (·.2)) (i : Nat) :
    codesOf u db' = (storedUpd u codes (i, ⟨.sql s, .ok r⟩)).map (·.2) := by
  cases s <;> try exact hrule.elim
  case deleteRecoveryCodes v =>
    cases hx
    by_cases hv : v = u
    · subst hv
      simp [codesOf, Repo.deleteRecoveryCodes, deleteWhere, storedUpd, List.filter_filter]
      exact fun _ _ hu _ => hu
    · have hkeep : (deleteWhere (fun t => t.userId == v) db.totpRecoveryCodes).filter
          (fun t => t.userId == u && t.usedAt.isNone) =
          db.totpRecoveryCodes.filter fun t => t.userId == u && t.usedAt.isNone := by
        rw [deleteWhere, List.filter_filter]
        apply List.filter_congr
        intro t _
        by_cases ht : t.userId = u
        · have hne : u ≠ v := fun h => hv h.symm
          simp [ht, hne]
        · simp [ht]
      rw [codesOf, Repo.deleteRecoveryCodes, hkeep, storedUpd, if_neg hv]
      exact hcodes
  case insertRecoveryCode v hash =>
    simp only [Sql.exec, Repo.insertRecoveryCode] at hx
    split at hx
    · cases hx
      by_cases hv : v = u
      · subst hv
        simp [codesOf, storedUpd, List.filter_append, ← hcodes]
      · simp [codesOf, storedUpd, List.filter_append, hv, ← hcodes]
    · cases hx
  all_goals
    rw [codesOf_frame (Sql.exec_frame hx) (by simp [Sql.writes])]
    exact hcodes

/-! ## The invariants of a run -/

structure EnrollInv (cr : Crates) (conn : DbRole) (u : Uuid) (st : State) (w : EnrollWorld) : Prop where
  tracks : Pool.Tracks (fun _ => enrollMonitor) (fun k h r => EnrollPost cr k.1 h r) (fun _ => []) w
  folded : Pool.Folded (machine cr conn) (totpOf u) (totpUpd u) (totpOf u st) w
  stored : codesOf u w.state.db = (storedCodes u st.db w.log).map (·.2)

variable {cr : Crates} {conn : DbRole} {u : Uuid} {st : State} {w : EnrollWorld}

theorem enrollInv_init (cr : Crates) (conn : DbRole) (u : Uuid) (st : State) :
    EnrollInv cr conn u st (Pool.init st) where
  tracks := Pool.tracks_init st
  folded := Pool.folded_init st
  stored := by simp [storedCodes, Pool.init, Function.comp_def]

theorem EnrollInv.pending (h : EnrollInv cr conn u st w) {i : Nat} {o : Op}
    (hp : w.pending i = some o) : EnrollRule (w.hist i) o := by
  obtain ⟨k, -, hok⟩ :=
    h.tracks.pending_history hp ((machine cr conn).exec o (Sample.choice 0 0 "") w.state).1
  exact hok

theorem EnrollRule.keepsUsers {h : List (Event Resp)} {o : Op} (ho : EnrollRule h o) :
    KeepsUsers o := by
  cases o with
  | sql s => cases s <;> first | exact ho.elim | trivial
  | redis c => trivial
  | sys s => trivial

theorem enrollInv_next (h : EnrollInv cr conn u st w) (l : EnrollAct) :
    EnrollInv cr conn u st (Pool.next (machine cr conn) (EnrollCall.body cr) w l) where
  tracks := Pool.tracks_next (along_enrollBody cr) l h.tracks
  folded := Pool.folded_next (totpColumn cr conn u) (fun _ _ hp => (h.pending hp).keepsUsers)
    h.folded l
  stored := by
    refine Pool.logged_next (R := fun log (s : State) =>
      codesOf u s.db = (storedCodes u st.db log).map (·.2)) l h.stored (fun i c o _ hp => ?_) fun e => ?_
    · have hrule := h.pending hp
      rw [storedCodes_snoc]
      cases o with
      | redis r => exact hrule.elim
      | sys s => exact h.stored
      | sql s =>
        rw [exec_sql_db, exec_sql_reply]
        rcases Sql.run_cases conn s c w.state.db with ⟨e, he⟩ | ⟨r, db', hx, hr⟩
        · rw [he]
          have hsame : storedUpd u (storedCodes u st.db w.log) (i, ⟨.sql s, .error e⟩) =
              storedCodes u st.db w.log := by cases s <;> rfl
          rw [hsame]
          exact h.stored
        · rw [hr]
          exact codesOf_exec hrule hx u h.stored i
    · cases e
      exact h.stored

/-! ## One enrolment at a time -/

/-- When a call inserts a code of `u`, the secret of `u` is the one that it stored. -/
def ownSecret (u : Uuid) (w : EnrollWorld) : EnrollAct → Prop
  | .step i c => c.fails = false →
      ∀ hash, w.pending i = some (.sql (.insertRecoveryCode u hash)) → secretBy u w.log = some i
  | _ => True

/-- When a call deletes the codes of `u`, there are none, or the statement meets no
failure of the database. -/
def oldCodesGo (u : Uuid) (w : EnrollWorld) : EnrollAct → Prop
  | .step i c => w.pending i = some (.sql (.deleteRecoveryCodes u)) →
      codesOf u w.state.db = [] ∨ c.fails = false
  | _ => True

/-- The stored codes come from the call that stored the secret, unless that call has
yet to delete the old ones. -/
def Settled (u : Uuid) (db₀ : Db) (log : List (Nat × Event Resp)) : Prop :=
  (∀ p ∈ storedCodes u db₀ log, p.1 = secretBy u log) ∨
  ∃ i, secretBy u log = some i ∧ (i, u) ∉ Pool.labelled clearing log

section Settled

variable {db₀ : Db} {log : List (Nat × Event Resp)} {i : Nat} {e : Event Resp}

theorem Settled.quiet (h : Settled u db₀ log)
    (hcodes : storedUpd u (storedCodes u db₀ log) (i, e) = storedCodes u db₀ log)
    (hsecret : secretWrite u e = none) (hclear : clearing e ≠ some u) :
    Settled u db₀ (log ++ [(i, e)]) := by
  have hby : secretBy u (log ++ [(i, e)]) = secretBy u log := by simp [secretBy_snoc, hsecret]
  unfold Settled
  rw [storedCodes_snoc, hcodes, hby]
  rcases h with hsame | ⟨j, hj, hnone⟩
  · exact .inl hsame
  · refine .inr ⟨j, hj, ?_⟩
    rw [Pool.labelled_snoc, List.mem_append, not_or]
    refine ⟨hnone, ?_⟩
    cases hc : clearing e with
    | none => simp
    | some v =>
      have hne : u ≠ v := fun huv => hclear (huv ▸ hc)
      simp [hne]

/-- An attempt to delete the codes, after which there are none. -/
theorem Settled.of_empty (hcodes : storedUpd u (storedCodes u db₀ log) (i, e) = []) :
    Settled u db₀ (log ++ [(i, e)]) := by
  left
  rw [storedCodes_snoc, hcodes]
  intro p hp
  cases hp

/-- A new secret, of a call that has yet to delete the codes. -/
theorem Settled.store (hsecret : (secretWrite u e).isSome = true) (hclear : clearing e = none)
    (hnone : (i, u) ∉ Pool.labelled clearing log) : Settled u db₀ (log ++ [(i, e)]) := by
  refine .inr ⟨i, by simp [secretBy_snoc, hsecret], ?_⟩
  rw [Pool.labelled_snoc, hclear]
  simpa using hnone

/-- A new code, of the call that stored the secret and has deleted the codes. -/
theorem Settled.insert (hash : String) (h : Settled u db₀ log)
    (hcodes : storedUpd u (storedCodes u db₀ log) (i, e) = storedCodes u db₀ log ++ [(some i, hash)])
    (hsecret : secretWrite u e = none) (hby : secretBy u log = some i)
    (hcleared : (i, u) ∈ Pool.labelled clearing log) : Settled u db₀ (log ++ [(i, e)]) := by
  left
  rw [storedCodes_snoc, hcodes, secretBy_snoc, hsecret]
  intro p hp
  rcases List.mem_append.mp hp with hp | hp
  · rcases h with hsame | ⟨j, hj, hnone⟩
    · exact hsame p hp
    · obtain rfl : i = j := Option.some.inj (hby.symm.trans hj)
      exact absurd hcleared hnone
  · obtain rfl := List.mem_singleton.mp hp
    exact hby.symm

end Settled

/-- After an attempt to delete the codes there are none. -/
theorem EnrollInv.clears (h : EnrollInv cr conn u st w) {i : Nat} {c : Choice} {o : Op}
    (hp : w.pending i = some o) (hgo : oldCodesGo u w (.step i c))
    (hc : clearing ⟨o, ((machine cr conn).exec o c w.state).1⟩ = some u) :
    storedUpd u (storedCodes u st.db w.log) (i, ⟨o, ((machine cr conn).exec o c w.state).1⟩) = [] := by
  cases o with
  | redis r => cases hc
  | sys s => cases hc
  | sql s =>
    cases s <;> try cases hc
    rw [exec_sql_reply]
    rcases hgo hp with hnone | hfails
    · have hempty : storedCodes u st.db w.log = [] := by
        have hstored := h.stored
        rw [hnone] at hstored
        exact List.map_eq_nil_iff.mp hstored.symm
      rw [hempty]
      rcases Sql.run_cases conn (.deleteRecoveryCodes u) c w.state.db with ⟨e, he⟩ | ⟨r, db', -, hr⟩
      · rw [he]
        rfl
      · rw [hr]
        simp [storedUpd]
    · simp [Sql.run, hfails, Sql.exec, storedUpd]

theorem settled_next (h : EnrollInv cr conn u st w) (l : EnrollAct) (hown : ownSecret u w l)
    (hgo : oldCodesGo u w l) (hw : Settled u st.db w.log) :
    Settled u st.db (Pool.next (machine cr conn) (EnrollCall.body cr) w l).log := by
  refine Pool.logged_next (R := fun log _ => Settled u st.db log) l hw (fun i c o hl hp => ?_)
    fun _ => hw
  subst hl
  have hrule := h.pending hp
  by_cases hclear : clearing ⟨o, ((machine cr conn).exec o c w.state).1⟩ = some u
  · exact Settled.of_empty (h.clears hp hgo hclear)
  cases o with
  | redis r => exact hrule.elim
  | sys s => exact hw.quiet rfl rfl hclear
  | sql s =>
    rw [exec_sql_reply] at hclear ⊢
    rcases Sql.run_cases conn s c w.state.db with ⟨e, he⟩ | ⟨r, db', hx, hr⟩
    · rw [he] at hclear ⊢
      exact hw.quiet (by cases s <;> rfl) (by cases s <;> rfl) hclear
    · have hfails : c.fails = false := by
        have hreply : ((machine cr conn).exec (.sql s) c w.state).1 = .ok r := congrArg Prod.fst hr
        exact (exec_sql_ok hreply).1
      rw [hr] at hclear ⊢
      cases s <;> try exact hrule.elim
      case setTotpSecret v secret =>
        by_cases hv : v = u
        · subst hv
          refine Settled.store (by simp [secretWrite]) rfl fun hmem => ?_
          have hcleared := Pool.mem_labelled.1 hmem
          rw [show (w.hist i).filterMap clearing = [] from hrule] at hcleared
          cases hcleared
        · exact hw.quiet rfl (by simp [secretWrite, hv]) hclear
      case deleteRecoveryCodes v =>
        have hv : v ≠ u := fun h => hclear (congrArg some h)
        exact hw.quiet (by simp [storedUpd, hv]) rfl hclear
      case insertRecoveryCode v hash =>
        by_cases hv : v = u
        · subst hv
          exact Settled.insert hash hw (by simp [storedUpd]) rfl (hown hfails hash hp)
            (Pool.mem_labelled.2 hrule)
        · exact hw.quiet (by simp [storedUpd, hv]) rfl hclear
      all_goals exact hw.quiet rfl rfl hclear

/-! ## No call in flight -/

/-- The stored secret and the stored codes come from one call, or both from the start. -/
structure OneEnrolment (u : Uuid) (st : State) (w : EnrollWorld) : Prop where
  codes : codesOf u w.state.db = (storedCodes u st.db w.log).map (·.2)
  secret : ∀ p, totpOf u st = some p →
    (totpOf u w.state).map (·.1) = some ((Pool.lastWrite (secretWrite u) w.log).getD p.1)
  same : ∀ p ∈ storedCodes u st.db w.log, p.1 = secretBy u w.log

theorem EnrollInv.oneEnrolment (h : EnrollInv cr conn u st w) (hw : Settled u st.db w.log)
    (hquiet : ∀ i, w.pending i = none) : OneEnrolment u st w where
  codes := h.stored
  secret p hp := by
    rw [h.folded.now, hp, totpFold_some]
    rfl
  same := by
    rcases hw with hsame | ⟨i, hi, hnone⟩
    · exact hsame
    · -- The call that stored the secret has ended, and so it has tried to delete the codes.
      obtain ⟨⟨j, s⟩, hlast, rfl⟩ := Option.map_eq_some_iff.mp hi
      have hwrote := Pool.mem_labelled.1 (List.mem_of_getLast? hlast)
      obtain ⟨e, he, -⟩ := List.mem_filterMap.mp hwrote
      obtain ⟨r, hr⟩ := Pool.result_of_idle (h.tracks.fresh j e (Pool.mem_hist.1 he)) (hquiet j)
      obtain ⟨k, -, hpost⟩ := h.tracks.result_history hr
      have hcleared := hpost.1 u (List.ne_nil_of_mem hwrote)
      exact absurd (Pool.mem_labelled.2 hcleared) hnone

/-! ## An enrolment that no other call overlaps -/

/-- Call `i` is the only one in flight, and the codes it has inserted are those stored. -/
structure Lone (u : Uuid) (i : Nat) (w : EnrollWorld) : Prop where
  others : ∀ j, j ≠ i → w.pending j = none
  own : ∀ codes, ownCodes u (w.hist i) = some codes → codesOf u w.state.db = codes

/-- What an event adds to the codes stored it adds to the call's own. -/
theorem storedUpd_own {stored : List (Option Nat × String)} {own : Option (List String)} {i : Nat}
    {e : Event Resp} {codes : List String}
    (hown : ∀ codes, own = some codes → stored.map (·.2) = codes)
    (hclear : clearing e = some u → storedUpd u stored (i, e) = [])
    (h : ownUpd u own e = some codes) : (storedUpd u stored (i, e)).map (·.2) = codes := by
  obtain ⟨o, r⟩ := e
  cases o with
  | redis c => exact hown codes h
  | sys s => exact hown codes h
  | sql s =>
    cases s <;> try exact hown codes h
    case deleteRecoveryCodes v =>
      by_cases hv : v = u
      · subst hv
        rw [hclear rfl]
        simpa [ownUpd] using h
      · have hsame : storedUpd u stored (i, ⟨.sql (.deleteRecoveryCodes v), r⟩) = stored := by
          cases r <;> simp [storedUpd, hv]
        rw [hsame]
        exact hown codes (by simpa [ownUpd, hv] using h)
    case insertRecoveryCode v hash =>
      cases r with
      | error d => exact hown codes h
      | ok _ =>
        by_cases hv : v = u
        · simp only [ownUpd, hv, if_true, Option.map_eq_some_iff] at h
          obtain ⟨before, hbefore, rfl⟩ := h
          simp [storedUpd, hv, hown before hbefore]
        · have hsame : storedUpd u stored (i, ⟨.sql (.insertRecoveryCode v hash), .ok ()⟩) = stored := by
            simp [storedUpd, hv]
          rw [hsame]
          exact hown codes (by simpa [ownUpd, hv] using h)

theorem lone_next (h : EnrollInv cr conn u st w) (l : EnrollAct) (hgo : oldCodesGo u w l)
    (hstart : ∀ k, l ≠ .start k) {i : Nat} (hw : Lone u i w) :
    Lone u i (Pool.next (machine cr conn) (EnrollCall.body cr) w l) := by
  cases l with
  | start k => exact absurd rfl (hstart k)
  | env e => exact ⟨hw.others, by cases e; exact hw.own⟩
  | step j c =>
    cases hp : w.pending j with
    | none =>
      rw [Pool.next_idle hp]
      exact hw
    | some o =>
      obtain rfl : j = i := by
        by_contra hne
        rw [hw.others j hne] at hp
        cases hp
      constructor
      · intro k hk
        by_cases hlen : k < w.threads.length
        · rw [Pool.pending_next _ _ hlen (fun c' hl => hk (by cases hl; rfl))]
          exact hw.others k hk
        · have hnone : (Pool.next (machine cr conn) (EnrollCall.body cr) w (.step j c)).threads.length ≤ k := by
            rw [Pool.length_step]
            omega
          simp [Pool.pending, List.getElem?_eq_none hnone]
      · intro codes hcodes
        have hlog : (Pool.next (machine cr conn) (EnrollCall.body cr) w (.step j c)).log =
            w.log ++ [(j, ⟨o, ((machine cr conn).exec o c w.state).1⟩)] := (Pool.next_step hp c).2
        have hhist : (Pool.next (machine cr conn) (EnrollCall.body cr) w (.step j c)).hist j =
            w.hist j ++ [⟨o, ((machine cr conn).exec o c w.state).1⟩] := by
          simp [Pool.hist, hlog, List.filterMap_append, Pool.ownEvent]
        rw [hhist, ownCodes_snoc] at hcodes
        rw [(enrollInv_next h (.step j c)).stored, hlog, storedCodes_snoc]
        refine storedUpd_own (fun before hbefore => ?_) (h.clears hp hgo) hcodes
        rw [← h.stored]
        exact hw.own before hbefore

/-! ## Runs -/

/-- An enrolment of `u` that starts when no call is in flight and returns before
another one starts leaves exactly the codes that it returns. -/
def ReturnsCodes (cr : Crates) (conn : DbRole) (u : Uuid) (st : State) (ls : List EnrollAct) : Prop :=
  ∀ pre svc md h post enrollment,
    ls = pre ++ .start ⟨.rpc svc md .enrollTotp, h⟩ :: post → (∀ k, .start k ∉ post) →
    cr.parseUuid (metaOf md "x-user-id") = some u →
    (∀ i, (Pool.run (machine cr conn) (EnrollCall.body cr) (Pool.init st) pre).pending i = none) →
    (Pool.run (machine cr conn) (EnrollCall.body cr) (Pool.init st) ls).result
      (Pool.run (machine cr conn) (EnrollCall.body cr) (Pool.init st) pre).threads.length =
        some (.ok (.enrollment enrollment)) →
    codesOf u (Pool.run (machine cr conn) (EnrollCall.body cr) (Pool.init st) ls).state.db =
      enrollment.recoveryCodes.map (hashToken cr)

theorem enrollInv_run (cr : Crates) (conn : DbRole) (u : Uuid) (st : State) (ls : List EnrollAct) :
    EnrollInv cr conn u st (Pool.run (machine cr conn) (EnrollCall.body cr) (Pool.init st) ls) :=
  Pool.run_inv_all (I := EnrollInv cr conn u st) (fun _ l h => enrollInv_next h l) ls
    (enrollInv_init cr conn u st)

/-- The pool right after such a start. -/
theorem lone_start (h : EnrollInv cr conn u st w) (hquiet : ∀ i, w.pending i = none) (k : EnrollCall) :
    Lone u w.threads.length (Pool.next (machine cr conn) (EnrollCall.body cr) w (.start k)) where
  others j hj := by
    by_cases hlen : j < w.threads.length
    · rw [Pool.pending_next _ _ hlen fun c hl => by cases hl]
      exact hquiet j
    · have hnone : (Pool.next (machine cr conn) (EnrollCall.body cr) w (.start k)).threads.length ≤ j := by
        simp only [Pool.next, List.length_append, List.length_singleton]
        omega
      simp [Pool.pending, List.getElem?_eq_none hnone]
  own codes hcodes := by
    rw [Pool.hist_next_fresh h.tracks.fresh (Nat.le_refl _)] at hcodes
    cases hcodes

theorem returnsCodes (cr : Crates) (conn : DbRole) (u : Uuid) (st : State) {ls : List EnrollAct}
    (hgo : Pool.Each (machine cr conn) (EnrollCall.body cr) (oldCodesGo u) (Pool.init st) ls) :
    ReturnsCodes cr conn u st ls := by
  intro pre svc md hk post enrollment hls hstart huser hquiet hresult
  subst hls
  have hbefore := enrollInv_run cr conn u st pre
  have hpost := ((Pool.each_append _ _ _ _ _ _).mp hgo).2.2
  rw [Pool.run_append, Pool.run_cons] at hresult ⊢
  set w := Pool.run (machine cr conn) (EnrollCall.body cr) (Pool.init st) pre with hw
  set k : EnrollCall := ⟨.rpc svc md .enrollTotp, hk⟩ with hkdef
  have hnostart : Pool.Each (machine cr conn) (EnrollCall.body cr) (fun _ l => ∀ k, l ≠ .start k)
      (Pool.next (machine cr conn) (EnrollCall.body cr) w (.start k)) post := by
    apply Pool.each_of_forall
    intro _ l _ hsplit k' hl
    exact hstart k' (by simp [hsplit, hl])
  have hinv : EnrollInv cr conn u st (Pool.run (machine cr conn) (EnrollCall.body cr)
        (Pool.next (machine cr conn) (EnrollCall.body cr) w (.start k)) post) ∧
      Lone u w.threads.length (Pool.run (machine cr conn) (EnrollCall.body cr)
        (Pool.next (machine cr conn) (EnrollCall.body cr) w (.start k)) post) :=
    Pool.run_inv (I := fun w' => EnrollInv cr conn u st w' ∧ Lone u w.threads.length w')
      (fun _ l hl h => ⟨enrollInv_next h.1 l, lone_next h.1 l hl.1 hl.2 h.2⟩) (hpost.and hnostart)
      ⟨enrollInv_next hbefore _, lone_start hbefore hquiet k⟩
  obtain ⟨k', hcall, -, hended⟩ := hinv.1.tracks.result_history hresult
  have hstarted : (Pool.next (machine cr conn) (EnrollCall.body cr) w (.start k)).callOf
      w.threads.length = some k := by
    simp [Pool.next, Pool.callOf]
  obtain rfl : k = k' := Option.some.inj ((Pool.callOf_run hstarted post).symm.trans hcall)
  obtain ⟨svc', md', enrollment', u', hrpc, hresp, huser', hcodes⟩ := hended _ rfl
  cases hresp
  obtain ⟨-, rfl⟩ : svc = svc' ∧ md = md' := by
    cases hrpc
    exact ⟨rfl, rfl⟩
  obtain rfl : u = u' := Option.some.inj (huser.symm.trans huser')
  exact hinv.2.own _ hcodes

/-- In every run of enrolments in which each call inserts codes only for the secret
that it has stored itself, and no deletion of old codes fails, the stored codes
belong to the stored secret whenever no call is in flight. -/
theorem enrolment_codes (cr : Crates) (conn : DbRole) (u : Uuid) (st : State) {ls : List EnrollAct}
    (hown : Pool.Each (machine cr conn) (EnrollCall.body cr) (ownSecret u) (Pool.init st) ls)
    (hgo : Pool.Each (machine cr conn) (EnrollCall.body cr) (oldCodesGo u) (Pool.init st) ls) :
    Pool.Always (machine cr conn) (EnrollCall.body cr)
      (fun w => (∀ i, w.pending i = none) → OneEnrolment u st w) (Pool.init st) ls ∧
    ReturnsCodes cr conn u st ls := by
  refine ⟨fun pre hpre hquiet => ?_, returnsCodes cr conn u st hgo⟩
  obtain ⟨post, rfl⟩ := hpre
  have hconditions := (Pool.each_append _ _ _ _ _ _).mp (hown.and hgo)
  have hinv : EnrollInv cr conn u st
        (Pool.run (machine cr conn) (EnrollCall.body cr) (Pool.init st) pre) ∧
      Settled u st.db (Pool.run (machine cr conn) (EnrollCall.body cr) (Pool.init st) pre).log := by
    refine Pool.run_inv (I := fun w => EnrollInv cr conn u st w ∧ Settled u st.db w.log)
      (fun w l hl h => ⟨enrollInv_next h.1 l, settled_next h.1 l hl.1 hl.2 h.2⟩) hconditions.1
      ⟨enrollInv_init cr conn u st, .inl fun p hp => ?_⟩
    obtain ⟨_, _, rfl⟩ := List.mem_map.mp hp
    rfl
  exact hinv.1.oneEnrolment hinv.2 hquiet

namespace Sample

def enrollee : EnrollCall := ⟨.rpc svc (metadata 10 defaultTenantId "") .enrollTotp, rfl⟩

/-- The steps of an enrolment whose first code is `text`. -/
def enrolment (i : Nat) (text : String) : List EnrollAct :=
  List.replicate 16 (.step i { choice 0 0 text with texts := [text] })

/-- User 10 after an enrolment that was never activated. -/
def pendingEnrolment : State :=
  let st := stateOf (user 10 (some "s0") false)
  { st with db := { st.db with totpRecoveryCodes := [⟨1, 10, "old", none⟩] } }

/-- Two enrolments that both read the row first; one writes after the other has ended. -/
def overlapping : List EnrollAct :=
  [.start enrollee, .start enrollee] ++ (enrolment 0 "s1").take 4 ++ (enrolment 1 "s2").take 4 ++
    (enrolment 0 "s1").drop 4 ++ (enrolment 1 "s2").drop 4

/-- The next statement of call `i` inserts no code of `u`, or the secret is the one `i` stored. -/
def insertsOwn (u : Uuid) (w : EnrollWorld) : EnrollAct → Bool
  | .step i _ => match w.pending i with
    | some (.sql (.insertRecoveryCode v _)) => !(v == u) || secretBy u w.log == some i
    | _ => true
  | _ => true

theorem ownSecret_of_insertsOwn {u : Uuid} {w : EnrollWorld} {l : EnrollAct}
    (h : insertsOwn u w l = true) : ownSecret u w l := by
  cases l with
  | step i c =>
    intro _ hash hp
    simpa [insertsOwn, hp] using h
  | start k => trivial
  | env e => trivial

def answers (l : EnrollAct) : Bool :=
  match l with
  | .step _ c => !c.fails
  | _ => true

theorem oldCodesGo_of_answers {u : Uuid} {w : EnrollWorld} {l : EnrollAct}
    (h : answers l = true) : oldCodesGo u w l := by
  cases l with
  | step i c =>
    intro _
    exact .inr (by simpa [answers] using h)
  | start k => trivial
  | env e => trivial

/-- The old code and the codes of the first call are gone when both have ended. -/
theorem enrolment_codes_overlapping :
    Pool.Always (machine crates .superuser) (EnrollCall.body crates)
      (fun w => (∀ i, w.pending i = none) → OneEnrolment 10 pendingEnrolment w)
      (Pool.init pendingEnrolment) overlapping ∧
    ReturnsCodes crates .superuser 10 pendingEnrolment overlapping := by
  have hown : Pool.Each (machine crates .superuser) (EnrollCall.body crates)
      (fun w l => insertsOwn 10 w l = true) (Pool.init pendingEnrolment) overlapping := by
    decide +kernel
  have hgo : Pool.Each (machine crates .superuser) (EnrollCall.body crates)
      (fun _ l => answers l = true) (Pool.init pendingEnrolment) overlapping := by
    decide +kernel
  exact enrolment_codes crates .superuser 10 pendingEnrolment
    (hown.imp fun _ _ h => ownSecret_of_insertsOwn h) (hgo.imp fun _ _ h => oldCodesGo_of_answers h)

/-- The user enrols again, and the call cannot delete the old code. -/
def keptCode : List EnrollAct :=
  .start enrollee :: (enrolment 0 "s1").take 5 ++
    .step 0 { choice 0 0 "s1" with fails := true } :: (enrolment 0 "s1").drop 6

/-- The call succeeds, and the code of the replaced secret is still there. -/
theorem keptCode_mixed :
    let w := Pool.run (machine crates .superuser) (EnrollCall.body crates)
      (Pool.init pendingEnrolment) keptCode
    (∀ i, w.pending i = none) ∧
    w.result 0 = some (.ok (.enrollment ⟨"s1", "u@iam.local", "s1" :: List.replicate 9 ""⟩)) ∧
    codesOf 10 w.state.db = "old" :: "s1" :: List.replicate 9 "" ∧
    ¬OneEnrolment 10 pendingEnrolment w := by
  refine ⟨Pool.quiet_of_threads ?_, by decide, by decide, fun h => ?_⟩
  · intro i hi
    obtain rfl : i = 0 := Nat.lt_one_iff.mp hi
    rfl
  · have hold := h.same (none, "old") (by decide)
    exact absurd hold (by decide)

end Sample

end IamAuth
