import IamAuth.PermCache

/-!
# Coherence of the permission cache

In a run in which Redis does what it documents, an entry that is neither what the
database gives nor still to be deleted comes from one of two places: a write of
what the database no longer gives, or a statement that changes permissions and is
not followed by an invalidation.
-/

set_option autoImplicit false

namespace IamAuth

open Interleave

/-! ## Invalidations of a pool -/

/-- How far the invalidation of call `i` is. -/
def inval (cr : Crates) (w : World) (i : Nat) : Invalidation :=
  match w.callOf i with
  | some k => Pool.ghost (permsMonitor cr) (fun _ => .idle) k w.log i
  | none => .idle

abbrev TracksPerms (cr : Crates) (w : World) : Prop :=
  Pool.Tracks (permsMonitor cr) (fun _ => permsPost) (fun _ => .idle) w

section Inval

variable {cr : Crates} {conn : DbRole} {w : World}

theorem inval_of_call {i : Nat} {k : Call} (hk : w.callOf i = some k) :
    inval cr w i = Pool.ghost (permsMonitor cr) (fun _ => .idle) k w.log i := by
  simp only [inval, hk]

/-- The next statement of a call is the one its invalidation needs, if any. -/
theorem TracksPerms.due (h : TracksPerms cr w) {i : Nat} {o : Op} (hp : w.pending i = some o)
    (r : Resp o) : (inval cr w i).due cr o := by
  obtain ⟨k, hk, hok⟩ := Pool.Tracks.pending h hp r
  rw [inval_of_call hk]
  exact hok

/-- A call that has ended has no invalidation to go on with. -/
theorem TracksPerms.ended (h : TracksPerms cr w) {i : Nat} (hp : w.pending i = none) :
    (inval cr w i).ended := by
  cases hk : w.callOf i with
  | none => exact .inl (by simp [inval, hk])
  | some k =>
    obtain ⟨⟨k', p⟩, ht, rfl⟩ := Option.map_eq_some_iff.mp hk
    cases p with
    | done r =>
      rw [inval_of_call hk]
      exact h.along i _ ht
    | call o f =>
      rw [Pool.pending_eq_some.2 ⟨k', f, ht⟩] at hp
      cases hp

variable (cr conn) in
/-- A statement moves on the invalidation of its own call only. -/
theorem inval_step {i : Nat} {o : Op} (hp : w.pending i = some o) (c : Choice) :
    ∃ k, w.callOf i = some k ∧
      inval cr (Pool.next (machine cr conn) (Call.body cr) w (.step i c)) i =
        (permsMonitor cr k).upd (inval cr w i) ⟨o, ((machine cr conn).exec o c w.state).1⟩ ∧
      ∀ j, j ≠ i → inval cr (Pool.next (machine cr conn) (Call.body cr) w (.step i c)) j =
        inval cr w j := by
  obtain ⟨k, f, hi⟩ := Pool.pending_eq_some.1 hp
  have hk : w.callOf i = some k := by simp [Pool.callOf, hi]
  have hlog : (Pool.next (machine cr conn) (Call.body cr) w (.step i c)).log =
      w.log ++ [(i, ⟨o, ((machine cr conn).exec o c w.state).1⟩)] := (Pool.next_step hp c).2
  refine ⟨k, hk, ?_, ?_⟩
  · rw [inval_of_call (Pool.callOf_next _ _ hk _), inval_of_call hk, hlog, Pool.ghost_snoc_self]
  · intro j hj
    have hij : i ≠ j := fun hij => hj hij.symm
    cases hkj : w.callOf j with
    | some k' =>
      rw [inval_of_call (Pool.callOf_next _ _ hkj _), inval_of_call hkj, hlog,
        Pool.ghost_snoc_ne hij]
    | none =>
      have hsame : (Pool.next (machine cr conn) (Call.body cr) w (.step i c)).callOf j = none := by
        rw [← hkj]
        simp [Pool.next, hi, Pool.callOf, List.getElem?_set_ne hij]
      simp [inval, hkj, hsame]

/-- A call that starts has no invalidation. -/
theorem inval_start (h : TracksPerms cr w) (k : Call) (j : Nat) :
    inval cr (Pool.next (machine cr conn) (Call.body cr) w (.start k)) j = inval cr w j := by
  cases hj : w.callOf j with
  | some k' =>
    rw [inval_of_call hj, inval_of_call (Pool.callOf_next _ _ hj _)]
    rfl
  | none =>
    have hnew : w.hist j = [] := by
      apply Pool.hist_fresh h.fresh
      simpa [Pool.callOf] using hj
    have hidle : inval cr w j = .idle := by simp [inval, hj]
    rw [hidle]
    unfold inval
    split
    · next k' _ =>
      change (w.hist j).foldl (permsMonitor cr k').upd .idle = .idle
      rw [hnew]
      rfl
    · rfl

end Inval

/-! ## What Redis promises -/

/-- The event begins a scan. -/
def opensScan : Event Resp → Bool
  | ⟨.redis (.scan 0 _), _⟩ => true
  | _ => false

/-- The event writes this key. -/
def setsKey (key : String) : Event Resp → Bool
  | ⟨.redis (.setEx key' ..), _⟩ => key' == key
  | _ => false

/-- The key has not been written since call `j` began its scan. -/
def Untouched (w : World) (j : Nat) (key : String) : Prop :=
  ∀ x ∈ Pool.since opensScan j w.log, setsKey key x.2 = false

instance (w : World) (j : Nat) (key : String) : Decidable (Untouched w j key) :=
  inferInstanceAs (Decidable (∀ x ∈ Pool.since opensScan j w.log, _))

/-- A full iteration of SCAN returns every key that was there from its beginning
to its end. -/
def ScanReturns (cr : Crates) (w : World) (i : Nat) (c : Choice) (cursor : Nat)
    (pattern : String) : Prop :=
  c.cursor = 0 → ∀ e ∈ w.state.redis, c.now < e.expiresAt →
    globMatch pattern.toList e.key.toList = true → (cursor ≠ 0 → Untouched w i e.key) →
    e.key ∈ c.texts ∨ (cursor ≠ 0 ∧ e.key ∈ (inval cr w i).returned)

instance (cr : Crates) (w : World) (i : Nat) (c : Choice) (cursor : Nat) (pattern : String) :
    Decidable (ScanReturns cr w i c cursor pattern) :=
  inferInstanceAs (Decidable (_ → ∀ e ∈ w.state.redis, _))

/-- The command that call `i` is about to issue succeeds, and a scan that it ends
has been complete. No invalidation runs out of replies. -/
def RedisWorks (cr : Crates) (conn : DbRole) (w : World) : Act → Prop
  | .step i c =>
    (match w.pending i with
      | some (.redis (.scan cursor pattern)) =>
        c.fails = false ∧ ScanReturns cr w i c cursor pattern
      | some (.redis _) => c.fails = false
      | _ => True) ∧
    (inval cr (Pool.next (machine cr conn) (Call.body cr) w (.step i c)) i).exhausted = false
  | _ => True

instance (cr : Crates) (conn : DbRole) (w : World) (l : Act) :
    Decidable (RedisWorks cr conn w l) := by
  unfold RedisWorks
  split
  · refine @instDecidableAnd _ _ ?_ inferInstance
    split <;> infer_instance
  · infer_instance

/-! ## Where stale entries come from -/

/-- What is written to the cache is what the database gives, or a role change of
its user has committed and not begun its scan. -/
def WritesFresh (cr : Crates) (conn : DbRole) (w : World) : Act → Prop
  | .step i _ =>
    match w.pending i with
    | some (.redis (.setEx key value _)) => ∀ s ∈ scopeOf cr key,
      value = cr.permsToJson (s.perms conn w.state.db) ∨
      ∃ j, (inval cr w j).unbegun s.user = true
    | _ => True
  | _ => True

/-- The statement changes roles of this user. -/
def changesRoles (user : Uuid) : Sql → Bool
  | .assignRole u .. => u == user
  | .revokeRole u .. => u == user
  | _ => false

/-- The statement is a role change that its call will follow by an invalidation. -/
def announced (cr : Crates) (w : World) (i : Nat) (q : Sql) (user : Uuid) : Bool :=
  changesRoles user q && ((w.callOf i).bind (Call.invalidates cr)).isSome

/-- For every scope with an entry unexpired at `now`, the next statement leaves the
permissions as they are, or is a role change that its call follows by an
invalidation, or leaves the user in `G`; and who is in `G` stays there. -/
def KeepsPerms (cr : Crates) (conn : DbRole) (G : Uuid → Db → Prop) (now : DateTime)
    (w : World) : Act → Prop
  | .step i c =>
    match w.pending i with
    | some (.sql q) => ∀ e ∈ w.state.redis, now < e.expiresAt → ∀ s ∈ scopeOf cr e.key,
      (s.perms conn (q.run conn c w.state.db).2 = s.perms conn w.state.db ∨
        announced cr w i q s.user = true ∨ G s.user (q.run conn c w.state.db).2) ∧
      (G s.user w.state.db → G s.user (q.run conn c w.state.db).2)
    | _ => True
  | _ => True

instance (cr : Crates) (conn : DbRole) (G : Uuid → Db → Prop) [∀ u db, Decidable (G u db)]
    (now : DateTime) (w : World) (l : Act) : Decidable (KeepsPerms cr conn G now w l) := by
  unfold KeepsPerms
  split
  · split <;> infer_instance
  · infer_instance

/-! ## The clock of Redis -/

/-- The time on the clock of Redis: that of the last command. -/
def redisNow (w : World) (now : DateTime) : Act → DateTime
  | .step i c =>
    match w.pending i with
    | some (.redis _) => c.now
    | _ => now
  | _ => now

/-- `P` holds of every label of a run, at the time on the clock of Redis. -/
def Timed (cr : Crates) (conn : DbRole) (P : DateTime → World → Act → Prop) :
    DateTime → World → List Act → Prop
  | _, _, [] => True
  | now, w, l :: ls => P now w l ∧
    Timed cr conn P (redisNow w now l) (Pool.next (machine cr conn) (Call.body cr) w l) ls

instance decidableTimed (cr : Crates) (conn : DbRole) (P : DateTime → World → Act → Prop)
    [∀ now w l, Decidable (P now w l)] :
    (now : DateTime) → (w : World) → (ls : List Act) → Decidable (Timed cr conn P now w ls)
  | _, _, [] => isTrue trivial
  | now, w, l :: ls =>
    have := decidableTimed cr conn P (redisNow w now l)
      (Pool.next (machine cr conn) (Call.body cr) w l) ls
    inferInstanceAs (Decidable (P now w l ∧ Timed cr conn P _ _ ls))

/-- The time on the clock of Redis at the end of a run. -/
def redisTime (cr : Crates) (conn : DbRole) : DateTime → World → List Act → DateTime
  | now, _, [] => now
  | now, w, l :: ls =>
    redisTime cr conn (redisNow w now l) (Pool.next (machine cr conn) (Call.body cr) w l) ls

theorem timed_inv {cr : Crates} {conn : DbRole} {P : DateTime → World → Act → Prop}
    {I : DateTime → World → Prop} (hnext : ∀ now w l, P now w l → I now w →
      I (redisNow w now l) (Pool.next (machine cr conn) (Call.body cr) w l))
    {now : DateTime} {w : World} {ls : List Act} (hP : Timed cr conn P now w ls) (hI : I now w) :
    I (redisTime cr conn now w ls) (Pool.run (machine cr conn) (Call.body cr) w ls) := by
  induction ls generalizing now w with
  | nil => exact hI
  | cons l ls ih => exact ih hP.2 (hnext now w l hP.1 hI)

theorem timed_append {cr : Crates} {conn : DbRole} {P : DateTime → World → Act → Prop}
    {now : DateTime} {w : World} {ls ls' : List Act} : Timed cr conn P now w (ls ++ ls') ↔
      Timed cr conn P now w ls ∧ Timed cr conn P (redisTime cr conn now w ls)
        (Pool.run (machine cr conn) (Call.body cr) w ls) ls' := by
  induction ls generalizing now w with
  | nil => simp [Timed, redisTime]
  | cons l ls ih => simp only [List.cons_append, Timed, redisTime, Pool.run_cons, ih, and_assoc]

/-! ## The invariant -/

/-- The invalidation still deletes this entry of the user, `kept` being whether the
key is not written meanwhile. -/
def Invalidation.Owes (user : Uuid) (key : String) (kept : Prop) : Invalidation → Prop
  | .idle => False
  | .scanning u returned next _ => u = user ∧
    ((next = 0 ∧ returned = []) ∨ (next ≠ 0 ∧ key ∉ returned ∧ kept))
  | .deleting u returned next keys _ => u = user ∧
    (key ∈ keys ∨ (next ≠ 0 ∧ key ∉ returned ∧ kept))

theorem Invalidation.Owes.imp {user : Uuid} {key : String} {kept kept' : Prop} {g : Invalidation}
    (h : g.Owes user key kept) (hkept : kept → kept') : g.Owes user key kept' := by
  cases g with
  | idle => exact h
  | scanning u returned next fuel =>
    exact ⟨h.1, h.2.imp_right fun ⟨hnext, hkey, hold⟩ => ⟨hnext, hkey, hkept hold⟩⟩
  | deleting u returned next keys fuel =>
    exact ⟨h.1, h.2.imp_right fun ⟨hnext, hkey, hold⟩ => ⟨hnext, hkey, hkept hold⟩⟩

theorem Invalidation.owes_proceed {user : Uuid} {key : String} {kept : Prop}
    {returned : List String} {next : Nat} (hnext : next ≠ 0) (hkey : key ∉ returned) (hkept : kept)
    (fuel : Nat) : (proceed user returned next fuel).Owes user key kept := by
  rw [proceed, if_neg hnext]
  exact ⟨rfl, .inr ⟨hnext, hkey, hkept⟩⟩

theorem Invalidation.owes_found {user : Uuid} {key : String} {kept : Prop}
    {returned keys : List String} {next : Nat}
    (h : key ∈ keys ∨ (next ≠ 0 ∧ key ∉ returned ∧ kept)) (fuel : Nat) :
    (found user returned next keys fuel).Owes user key kept := by
  unfold found
  split
  · next hempty =>
    rw [List.isEmpty_iff.mp hempty] at h
    rcases h with hkey | ⟨hnext, hkey, hkept⟩
    · cases hkey
    · exact owes_proceed hnext hkey hkept fuel
  · exact ⟨rfl, h⟩

theorem Invalidation.owes_unbegun {user : Uuid} {key : String} {kept : Prop} {g : Invalidation}
    (h : g.unbegun user = true) : g.Owes user key kept := by
  unfold unbegun at h
  split at h
  · exact ⟨by simpa using h, .inl ⟨rfl, rfl⟩⟩
  · cases h

/-- Call `j` will still delete this entry of the user. -/
def Covers (cr : Crates) (w : World) (j : Nat) (user : Uuid) (key : String) : Prop :=
  (inval cr w j).Owes user key (Untouched w j key)

/-- At time `now` every entry is what the database gives, or its user is in `G`, or
some call will still delete it. -/
structure CacheInv (cr : Crates) (conn : DbRole) (G : Uuid → Db → Prop) (w : World)
    (now : DateTime) : Prop where
  tracks : TracksPerms cr w
  alive : ∀ j, (inval cr w j).exhausted = false
  entries : ∀ e ∈ w.state.redis, now < e.expiresAt → ∀ s, scopeOf cr e.key = some s →
    e.value = cr.permsToJson (s.perms conn w.state.db) ∨ G s.user w.state.db ∨
    ∃ j, Covers cr w j s.user e.key

/-- Every entry that has not expired is what the database gives for its scope. -/
def CacheCoherent (cr : Crates) (conn : DbRole) (now : DateTime) (st : State) : Prop :=
  ∀ s : Scope, ∀ e ∈ st.redis, e.key = s.key cr → now < e.expiresAt →
    e.value = cr.permsToJson (s.perms conn st.db)

theorem CacheInv.init {cr : Crates} {conn : DbRole} {G : Uuid → Db → Prop} {now : DateTime}
    {st : State} (hst : CacheCoherent cr conn now st) : CacheInv cr conn G (Pool.init st) now where
  tracks := Pool.tracks_init st
  alive j := rfl
  entries := by
    intro e he hlive s hs
    exact .inl (hst s e he (key_of_scopeOf hs).symm hlive)

section Step

variable {cr : Crates} {conn : DbRole} {G : Uuid → Db → Prop} {w : World}

theorem untouched_snoc {w' : World} {i j : Nat} {e : Event Resp} {key : String}
    (hlog : w'.log = w.log ++ [(i, e)]) (he : setsKey key e = false) (h : Untouched w j key) :
    Untouched w' j key := by
  intro x hx
  rw [hlog, Pool.since_snoc] at hx
  split at hx
  · cases hx
  · rcases List.mem_append.mp hx with hx | hx
    · exact h x hx
    · obtain rfl := List.mem_singleton.mp hx
      exact he

/-- The scan that begins now has not been overtaken by any write. -/
theorem untouched_opened {w' : World} {i : Nat} {e : Event Resp} (key : String)
    (hlog : w'.log = w.log ++ [(i, e)]) (he : opensScan e = true) : Untouched w' i key := by
  intro x hx
  rw [hlog, Pool.since_snoc, if_pos ⟨rfl, he⟩] at hx
  cases hx

/-- Only the scan commands, the deletions and the role changes of a call move its
invalidation on. -/
def movesOn : Op → Bool
  | .sql (.assignRole ..) => true
  | .sql (.revokeRole ..) => true
  | .redis (.scan ..) => true
  | .redis (.del _) => true
  | _ => false

theorem Invalidation.step_same {g : Invalidation} {o : Op} (ho : movesOn o = false) (fuel : Nat)
    (r : Resp o) : g.step fuel ⟨o, r⟩ = g := by
  cases o with
  | sys s => rfl
  | sql s => cases s <;> first | rfl | cases ho
  | redis c => cases c <;> first | rfl | cases ho

theorem permsMonitor_same {k : Call} {g : Invalidation} {o : Op} (ho : movesOn o = false)
    (r : Resp o) : (permsMonitor cr k).upd g ⟨o, r⟩ = g := by
  unfold permsMonitor
  dsimp only
  split
  · exact Invalidation.step_same ho _ r
  · rfl

/-- A call that is not at its invalidation covers nothing. -/
theorem CacheInv.idle_of_not_redis {T : DateTime} (h : CacheInv cr conn G w T) {i : Nat} {o : Op}
    (hp : w.pending i = some o) (r : Resp o) (ho : ∀ c, o ≠ .redis c) : inval cr w i = .idle := by
  have hdue := h.tracks.due hp r
  have halive := h.alive i
  rcases hg : inval cr w i with _ | ⟨u, ret, next, _ | n⟩ | ⟨u, ret, next, keys, n⟩
  · rfl
  · rw [hg] at halive
    cases halive
  · rw [hg] at hdue
    exact absurd hdue (ho _)
  · rw [hg] at hdue
    exact absurd hdue (ho _)

section Issue

variable {T : DateTime} {i : Nat} {c : Choice} {o : Op}

/-- What other calls cover stays covered, unless the event writes the key. -/
theorem CacheInv.covers_other (hp : w.pending i = some o) {j : Nat} (hj : j ≠ i) {user : Uuid}
    {key : String} (hset : ∀ r : Resp o, setsKey key ⟨o, r⟩ = false) (h : Covers cr w j user key) :
    Covers cr (Pool.next (machine cr conn) (Call.body cr) w (.step i c)) j user key := by
  obtain ⟨k, -, -, hother⟩ := inval_step cr conn hp c
  rw [Covers, hother j hj]
  exact h.imp (untouched_snoc (Pool.next_step hp c).2 (hset _))

theorem inval_same (hp : w.pending i = some o) (ho : movesOn o = false) (j : Nat) :
    inval cr (Pool.next (machine cr conn) (Call.body cr) w (.step i c)) j = inval cr w j := by
  obtain ⟨k, -, hself, hother⟩ := inval_step cr conn hp c
  by_cases hj : j = i
  · rw [hj, hself, permsMonitor_same ho]
  · exact hother j hj

/-- So does what the call itself covers, if the statement is none of its
invalidation's. -/
theorem CacheInv.covers_same (hp : w.pending i = some o) (ho : movesOn o = false) {j : Nat}
    {user : Uuid} {key : String} (hset : ∀ r : Resp o, setsKey key ⟨o, r⟩ = false)
    (h : Covers cr w j user key) :
    Covers cr (Pool.next (machine cr conn) (Call.body cr) w (.step i c)) j user key := by
  rw [Covers, inval_same hp ho]
  exact h.imp (untouched_snoc (Pool.next_step hp c).2 (hset _))

theorem step_changesRoles {q : Sql} {user : Uuid} (hq : changesRoles user q = true) (fuel : Nat)
    (g : Invalidation) (r : Reply q) :
    g.step fuel ⟨.sql q, .ok r⟩ = .scanning user [] 0 fuel := by
  cases q <;> try exact absurd hq Bool.false_ne_true
  case assignRole u role tenant project =>
    obtain rfl : u = user := by simpa [changesRoles] using hq
    rfl
  case revokeRole u role tenant project =>
    obtain rfl : u = user := by simpa [changesRoles] using hq
    rfl

/-- The entries after a statement on the database. -/
theorem CacheInv.entries_sql (h : CacheInv cr conn G w T) {q : Sql}
    (hp : w.pending i = some (.sql q)) (hkeeps : KeepsPerms cr conn G T w (.step i c)) :
    ∀ e ∈ w.state.redis, T < e.expiresAt → ∀ s, scopeOf cr e.key = some s →
      e.value = cr.permsToJson (s.perms conn (q.run conn c w.state.db).2) ∨
      G s.user (q.run conn c w.state.db).2 ∨
      ∃ j, Covers cr (Pool.next (machine cr conn) (Call.body cr) w (.step i c)) j s.user e.key := by
  intro e he hlive s hs
  simp only [KeepsPerms, hp] at hkeeps
  obtain ⟨hperms, hG⟩ := hkeeps e he hlive s hs
  have hidle := h.idle_of_not_redis hp (.error .connection) (by simp)
  obtain ⟨k, hk, hself, hother⟩ := inval_step cr conn hp c
  have hcovered : (∃ j, Covers cr w j s.user e.key) →
      ∃ j, Covers cr (Pool.next (machine cr conn) (Call.body cr) w (.step i c)) j s.user e.key := by
    rintro ⟨j, hj⟩
    refine ⟨j, covers_other hp ?_ (fun _ => rfl) hj⟩
    -- The call that issues a statement on the database covers nothing.
    intro hji
    rw [hji, Covers, hidle] at hj
    exact hj
  rcases h.entries e he hlive s hs with hvalue | hgone | hcovers
  · rcases hperms with hsame | hannounced | hgone
    · exact .inl (hvalue.trans (by rw [hsame]))
    · obtain ⟨hq, hfuel⟩ := Bool.and_eq_true_iff.mp hannounced
      rw [hk, Option.bind_some] at hfuel
      obtain ⟨fuel, hfuel⟩ := Option.isSome_iff_exists.mp hfuel
      rcases Sql.run_cases conn q c w.state.db with ⟨d, hd⟩ | ⟨r, db', -, hr⟩
      · left
        rw [hd]
        exact hvalue
      · refine .inr (.inr ⟨i, ?_⟩)
        rw [Covers, hself, permsMonitor_upd hfuel, exec_sql_reply, hr, step_changesRoles hq]
        exact ⟨rfl, .inl ⟨rfl, rfl⟩⟩
    · exact .inr (.inl hgone)
  · exact .inr (.inl (hG hgone))
  · exact .inr (.inr (hcovered hcovers))

theorem inval_of_none {k : Call} (hk : w.callOf i = some k) (hnone : k.invalidates cr = none) :
    inval cr w i = .idle := by
  rw [inval_of_call hk]
  change (w.hist i).foldl (permsMonitor cr k).upd .idle = .idle
  induction w.hist i with
  | nil => rfl
  | cons e es ih =>
    have hsame : (permsMonitor cr k).upd .idle e = .idle := by simp only [permsMonitor, hnone]
    rw [List.foldl_cons, hsame, ih]

variable (conn c) in
/-- The invalidation of the call that issues the statement, after it. -/
theorem inval_own (hp : w.pending i = some o) (hbusy : inval cr w i ≠ .idle) :
    ∃ fuel, inval cr (Pool.next (machine cr conn) (Call.body cr) w (.step i c)) i =
      (inval cr w i).step fuel ⟨o, ((machine cr conn).exec o c w.state).1⟩ := by
  obtain ⟨k, hk, hself, -⟩ := inval_step cr conn hp c
  cases hfuel : k.invalidates cr with
  | none => exact absurd (inval_of_none hk hfuel) hbusy
  | some fuel => exact ⟨fuel, by rw [hself, permsMonitor_upd hfuel]⟩

/-- A reply of a scan: what the invalidation still had to come is among the keys
found, or still to come. -/
theorem CacheInv.covers_scan (hcr : CacheCrates cr) (h : CacheInv cr conn G w T) {cursor : Nat}
    {pattern : String} (hp : w.pending i = some (.redis (.scan cursor pattern)))
    (hc : c.fails = false) (hreturns : ScanReturns cr w i c cursor pattern) {e : RedisEntry}
    (he : e ∈ w.state.redis) (hlive : c.now < e.expiresAt) {s : Scope}
    (hs : scopeOf cr e.key = some s) (hcov : Covers cr w i s.user e.key) :
    Covers cr (Pool.next (machine cr conn) (Call.body cr) w (.step i c)) i s.user e.key := by
  have hbusy : inval cr w i ≠ .idle := by
    intro hidle
    rwa [Covers, hidle] at hcov
  obtain ⟨fuel, hown⟩ := inval_own conn c hp hbusy
  have hdue := h.tracks.due hp none
  have halive := h.alive i
  have hlog := (world_step cr conn hp c).2
  rw [Covers, hown]
  unfold Covers at hcov
  rcases hg : inval cr w i with _ | ⟨u, ret, next, _ | n⟩ | ⟨u, ret, next, keys, n⟩
  · exact absurd hg hbusy
  · rw [hg] at halive
    cases halive
  · rw [hg] at hdue hcov
    obtain ⟨rfl, rfl⟩ : cursor = next ∧ pattern = permsPattern cr u := by
      simpa [Invalidation.due] using hdue
    obtain ⟨rfl, hcov⟩ := hcov
    let found := c.texts.filter fun k =>
      w.state.redis.any (Redis.live c k) && globMatch (permsPattern cr s.user).toList k.toList
    have hreply : ((machine cr conn).exec (.redis (.scan cursor (permsPattern cr s.user))) c
        w.state).1 = some (c.cursor, found) := by
      simp [machine, Redis.exec, hc, found]
    have hmatches : globMatch (permsPattern cr s.user).toList e.key.toList = true := by
      rw [← key_of_scopeOf hs]
      exact globMatch_key hcr s
    have hfound : e.key ∈ c.texts → e.key ∈ found := by
      intro htexts
      have hpresent : w.state.redis.any (Redis.live c e.key) = true :=
        List.any_eq_true.mpr ⟨e, he, by simp [Redis.live, hlive]⟩
      exact List.mem_filter.mpr ⟨htexts, by rw [hpresent, hmatches]; rfl⟩
    have hnotReturned : e.key ∉ ret := by
      rcases hcov with ⟨-, hnil⟩ | ⟨-, hret, -⟩
      · simp [hnil]
      · exact hret
    have hkept : cursor ≠ 0 → Untouched w i e.key := by
      intro hcursor
      rcases hcov with ⟨hzero, -⟩ | ⟨-, -, hold⟩
      · exact absurd hzero hcursor
      · exact hold
    rw [hreply]
    apply Invalidation.owes_found
    by_cases hin : e.key ∈ found
    · exact .inl hin
    · right
      refine ⟨?_, by simp [hnotReturned, hin], ?_⟩
      · -- The scan has ended: the key is among those returned.
        intro hend
        rcases hreturns hend e he hlive hmatches hkept with htexts | ⟨-, hret⟩
        · exact hin (hfound htexts)
        · rw [hg] at hret
          exact hnotReturned hret
      · by_cases hcursor : cursor = 0
        · apply untouched_opened e.key hlog
          rw [hcursor]
          rfl
        · exact untouched_snoc hlog rfl (hkept hcursor)
  · rw [hg] at hdue
    cases hdue

/-- A deletion leaves to come what its keys do not name. -/
theorem CacheInv.covers_del (h : CacheInv cr conn G w T) {keys : List String}
    (hp : w.pending i = some (.redis (.del keys))) {user : Uuid} {key : String}
    (hkey : key ∉ keys) (hcov : Covers cr w i user key) :
    Covers cr (Pool.next (machine cr conn) (Call.body cr) w (.step i c)) i user key := by
  have hbusy : inval cr w i ≠ .idle := by
    intro hidle
    rwa [Covers, hidle] at hcov
  obtain ⟨fuel, hown⟩ := inval_own conn c hp hbusy
  have hdue := h.tracks.due hp none
  have halive := h.alive i
  have hlog := (world_step cr conn hp c).2
  rw [Covers, hown]
  unfold Covers at hcov
  rcases hg : inval cr w i with _ | ⟨u, ret, next, _ | n⟩ | ⟨u, ret, next, keys', n⟩
  · exact absurd hg hbusy
  · rw [hg] at halive
    cases halive
  · rw [hg] at hdue
    cases hdue
  · rw [hg] at hdue hcov
    obtain rfl : keys = keys' := by simpa [Invalidation.due] using hdue
    obtain ⟨rfl, hcov⟩ := hcov
    rcases hcov with hin | ⟨hnext, hret, hold⟩
    · exact absurd hin hkey
    · exact Invalidation.owes_proceed hnext hret (untouched_snoc hlog rfl hold) n

/-- The entries after a command. -/
theorem CacheInv.entries_redis (hcr : CacheCrates cr) (h : CacheInv cr conn G w T)
    (hT : T ≤ c.now) {q : RedisCmd} (hp : w.pending i = some (.redis q))
    (hworks : RedisWorks cr conn w (.step i c)) (hfresh : WritesFresh cr conn w (.step i c)) :
    ∀ e ∈ (Redis.exec c w.state.redis q).2, c.now < e.expiresAt → ∀ s, scopeOf cr e.key = some s →
      e.value = cr.permsToJson (s.perms conn w.state.db) ∨ G s.user w.state.db ∨
      ∃ j, Covers cr (Pool.next (machine cr conn) (Call.body cr) w (.step i c)) j s.user e.key := by
  intro e he hlive s hs
  -- What stays covered is enough for the entries that were there.
  have hold : e ∈ w.state.redis → (∀ j, Covers cr w j s.user e.key →
      Covers cr (Pool.next (machine cr conn) (Call.body cr) w (.step i c)) j s.user e.key) →
      e.value = cr.permsToJson (s.perms conn w.state.db) ∨ G s.user w.state.db ∨
      ∃ j, Covers cr (Pool.next (machine cr conn) (Call.body cr) w (.step i c)) j s.user e.key := by
    intro he hcovers
    refine (h.entries e he (lt_of_le_of_lt hT hlive) s hs).imp_right (Or.imp_right ?_)
    exact Exists.imp hcovers
  simp only [RedisWorks, hp] at hworks
  cases q with
  | get key => exact hold he fun j hj => covers_same hp rfl (fun _ => rfl) hj
  | «exists» key => exact hold he fun j hj => covers_same hp rfl (fun _ => rfl) hj
  | setEx key value ttl =>
    simp only [Redis.exec, hworks.1, Bool.false_eq_true, if_false, List.mem_append, List.mem_filter,
      List.mem_singleton] at he
    rcases he with ⟨he, hne⟩ | rfl
    · have hset : ∀ r : Resp (.redis (.setEx key value ttl)),
          setsKey e.key ⟨.redis (.setEx key value ttl), r⟩ = false := by
        intro r
        have hne : e.key ≠ key := by simpa using hne
        simpa [setsKey] using hne.symm
      exact hold he fun j hj => covers_same hp rfl hset hj
    · simp only [WritesFresh, hp] at hfresh
      rcases hfresh s hs with hvalue | ⟨j, hj⟩
      · exact .inl hvalue
      · refine .inr (.inr ⟨j, ?_⟩)
        rw [Covers, inval_same hp rfl]
        exact Invalidation.owes_unbegun hj
  | scan cursor pattern =>
    refine hold he fun j hj => ?_
    by_cases hji : j = i
    · subst hji
      exact h.covers_scan hcr hp hworks.1.1 hworks.1.2 he hlive hs hj
    · exact covers_other hp hji (fun _ => rfl) hj
  | del keys =>
    simp only [Redis.exec, hworks.1, Bool.false_eq_true, if_false, Redis.lose, List.mem_filter] at he
    have hkey : e.key ∉ keys := by simpa using he.2
    refine hold he.1 fun j hj => ?_
    by_cases hji : j = i
    · subst hji
      exact h.covers_del hp hkey hj
    · exact covers_other hp hji (fun _ => rfl) hj

end Issue

/-- One label of a run in which Redis works, permissions change only where an
invalidation follows, and what is written to the cache is not out of date. -/
theorem CacheInv.next (hcr : CacheCrates cr) {T : DateTime} (h : CacheInv cr conn G w T) (l : Act)
    (hT : T ≤ redisNow w T l) (hworks : RedisWorks cr conn w l)
    (hkeeps : KeepsPerms cr conn G T w l) (hfresh : WritesFresh cr conn w l) :
    CacheInv cr conn G (Pool.next (machine cr conn) (Call.body cr) w l) (redisNow w T l) := by
  have htracks : TracksPerms cr (Pool.next (machine cr conn) (Call.body cr) w l) :=
    Pool.tracks_next (along_permsBody cr) l h.tracks
  cases l with
  | start k =>
    refine ⟨htracks, ?_, ?_⟩
    · intro j
      rw [inval_start h.tracks]
      exact h.alive j
    · intro e he hlive s hs
      refine (h.entries e he hlive s hs).imp_right (Or.imp_right (Exists.imp ?_))
      intro j hj
      rw [Covers, inval_start h.tracks]
      exact hj
  | env a =>
    cases a with
    | loseKeys keys =>
      refine ⟨htracks, h.alive, ?_⟩
      intro e he hlive s hs
      exact h.entries e (List.mem_filter.mp he).1 hlive s hs
  | step i c =>
    cases hp : w.pending i with
    | none =>
      rw [Pool.next_idle hp, redisNow, hp]
      exact h
    | some o =>
      have hstate := (world_step cr conn hp c).1
      refine ⟨htracks, ?_, ?_⟩
      · intro j
        by_cases hj : j = i
        · rw [hj]
          exact hworks.2
        · obtain ⟨k, -, -, hother⟩ := inval_step cr conn hp c
          rw [hother j hj]
          exact h.alive j
      · rw [hstate]
        cases o with
        | sql q =>
          simp only [redisNow, hp]
          exact h.entries_sql hp hkeeps
        | redis q =>
          simp only [redisNow, hp] at hT ⊢
          exact h.entries_redis hcr hT hp hworks hfresh
        | sys s =>
          simp only [redisNow, hp]
          intro e he hlive s hs
          refine (h.entries e he hlive s hs).imp_right (Or.imp_right (Exists.imp ?_))
          intro j hj
          exact covers_same hp rfl (fun _ => rfl) hj

/-- When no call is in flight, nothing is still to be deleted. -/
theorem CacheInv.quiescent {T : DateTime} (h : CacheInv cr conn G w T)
    (hidle : ∀ i, w.pending i = none) {e : RedisEntry} (he : e ∈ w.state.redis)
    (hlive : T < e.expiresAt) {s : Scope} (hs : scopeOf cr e.key = some s) :
    e.value = cr.permsToJson (s.perms conn w.state.db) ∨ G s.user w.state.db := by
  rcases h.entries e he hlive s hs with hvalue | hgone | ⟨j, hj⟩
  · exact .inl hvalue
  · exact .inr hgone
  · have hended : inval cr w j = .idle := by
      rcases h.tracks.ended (hidle j) with hended | hexhausted
      · exact hended
      · rw [h.alive j] at hexhausted
        cases hexhausted
    rw [Covers, hended] at hj
    exact hj.elim

end Step

end IamAuth
