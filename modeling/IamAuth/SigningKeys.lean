import IamAuth.Interleave.Pool
import IamAuth.Relational.Constraints
import IamAuth.Schema

/-!
# keys.rs

Replicas load the signing keys when they start, at the same time if they like; the
first ones find no key and generate one. An operator rotates the keys meanwhile.
-/

set_option autoImplicit false

namespace IamAuth

open Interleave Relational

/-- A row of `oidc_signing_keys`, the columns that are read. -/
structure SigningKey where
  kid : String
  privatePem : String
  publicPem : String
  active : Bool
  deriving DecidableEq, Repr

/-- What `JwtManager::from_pem` is given. `publics` is the `HashMap`. -/
structure JwtManager where
  kid : String
  privatePem : String
  publics : List (String × String)
  issuer : String
  accessTtlSecs : Int
  deriving DecidableEq, Repr

structure Keypair where
  kid : String
  privatePem : String
  publicPem : String
  deriving DecidableEq, Repr

inductive LoadError where
  | db (e : DbError)
  | message (m : String)
  deriving DecidableEq, Repr

inductive KeyOp where
  | selectKeys
  | generateRsaKeypair
  | insertKey (kid privatePem publicPem : String)
  deriving DecidableEq, Repr

abbrev KeyReply : KeyOp → Type
  | .selectKeys => Except DbError (List SigningKey)
  | .generateRsaKeypair => Except String Keypair
  | .insertKey .. => Except DbError Unit

abbrev KeyProg (α : Type) := Prog KeyReply LoadError α

/-! ## load_jwt_manager -/

/-- `HashMap::insert`. -/
def insertPublic (publics : List (String × String)) (kid pem : String) : List (String × String) :=
  (kid, pem) :: publics.filter fun p => p.1 != kid

/-- The body of the loop over the rows. -/
def visitKey (seen : List (String × String) × Option (String × String)) (key : SigningKey) :
    List (String × String) × Option (String × String) :=
  (insertPublic seen.1 key.kid key.publicPem,
    if key.active then some (key.kid, key.privatePem) else seen.2)

/-- The public keys, and the active key. -/
def readKeys (rows : List SigningKey) : List (String × String) × Option (String × String) :=
  rows.foldl visitKey ([], none)

/-- A `Result` in hand, with `?` on it. -/
def KeyProg.try {ε α : Type} (wrap : ε → LoadError) : Except ε α → KeyProg α
  | .ok a => pure a
  | .error e => Prog.fail (wrap e)

/-- The keys of a table that has none yet: a new pair, which is inserted. -/
def firstKeys : KeyProg (List (String × String) × String × String) := do
  let pair ← KeyProg.try .message (← Prog.perform KeyOp.generateRsaKeypair)
  KeyProg.try .db (← Prog.perform (KeyOp.insertKey pair.kid pair.privatePem pair.publicPem))
  return (insertPublic [] pair.kid pair.publicPem, pair.kid, pair.privatePem)

def storedKeys (rows : List SigningKey) : KeyProg (List (String × String) × String × String) := do
  let active ← Prog.okOr (readKeys rows).2 (.message "no active signing key")
  return ((readKeys rows).1, active)

/-- A replica that starts: its issuer and TTL. `fromPem` says whether the library takes
the keys. -/
structure KeyLoad where
  issuer : String
  accessTtlSecs : Int
  deriving DecidableEq, Repr

def loadJwtManager (fromPem : JwtManager → Except String Unit) (k : KeyLoad) :
    KeyProg JwtManager := do
  let rows ← KeyProg.try .db (← Prog.perform KeyOp.selectKeys)
  let (publics, active) ← if rows.isEmpty then firstKeys else storedKeys rows
  let manager : JwtManager := ⟨active.1, active.2, publics, k.issuer, k.accessTtlSecs⟩
  KeyProg.try .message (fromPem manager)
  return manager

/-! ## The table -/

/-- Whether a statement reaches the database and whether its answer comes back, the
order in which a query gives the rows, what the library generates. -/
structure KeyChoice where
  reached : Bool
  answered : Bool
  order : List SigningKey
  keypair : Except String Keypair

/-- A query without `ORDER BY` gives the rows in any order. -/
def scan (order keys : List SigningKey) : List SigningKey := if order.isPerm keys then order else keys

/-- What the operator does: a new key that becomes the active one, no active key any
more, a key that is dropped. -/
inductive KeyAdmin where
  | rotate (pair : Keypair)
  | deactivate
  | remove (kid : String)
  deriving DecidableEq, Repr

def deactivateAll (keys : List SigningKey) : List SigningKey :=
  updateWhere (fun k => k.active) (fun k => { k with active := false }) keys

def KeyAdmin.apply (keys : List SigningKey) : KeyAdmin → List SigningKey
  | .rotate pair =>
    if keys.any fun k => k.kid == pair.kid then keys
    else deactivateAll keys ++ [⟨pair.kid, pair.privatePem, pair.publicPem, true⟩]
  | .deactivate => deactivateAll keys
  | .remove kid => deleteWhere (fun k => k.kid == kid) keys

/-- The primary key and `oidc_signing_keys_one_active` are checked by the insertion. -/
def KeyOp.exec (c : KeyChoice) (keys : List SigningKey) : (o : KeyOp) → KeyReply o × List SigningKey
  | .selectKeys =>
    (if c.reached && c.answered then .ok (scan c.order keys) else .error .connection, keys)
  | .generateRsaKeypair => (c.keypair, keys)
  | .insertKey kid privatePem publicPem =>
    if !c.reached then (.error .connection, keys)
    else if keys.any fun k => k.kid == kid || k.active then (.error .uniqueViolation, keys)
    else (if c.answered then .ok () else .error .connection,
      keys ++ [⟨kid, privatePem, publicPem, true⟩])

def keyMachine : Machine KeyReply (List SigningKey) KeyChoice KeyAdmin where
  exec o c keys := o.exec c keys
  env a keys := a.apply keys

/-- The unique indexes of the table. -/
structure KeyTable (keys : List SigningKey) : Prop where
  kid : Unique (·.kid) keys
  oneActive : ∀ a ∈ keys, ∀ b ∈ keys, a.active = true → b.active = true → a = b

abbrev KeyWorld := Pool KeyLoad KeyReply LoadError JwtManager (List SigningKey)

abbrev KeyAct := Label KeyLoad KeyChoice KeyAdmin

abbrev runKeys (fromPem : JwtManager → Except String Unit) (keys : List SigningKey)
    (ls : List KeyAct) : KeyWorld :=
  Pool.run keyMachine (loadJwtManager fromPem) (Pool.init keys) ls

theorem mem_scan {order keys : List SigningKey} {k : SigningKey} : k ∈ scan order keys ↔ k ∈ keys := by
  unfold scan
  split
  · next h => exact (List.isPerm_iff.mp h).mem_iff
  · exact Iff.rfl

theorem scan_eq_nil {order keys : List SigningKey} : scan order keys = [] ↔ keys = [] := by
  simp only [List.eq_nil_iff_forall_not_mem, mem_scan]

theorem KeyTable.scan {keys : List SigningKey} (h : KeyTable keys) (order : List SigningKey) :
    KeyTable (IamAuth.scan order keys) := by
  constructor
  · unfold IamAuth.scan
    split
    · next hp => exact ((List.isPerm_iff.mp hp).map _).nodup_iff.mpr h.kid
    · exact h.kid
  · intro a ha b hb
    exact h.oneActive a (mem_scan.1 ha) b (mem_scan.1 hb)

/-! ## What a replica reads -/

section Read

variable {rows : List SigningKey} {kid pem : String} {publics : List (String × String)}

theorem lookup_filter {kid' : String} (h : kid' ≠ kid) :
    (publics.filter fun p => p.1 != kid).lookup kid' = publics.lookup kid' := by
  induction publics with
  | nil => rfl
  | cons p publics ih =>
    obtain ⟨other, pem'⟩ := p
    by_cases hp : other = kid
    · have hne : (kid' == other) = false := by simp [hp, h]
      rw [List.filter_cons_of_neg (by simp [hp]), ih, List.lookup_cons, hne]
    · rw [List.filter_cons_of_pos (by simp [hp]), List.lookup_cons, List.lookup_cons, ih]

theorem lookup_insertPublic (publics : List (String × String)) (kid pem kid' : String) :
    (insertPublic publics kid pem).lookup kid' =
      if kid' = kid then some pem else publics.lookup kid' := by
  unfold insertPublic
  by_cases h : kid' = kid
  · simp [h]
  · rw [if_neg h, List.lookup_cons, beq_eq_false_iff_ne.mpr h]
    exact lookup_filter h

/-- The map has a key for a kid if and only if a row has, once kids are unique. -/
theorem lookup_readKeys (h : Unique (·.kid) rows) :
    (readKeys rows).1.lookup kid = some pem ↔ ∃ k ∈ rows, k.kid = kid ∧ k.publicPem = pem := by
  unfold readKeys
  suffices hfold : ∀ seen : List (String × String) × Option (String × String),
      (rows.foldl visitKey seen).1.lookup kid = some pem ↔
        (∃ k ∈ rows, k.kid = kid ∧ k.publicPem = pem) ∨
          (∀ k ∈ rows, k.kid ≠ kid) ∧ seen.1.lookup kid = some pem by
    rw [hfold]
    simp
  induction rows with
  | nil => simp
  | cons k rows ih =>
    intro seen
    have hk : k.kid ∉ rows.map (·.kid) ∧ Unique (·.kid) rows := List.nodup_cons.mp h
    rw [List.foldl_cons, ih hk.2]
    simp only [visitKey, lookup_insertPublic]
    by_cases hkid : kid = k.kid
    · subst hkid
      have hnone : ∀ k' ∈ rows, k'.kid ≠ k.kid := fun k' hk' heq =>
        hk.1 (List.mem_map.mpr ⟨k', hk', heq⟩)
      constructor
      · intro hor
        rcases hor with ⟨k', hk', heq, -⟩ | ⟨-, hpem⟩
        · exact absurd heq (hnone k' hk')
        · rw [if_pos rfl] at hpem
          exact .inl ⟨k, List.mem_cons_self, rfl, Option.some.inj hpem⟩
      · intro hor
        rcases hor with ⟨k', hk', heq, hpem⟩ | ⟨hne, -⟩
        · rcases List.mem_cons.mp hk' with rfl | hk'
          · exact .inr ⟨hnone, by rw [if_pos rfl, hpem]⟩
          · exact absurd heq (hnone k' hk')
        · exact absurd rfl (hne k List.mem_cons_self)
    · rw [if_neg hkid]
      simp only [List.mem_cons, exists_eq_or_imp, forall_eq_or_imp]
      have hne : k.kid ≠ kid := fun heq => hkid heq.symm
      simp [hne]

/-- The active key that the loop finds is an active row. -/
theorem readKeys_active {priv : String} (h : (readKeys rows).2 = some (kid, priv)) :
    ∃ k ∈ rows, k.active = true ∧ k.kid = kid ∧ k.privatePem = priv := by
  unfold readKeys at h
  induction rows using List.reverseRecOn with
  | nil => cases h
  | append_singleton rows k ih =>
    rw [List.foldl_append] at h
    simp only [List.foldl_cons, List.foldl_nil, visitKey] at h
    split at h
    · next hactive =>
      cases h
      exact ⟨k, by simp, hactive, rfl, rfl⟩
    · obtain ⟨k', hk', hrest⟩ := ih h
      exact ⟨k', by simp [hk'], hrest⟩

end Read

/-! ## The paths of a replica -/

/-- A key is inserted by a replica that has found none. -/
def KeyRule (h : List (Event KeyReply)) (e : Event KeyReply) : Prop :=
  ∀ kid privatePem publicPem, e.1 = .insertKey kid privatePem publicPem →
    ⟨.selectKeys, .ok []⟩ ∈ h

/-- Where the keys of a replica come from: the rows it has read, or its own insertion. -/
def Loaded (h : List (Event KeyReply)) (m : JwtManager) : Prop :=
  (∃ rows, ⟨.selectKeys, .ok rows⟩ ∈ h ∧ m.publics = (readKeys rows).1 ∧
    (readKeys rows).2 = some (m.kid, m.privatePem)) ∨
  ∃ pem, ⟨.insertKey m.kid m.privatePem pem, .ok ()⟩ ∈ h ∧ m.publics = [(m.kid, pem)]

def keyMonitor : Monitor KeyReply (List (Event KeyReply)) := .history KeyRule

@[simp] theorem keyMonitor_upd (h : List (Event KeyReply)) (e : Event KeyReply) :
    keyMonitor.upd h e = h ++ [e] := rfl

@[simp] theorem keyMonitor_ok (h : List (Event KeyReply)) (e : Event KeyReply) :
    keyMonitor.ok h e = KeyRule h e := rfl

theorem keyRule_select (h : List (Event KeyReply)) (r : KeyReply .selectKeys) :
    KeyRule h ⟨.selectKeys, r⟩ := by
  intro kid privatePem publicPem heq
  cases heq

theorem keyRule_generate (h : List (Event KeyReply)) (r : KeyReply .generateRsaKeypair) :
    KeyRule h ⟨.generateRsaKeypair, r⟩ := by
  intro kid privatePem publicPem heq
  cases heq

theorem along_try {ε α : Type} (wrap : ε → LoadError) (r : Except ε α)
    (post : List (Event KeyReply) → Except LoadError α → Prop) (h : List (Event KeyReply)) :
    (KeyProg.try wrap r).Along keyMonitor post h ↔
      (∀ e, r = .error e → post h (.error (wrap e))) ∧ ∀ a, r = .ok a → post h (.ok a) := by
  cases r <;> simp [KeyProg.try]

theorem along_loadJwtManager (fromPem : JwtManager → Except String Unit) (k : KeyLoad) :
    (loadJwtManager fromPem k).Along keyMonitor (fun h r => ∀ m, r = .ok m → Loaded h m) [] := by
  have hend : ∀ {h : List (Event KeyReply)} {m : JwtManager}, Loaded h m →
      (KeyProg.try .message (fromPem m)).Along keyMonitor (Prog.Then keyMonitor
        (fun h r => ∀ m, r = .ok m → Loaded h m) fun _ => (pure m : KeyProg JwtManager)) h := by
    intro h m hm
    simp only [along_try, Prog.then_error, Prog.then_ok, Prog.along_pure]
    constructor
    · intro e _ m' hm'
      cases hm'
    · intro _ _ m' hm'
      cases hm'
      exact hm
  unfold loadJwtManager
  simp only [Prog.along_bind, Prog.along_perform, keyMonitor_ok, keyMonitor_upd, Prog.then_ok,
    List.nil_append]
  intro reply
  refine ⟨keyRule_select _ _, ?_⟩
  simp only [along_try, Prog.then_error, Prog.then_ok]
  constructor
  · intro e _ m hm
    cases hm
  · intro rows hrows
    subst hrows
    cases rows with
    | nil =>
      simp only [List.isEmpty_nil, if_true, firstKeys, Prog.along_bind, Prog.along_perform,
        keyMonitor_ok, keyMonitor_upd, Prog.then_ok]
      intro pair?
      refine ⟨keyRule_generate _ _, ?_⟩
      simp only [along_try, Prog.then_error, Prog.then_ok]
      constructor
      · intro e _ m hm
        cases hm
      · intro pair _
        simp only [Prog.along_bind, Prog.along_perform, keyMonitor_ok, keyMonitor_upd, Prog.then_ok]
        intro inserted
        refine ⟨?_, ?_⟩
        · intro kid privatePem publicPem _
          simp
        · simp only [along_try, Prog.then_error, Prog.then_ok, Prog.along_pure]
          constructor
          · intro e _ m hm
            cases hm
          · intro _ hinserted
            subst hinserted
            rw [Prog.along_bind]
            apply hend
            exact .inr ⟨pair.publicPem, by simp, rfl⟩
    | cons row rows =>
      simp only [List.isEmpty_cons, Bool.false_eq_true, if_false, storedKeys, Prog.along_bind,
        Prog.along_okOr, Prog.then_error, Prog.then_ok, Prog.along_pure]
      constructor
      · intro _ m hm
        cases hm
      · intro active hactive
        apply hend
        exact .inl ⟨row :: rows, List.mem_singleton_self _, rfl, hactive⟩

/-! ## What the table keeps -/

section Table

variable {c : KeyChoice} {keys : List SigningKey}

/-- The row of a key pair, active or not. -/
def Holds (keys : List SigningKey) (kid privatePem publicPem : String) : Prop :=
  ∃ k ∈ keys, k.kid = kid ∧ k.privatePem = privatePem ∧ k.publicPem = publicPem

theorem exec_insertKey_ok {kid privatePem publicPem : String}
    (h : ((KeyOp.insertKey kid privatePem publicPem).exec c keys).1 = .ok ()) :
    ((KeyOp.insertKey kid privatePem publicPem).exec c keys).2 =
      keys ++ [⟨kid, privatePem, publicPem, true⟩] := by
  simp only [KeyOp.exec] at h ⊢
  split at h
  · cases h
  · next hreached =>
    split at h
    · cases h
    · next hfresh => rw [if_neg hreached, if_neg hfresh]

/-- What a statement does to the table. -/
theorem exec_cases (c : KeyChoice) (keys : List SigningKey) (o : KeyOp) :
    (o.exec c keys).2 = keys ∨ ∃ kid privatePem publicPem, o = .insertKey kid privatePem publicPem ∧
      (∀ k ∈ keys, k.kid ≠ kid ∧ k.active = false) ∧
      (o.exec c keys).2 = keys ++ [⟨kid, privatePem, publicPem, true⟩] := by
  cases o with
  | selectKeys => exact .inl rfl
  | generateRsaKeypair => exact .inl rfl
  | insertKey kid privatePem publicPem =>
    simp only [KeyOp.exec]
    split
    · exact .inl rfl
    · split
      · exact .inl rfl
      · next hfresh =>
        refine .inr ⟨kid, privatePem, publicPem, rfl, ?_, rfl⟩
        intro k hk
        simp only [List.any_eq_true, Bool.or_eq_true, beq_iff_eq, not_exists, not_and, not_or] at hfresh
        have := hfresh k hk
        exact ⟨this.1, by simpa using this.2⟩

theorem KeyTable.exec (h : KeyTable keys) (o : KeyOp) : KeyTable (o.exec c keys).2 := by
  rcases exec_cases c keys o with hsame | ⟨kid, privatePem, publicPem, -, hfresh, hnew⟩
  · rw [hsame]
    exact h
  · rw [hnew]
    constructor
    · exact h.kid.insert fun k hk => (hfresh k hk).1
    · intro a ha b hb hactive hactive'
      have hlast : ∀ k ∈ keys ++ [(⟨kid, privatePem, publicPem, true⟩ : SigningKey)],
          k.active = true → k = ⟨kid, privatePem, publicPem, true⟩ := by
        intro k hk hactive
        rcases List.mem_append.mp hk with hold | hlast
        · rw [(hfresh k hold).2] at hactive
          cases hactive
        · exact List.mem_singleton.mp hlast
      rw [hlast a ha hactive, hlast b hb hactive']

theorem inactive_of_mem {k : SigningKey} (h : k ∈ deactivateAll keys) : k.active = false := by
  obtain ⟨k', -, rfl⟩ := mem_updateWhere.1 h
  split
  · rfl
  · next hactive => simpa using hactive

theorem KeyTable.apply (h : KeyTable keys) (a : KeyAdmin) : KeyTable (a.apply keys) := by
  have hkids : Unique (·.kid) (deactivateAll keys) := h.kid.updateWhere fun _ _ => rfl
  have hnone : ∀ k ∈ deactivateAll keys, ¬k.active = true := by
    intro k hk
    simp [inactive_of_mem hk]
  cases a with
  | deactivate => exact ⟨hkids, fun a ha _ _ hactive => absurd hactive (hnone a ha)⟩
  | remove kid =>
    refine ⟨h.kid.deleteWhere _, ?_⟩
    intro a ha b hb
    exact h.oneActive a (mem_deleteWhere.1 ha).1 b (mem_deleteWhere.1 hb).1
  | rotate pair =>
    simp only [KeyAdmin.apply]
    split
    · exact h
    · next hfresh =>
      constructor
      · apply hkids.insert
        intro k hk
        obtain ⟨k', hk', rfl⟩ := mem_updateWhere.1 hk
        have hne : k'.kid ≠ pair.kid := by
          intro heq
          exact hfresh (List.any_eq_true.mpr ⟨k', hk', beq_iff_eq.mpr heq⟩)
        split
        · exact hne
        · exact hne
      · intro a ha b hb hactive hactive'
        have hlast : ∀ k ∈ deactivateAll keys ++
            [(⟨pair.kid, pair.privatePem, pair.publicPem, true⟩ : SigningKey)], k.active = true →
            k = ⟨pair.kid, pair.privatePem, pair.publicPem, true⟩ := by
          intro k hk hactive
          rcases List.mem_append.mp hk with hold | hlast
          · exact absurd hactive (hnone k hold)
          · exact List.mem_singleton.mp hlast
        rw [hlast a ha hactive, hlast b hb hactive']

theorem Holds.exec {kid privatePem publicPem : String} (h : Holds keys kid privatePem publicPem)
    (o : KeyOp) : Holds (o.exec c keys).2 kid privatePem publicPem := by
  obtain ⟨k, hk, hrow⟩ := h
  rcases exec_cases c keys o with hsame | ⟨_, _, _, -, -, hnew⟩
  · rw [hsame]
    exact ⟨k, hk, hrow⟩
  · rw [hnew]
    exact ⟨k, List.mem_append_left _ hk, hrow⟩

theorem Holds.apply {kid privatePem publicPem : String} (h : Holds keys kid privatePem publicPem)
    {a : KeyAdmin} (ha : a ≠ .remove kid) : Holds (a.apply keys) kid privatePem publicPem := by
  obtain ⟨k, hk, rfl, rfl, rfl⟩ := h
  have hdeactivated : Holds (deactivateAll keys) k.kid k.privatePem k.publicPem := by
    refine ⟨_, mem_updateWhere.2 ⟨k, hk, rfl⟩, ?_⟩
    split
    · exact ⟨rfl, rfl, rfl⟩
    · exact ⟨rfl, rfl, rfl⟩
  cases a with
  | deactivate => exact hdeactivated
  | remove kid =>
    refine ⟨k, mem_deleteWhere.2 ⟨hk, ?_⟩, rfl, rfl, rfl⟩
    rw [beq_eq_false_iff_ne]
    intro heq
    exact ha (by rw [heq])
  | rotate pair =>
    simp only [KeyAdmin.apply]
    split
    · exact ⟨k, hk, rfl, rfl, rfl⟩
    · obtain ⟨k', hk', hrow⟩ := hdeactivated
      exact ⟨k', List.mem_append_left _ hk', hrow⟩

end Table

/-! ## Runs -/

section Runs

variable {fromPem : JwtManager → Except String Unit} {keys : List SigningKey} {ls : List KeyAct}

theorem keyTracks (fromPem : JwtManager → Except String Unit) (keys : List SigningKey)
    (ls : List KeyAct) : Pool.Tracks (fun _ => keyMonitor)
      (fun _ h r => ∀ m, r = .ok m → Loaded h m) (fun _ => []) (runKeys fromPem keys ls) :=
  Pool.tracks_run (along_loadJwtManager fromPem) keys ls

theorem keyTable_run (h : KeyTable keys) (ls : List KeyAct) :
    KeyTable (runKeys fromPem keys ls).state := by
  refine Pool.run_inv_all (I := fun w : KeyWorld => KeyTable w.state) ?_ ls h
  intro w l hw
  rcases Pool.state_next keyMachine (loadJwtManager fromPem) w l with
    hsame | ⟨i, c, o, -, -, hnew⟩ | ⟨a, -, hnew⟩
  · rw [hsame]
    exact hw
  · rw [hnew]
    exact hw.exec o
  · rw [hnew]
    exact hw.apply a

theorem holds_run {kid privatePem publicPem : String} {w : KeyWorld}
    (hls : .env (.remove kid) ∉ ls) (hw : Holds w.state kid privatePem publicPem) :
    Holds (Pool.run keyMachine (loadJwtManager fromPem) w ls).state kid privatePem publicPem := by
  induction ls generalizing w with
  | nil => exact hw
  | cons l ls ih =>
    rw [List.mem_cons, not_or] at hls
    obtain ⟨hl, hrest⟩ := hls
    apply ih hrest
    rcases Pool.state_next keyMachine (loadJwtManager fromPem) w l with
      hsame | ⟨i, c, o, -, -, hnew⟩ | ⟨a, ha, hnew⟩
    · rw [hsame]
      exact hw
    · rw [hnew]
      exact hw.exec o
    · rw [hnew]
      apply hw.apply
      intro heq
      exact hl (by rw [ha, heq])

/-- The rows that a replica has read were the table. -/
theorem read_at {i : Nat} {rows : List SigningKey}
    (h : ⟨.selectKeys, .ok rows⟩ ∈ (runKeys fromPem keys ls).hist i) :
    ∃ pre c post, ls = pre ++ .step i c :: post ∧
      rows = scan c.order (runKeys fromPem keys pre).state := by
  rcases Pool.event_origin (Pool.mem_hist.1 h) with hold | ⟨pre, c, post, hls, -, hreply, -⟩
  · cases hold
  · refine ⟨pre, c, post, hls, ?_⟩
    have hreply : (.ok rows : Except DbError (List SigningKey)) =
      if c.reached && c.answered then .ok (scan c.order (runKeys fromPem keys pre).state)
      else .error .connection := hreply
    split at hreply
    · exact Except.ok.inj hreply
    · cases hreply

theorem inserted_at {i : Nat} {kid privatePem publicPem : String}
    (h : ⟨.insertKey kid privatePem publicPem, .ok ()⟩ ∈ (runKeys fromPem keys ls).hist i) :
    ∃ pre post, ls = pre ++ post ∧
      ⟨kid, privatePem, publicPem, true⟩ ∈ (runKeys fromPem keys pre).state := by
  rcases Pool.event_origin (Pool.mem_hist.1 h) with hold | ⟨pre, c, post, hls, -, hreply, hstate⟩
  · cases hold
  · refine ⟨pre ++ [.step i c], post, by simp [hls], ?_⟩
    have hnew := hstate.trans (exec_insertKey_ok hreply.symm)
    exact hnew ▸ List.mem_append_right _ (List.mem_singleton_self _)

/-- The key that a replica signs with was the active one when it loaded it, and the
replica has its public key. -/
theorem loaded_at (h : KeyTable keys) {i : Nat} {m : JwtManager}
    (hr : (runKeys fromPem keys ls).result i = some (.ok m)) :
    ∃ pre post pem, ls = pre ++ post ∧
      ⟨m.kid, m.privatePem, pem, true⟩ ∈ (runKeys fromPem keys pre).state ∧
      m.publics.lookup m.kid = some pem := by
  obtain ⟨k, -, hpost⟩ := (keyTracks fromPem keys ls).result_history hr
  rcases hpost m rfl with ⟨rows, hread, hpublics, hactive⟩ | ⟨pem, hinsert, hpublics⟩
  · obtain ⟨pre, c, post, hls, rfl⟩ := read_at hread
    obtain ⟨row, hrow, hact, hkid, hpriv⟩ := readKeys_active hactive
    have htable : KeyTable (scan c.order (runKeys fromPem keys pre).state) :=
      (keyTable_run h pre).scan c.order
    refine ⟨pre, .step i c :: post, row.publicPem, hls, ?_, ?_⟩
    · rw [← hkid, ← hpriv, ← hact]
      exact mem_scan.1 hrow
    · rw [hpublics]
      exact (lookup_readKeys htable.kid).mpr ⟨row, hrow, hkid, rfl⟩
  · obtain ⟨pre, post, hls, hrow⟩ := inserted_at hinsert
    refine ⟨pre, post, pem, hls, hrow, ?_⟩
    rw [hpublics]
    simp

/-- A replica that starts after another one has loaded its keys verifies the tokens of
the other, whatever the operator has rotated, until that key is dropped. -/
theorem oldKeys_verify (h : KeyTable keys) {ls₁ ls₂ : List KeyAct} {i j : Nat} {m m' : JwtManager}
    (hend : (runKeys fromPem keys ls₁).result i = some (.ok m))
    (hlater : (runKeys fromPem keys ls₁).threads.length ≤ j)
    (hend' : (runKeys fromPem keys (ls₁ ++ ls₂)).result j = some (.ok m'))
    (hkept : .env (.remove m.kid) ∉ ls₁ ++ ls₂) :
    ∃ pem, m.publics.lookup m.kid = some pem ∧ m'.publics.lookup m.kid = some pem := by
  obtain ⟨pre, post, pem, rfl, hrow, hown⟩ := loaded_at h hend
  refine ⟨pem, hown, ?_⟩
  -- The row is there whenever the later replica reads the table.
  have hthere : ∀ pre' post', ls₂ = pre' ++ post' →
      Holds (runKeys fromPem keys ((pre ++ post) ++ pre')).state m.kid m.privatePem pem := by
    intro pre' post' hls₂
    rw [List.append_assoc, runKeys, Pool.run_append]
    apply holds_run
    · intro hmem
      apply hkept
      rw [hls₂]
      rcases List.mem_append.mp hmem with hin | hin
      · simp [hin]
      · simp [hin]
    · exact ⟨_, hrow, rfl, rfl, rfl⟩
  have hlog := (keyTracks fromPem keys (pre ++ post)).fresh
  have hreads : ∀ rows, ⟨.selectKeys, .ok rows⟩ ∈
      (runKeys fromPem keys ((pre ++ post) ++ ls₂)).hist j →
      Unique (·.kid) rows ∧ ∃ row ∈ rows, row.kid = m.kid ∧ row.publicPem = pem := by
    intro rows hread
    rw [runKeys, Pool.run_append] at hread
    obtain ⟨pre', c, post', hls₂, -, hreply⟩ := Pool.event_of_later hlog hlater hread
    have hreply : (.ok rows : Except DbError (List SigningKey)) =
        if c.reached && c.answered then
          .ok (scan c.order (runKeys fromPem keys ((pre ++ post) ++ pre')).state)
        else .error .connection := by
      rw [runKeys, Pool.run_append]
      exact hreply
    split at hreply
    · cases hreply
      obtain ⟨row, hrow, hkid, -, hpem⟩ := hthere pre' _ hls₂
      exact ⟨((keyTable_run h _).scan _).kid, row, mem_scan.2 hrow, hkid, hpem⟩
    · cases hreply
  obtain ⟨k, -, hpost⟩ := (keyTracks fromPem keys _).result_history hend'
  rcases hpost m' rfl with ⟨rows, hread, hpublics, -⟩ | ⟨pem', hinsert, -⟩
  · obtain ⟨hunique, hin⟩ := hreads rows hread
    rw [hpublics]
    exact (lookup_readKeys hunique).mpr hin
  · -- It has found a key, so it inserts none.
    obtain ⟨xs, ys, hsplit⟩ := List.append_of_mem hinsert
    obtain ⟨-, -, hrule⟩ := (keyTracks fromPem keys _).split_history hsplit
    have hempty : ⟨.selectKeys, .ok []⟩ ∈ xs := hrule _ _ _ rfl
    obtain ⟨-, row, hrow, -⟩ := hreads [] (by rw [hsplit]; exact List.mem_append_left _ hempty)
    cases hrow

/-! ### Without the operator -/

/-- With no operator the table is as it was, or it was empty and holds one active key. -/
structure KeysSettled (keys : List SigningKey) (w : KeyWorld) : Prop where
  state : w.state = keys ∨ keys = [] ∧ ∃ k, k.active = true ∧ w.state = [k]
  found : keys ≠ [] → ∀ i, ⟨.selectKeys, .ok []⟩ ∉ w.hist i

theorem keysSettled_next {w : KeyWorld} {l : KeyAct}
    (ht : Pool.Tracks (fun _ => keyMonitor) (fun _ h r => ∀ m, r = .ok m → Loaded h m)
      (fun _ => []) w)
    (hw : KeysSettled keys w) (hl : ∀ a, l ≠ .env a) :
    KeysSettled keys (Pool.next keyMachine (loadJwtManager fromPem) w l) ∧ (w.state ≠ [] →
      (Pool.next keyMachine (loadJwtManager fromPem) w l).state = w.state) := by
  have hfound : keys ≠ [] → ∀ i,
      ⟨.selectKeys, .ok []⟩ ∉ (Pool.next keyMachine (loadJwtManager fromPem) w l).hist i := by
    intro hne i hmem
    rcases Pool.hist_next keyMachine (loadJwtManager fromPem) w l i with hsame | ⟨c, o, -, hp, hnew⟩
    · rw [hsame] at hmem
      exact hw.found hne i hmem
    · rw [hnew] at hmem
      rcases List.mem_append.mp hmem with hold | hlast
      · exact hw.found hne i hold
      · cases o with
        | generateRsaKeypair => cases List.mem_singleton.mp hlast
        | insertKey => cases List.mem_singleton.mp hlast
        | selectKeys =>
          have hreply : (.ok [] : Except DbError (List SigningKey)) =
              if c.reached && c.answered then .ok (scan c.order w.state)
              else .error .connection :=
            eq_of_heq (Sigma.mk.inj (List.mem_singleton.mp hlast)).2
          split at hreply
          · have hempty : w.state = [] := scan_eq_nil.1 (Except.ok.inj hreply).symm
            rcases hw.state with hsame | ⟨hnil, -⟩
            · exact hne (hsame ▸ hempty)
            · exact hne hnil
          · cases hreply
  rcases Pool.state_next keyMachine (loadJwtManager fromPem) w l with
    hsame | ⟨i, c, o, -, hp, hnew⟩ | ⟨a, ha, -⟩
  · exact ⟨⟨by rw [hsame]; exact hw.state, hfound⟩, fun _ => hsame⟩
  · have hexec : (keyMachine.exec o c w.state).2 = (o.exec c w.state).2 := rfl
    rw [hexec] at hnew
    rcases exec_cases c w.state o with hsame | ⟨kid, privatePem, publicPem, rfl, hfresh, hins⟩
    · rw [hsame] at hnew
      exact ⟨⟨by rw [hnew]; exact hw.state, hfound⟩, fun _ => hnew⟩
    · -- Only an empty table takes a key.
      rw [hins] at hnew
      obtain ⟨k, -, hrule⟩ := ht.pending_history hp (.ok ())
      have hread : ⟨.selectKeys, .ok []⟩ ∈ w.hist i := hrule kid privatePem publicPem rfl
      have hnil : keys = [] := by
        by_contra hne
        exact hw.found hne i hread
      have hempty : w.state = [] := by
        rcases hw.state with hsame | ⟨-, k, hactive, hstate⟩
        · rw [hsame, hnil]
        · have := (hfresh k (by simp [hstate])).2
          rw [hactive] at this
          cases this
      constructor
      · refine ⟨.inr ⟨hnil, ⟨kid, privatePem, publicPem, true⟩, rfl, ?_⟩, hfound⟩
        rw [hnew, hempty]
        rfl
      · intro hne
        exact absurd hempty hne
  · exact absurd ha (hl a)

theorem keysSettled_run (fromPem : JwtManager → Except String Unit) (keys : List SigningKey)
    (hls : ∀ a, .env a ∉ ls) : KeysSettled keys (runKeys fromPem keys ls) := by
  induction ls using List.reverseRecOn with
  | nil => exact ⟨.inl rfl, fun _ i hmem => by cases hmem⟩
  | append_singleton ls l ih =>
    rw [runKeys, Pool.run_append, Pool.run_cons, Pool.run_nil]
    apply (keysSettled_next (keyTracks fromPem keys ls) (ih ?_) ?_).1
    · intro a ha
      exact hls a (List.mem_append_left _ ha)
    · intro a ha
      exact hls a (by simp [ha])

/-- A table that has a key stays as it is. -/
theorem frozen_run {pre : List KeyAct} (hls : ∀ a, .env a ∉ pre ++ ls)
    (hne : (runKeys fromPem keys pre).state ≠ []) :
    (runKeys fromPem keys (pre ++ ls)).state = (runKeys fromPem keys pre).state := by
  induction ls using List.reverseRecOn with
  | nil => rw [List.append_nil]
  | append_singleton ls l ih =>
    rw [← List.append_assoc] at hls ⊢
    have hbefore : ∀ a, .env a ∉ pre ++ ls := fun a ha => hls a (List.mem_append_left _ ha)
    have hsame := ih hbefore
    rw [runKeys, Pool.run_append, Pool.run_cons, Pool.run_nil]
    rw [(keysSettled_next (keyTracks fromPem keys _) (keysSettled_run fromPem keys hbefore)
      (fun a ha => hls a (by simp [ha]))).2 (by rw [hsame]; exact hne), hsame]

/-- What a replica has is what the table holds in the end. -/
theorem loaded_final (h : KeyTable keys) (hls : ∀ a, .env a ∉ ls) {i : Nat} {m : JwtManager}
    (hr : (runKeys fromPem keys ls).result i = some (.ok m)) :
    (∃ k ∈ (runKeys fromPem keys ls).state, k.active = true ∧ k.kid = m.kid ∧
      k.privatePem = m.privatePem) ∧
    ∀ kid pem, m.publics.lookup kid = some pem ↔
      ∃ k ∈ (runKeys fromPem keys ls).state, k.kid = kid ∧ k.publicPem = pem := by
  obtain ⟨k, -, hpost⟩ := (keyTracks fromPem keys ls).result_history hr
  rcases hpost m rfl with ⟨rows, hread, hpublics, hactive⟩ | ⟨pem, hinsert, hpublics⟩
  · obtain ⟨pre, c, post, rfl, rfl⟩ := read_at hread
    obtain ⟨row, hrow, hact, hkid, hpriv⟩ := readKeys_active hactive
    have hrow := mem_scan.1 hrow
    rw [frozen_run hls (List.ne_nil_of_mem hrow)]
    refine ⟨⟨row, hrow, hact, hkid, hpriv⟩, ?_⟩
    intro kid pem
    rw [hpublics, lookup_readKeys ((keyTable_run h pre).scan c.order).kid]
    simp only [mem_scan]
  · obtain ⟨pre, post, rfl, hrow⟩ := inserted_at hinsert
    rw [frozen_run hls (List.ne_nil_of_mem hrow)]
    refine ⟨⟨_, hrow, rfl, rfl, rfl⟩, ?_⟩
    -- The insertion has seen an empty table, so its row is the only one.
    obtain ⟨xs, ys, hsplit⟩ := List.append_of_mem hinsert
    obtain ⟨-, -, hrule⟩ := (keyTracks fromPem keys _).split_history hsplit
    have hempty : ⟨.selectKeys, .ok []⟩ ∈ xs := hrule _ _ _ rfl
    have hnil : keys = [] := by
      by_contra hne
      refine (keysSettled_run fromPem keys hls).found hne i ?_
      rw [hsplit]
      exact List.mem_append_left _ hempty
    have honly : (runKeys fromPem keys pre).state = [⟨m.kid, m.privatePem, pem, true⟩] := by
      rcases (keysSettled_run fromPem keys fun a ha => hls a (List.mem_append_left _ ha)).state with
        hsame | ⟨-, k, -, hstate⟩
      · rw [hsame, hnil] at hrow
        cases hrow
      · rw [hstate] at hrow ⊢
        rw [List.mem_singleton.mp hrow]
    intro kid pem'
    rw [hpublics, honly]
    by_cases hkid : kid = m.kid
    · simp [hkid]
    · simp [List.lookup_cons, beq_eq_false_iff_ne.mpr hkid, Ne.symm hkid]

/-- However many replicas start at the same time, on a new database or on an old one,
all sign with one key and all verify with the same ones, that key among them. -/
theorem replicas_agree (h : KeyTable keys) (hls : ∀ a, .env a ∉ ls) {i j : Nat}
    {m m' : JwtManager} (hi : (runKeys fromPem keys ls).result i = some (.ok m))
    (hj : (runKeys fromPem keys ls).result j = some (.ok m')) :
    m.kid = m'.kid ∧ m.privatePem = m'.privatePem ∧
      (∀ kid, m.publics.lookup kid = m'.publics.lookup kid) ∧
      (m.publics.lookup m'.kid).isSome = true := by
  obtain ⟨⟨k, hk, hactive, hkid, hpriv⟩, hpublics⟩ := loaded_final h hls hi
  obtain ⟨⟨k', hk', hactive', hkid', hpriv'⟩, hpublics'⟩ := loaded_final h hls hj
  obtain rfl := (keyTable_run h ls).oneActive k hk k' hk' hactive hactive'
  refine ⟨hkid.symm.trans hkid', hpriv.symm.trans hpriv', ?_, ?_⟩
  · intro kid
    apply Option.ext
    intro pem
    rw [hpublics, hpublics']
  · rw [Option.isSome_iff_exists]
    exact ⟨k.publicPem, (hpublics _ _).mpr ⟨k, hk, hkid', rfl⟩⟩

end Runs

/-! ## Two replicas on a new database -/

namespace Sample

def keyStep (i : Nat) (pair : Keypair) : KeyAct := .step i ⟨true, true, [], .ok pair⟩

/-- Both find no key. The insertion of the second comes too late. -/
def firstBoots : List KeyAct :=
  let pair : Keypair := ⟨"k1", "priv1", "pub1"⟩
  let late : Keypair := ⟨"k2", "priv2", "pub2"⟩
  [.start ⟨"iam", 900⟩, .start ⟨"iam", 900⟩, keyStep 0 pair, keyStep 1 late, keyStep 0 pair,
    keyStep 1 late, keyStep 0 pair, keyStep 1 late]

def laterBoot (i : Nat) : List KeyAct := [.start ⟨"iam", 900⟩, keyStep i ⟨"k3", "priv3", "pub3"⟩]

def firstManager : JwtManager := ⟨"k1", "priv1", [("k1", "pub1")], "iam", 900⟩

/-- What a replica has that starts after a rotation. -/
def rotatedManager : JwtManager := ⟨"k9", "priv9", [("k9", "pub9"), ("k1", "pub1")], "iam", 900⟩

example : (runKeys (fun _ => .ok ()) [] firstBoots).result 1 =
    some (.error (.db .uniqueViolation)) := by decide

theorem keyTable_nil : KeyTable [] := ⟨List.nodup_nil, by simp⟩

theorem replicas_agree_boots : firstManager.kid = firstManager.kid ∧
    firstManager.privatePem = firstManager.privatePem ∧
    (∀ kid, firstManager.publics.lookup kid = firstManager.publics.lookup kid) ∧
    (firstManager.publics.lookup firstManager.kid).isSome = true := by
  have hi : (runKeys (fun _ => .ok ()) [] (firstBoots ++ laterBoot 2)).result 0 =
      some (.ok firstManager) := by decide
  have hj : (runKeys (fun _ => .ok ()) [] (firstBoots ++ laterBoot 2)).result 2 =
      some (.ok firstManager) := by decide
  exact replicas_agree keyTable_nil (by simp [firstBoots, laterBoot, keyStep]) hi hj

/-- The operator rotates the keys, then a third replica starts. -/
def keyRotation : List KeyAct := .env (.rotate ⟨"k9", "priv9", "pub9"⟩) :: laterBoot 2

theorem oldKeys_verify_rotated : ∃ pem, firstManager.publics.lookup firstManager.kid = some pem ∧
    rotatedManager.publics.lookup firstManager.kid = some pem := by
  have hi : (runKeys (fun _ => .ok ()) [] firstBoots).result 0 = some (.ok firstManager) := by
    decide
  have hj : (runKeys (fun _ => .ok ()) [] (firstBoots ++ keyRotation)).result 2 =
      some (.ok rotatedManager) := by decide
  exact oldKeys_verify keyTable_nil hi (by decide) hj
    (by simp [firstBoots, keyRotation, laterBoot, keyStep])

end Sample

end IamAuth
