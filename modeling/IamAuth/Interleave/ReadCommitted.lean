import IamAuth.Interleave.Steps

/-!
# Transactions under READ COMMITTED

A transaction issues its statements one after the other. Each of them sees what is
committed when it runs, and what its own transaction has written. It locks the rows
it writes, and waits while another open transaction holds a lock in conflict with one it
asks for; locks are kept until the transaction ends. What a transaction has written reaches the
committed state when it commits, and is forgotten when it rolls back.
-/

set_option autoImplicit false

namespace Interleave

variable {K Stmt Write Row σ C ε : Type}

/-- What a statement writes and which locks it takes, in the state it sees, at the
clock and the draws `C` of its transaction. A lock names its row and, where there are
several, its mode; a request for the first of two locks in `conflicts` waits while another
transaction holds the second. -/
structure Engine (Stmt Write Row σ C ε : Type) where
  exec : Stmt → C → σ → Except ε (List Write)
  rows : Stmt → C → σ → List Row
  conflicts : Row → Row → Bool
  apply : Write → σ → σ

/-- Whichever of the two locks is held, the other one has to wait. -/
def Engine.Clash (E : Engine Stmt Write Row σ C ε) (r r' : Row) : Prop :=
  E.conflicts r r' = true ∧ E.conflicts r' r = true

inductive TxnStatus where
  | running
  | committed
  | rolledBack
  deriving DecidableEq, Repr

structure Txn (K Stmt Write Row C : Type) where
  call : K
  draw : C
  rest : List Stmt
  writes : List Write
  held : List Row
  status : TxnStatus

/-- The committed state, every transaction begun so far, named by its position, and
the transactions that have committed, in this order. -/
structure Store (K Stmt Write Row σ C : Type) where
  state : σ
  txns : List (Txn K Stmt Write Row C)
  commits : List (K × C)

inductive TxnLabel (K C : Type) where
  | start (k : K) (c : C)
  | stmt (i : Nat)
  | commit (i : Nat)
  | rollback (i : Nat)
  deriving DecidableEq, Repr

/-- The committed state with the writes of one transaction over it. -/
def Engine.view (E : Engine Stmt Write Row σ C ε) (ws : List Write) (s : σ) : σ :=
  ws.foldl (fun s w => E.apply w s) s

@[simp] theorem Engine.view_nil (E : Engine Stmt Write Row σ C ε) (s : σ) : E.view [] s = s := rfl

@[simp] theorem Engine.view_cons (E : Engine Stmt Write Row σ C ε) (w : Write) (ws : List Write)
    (s : σ) : E.view (w :: ws) s = E.view ws (E.apply w s) := rfl

theorem Engine.view_append (E : Engine Stmt Write Row σ C ε) (ws ws' : List Write) (s : σ) :
    E.view (ws ++ ws') s = E.view ws' (E.view ws s) := List.foldl_append

/-- What these statements may have written, one after the other. -/
def Engine.Ran (E : Engine Stmt Write Row σ C ε) (c : C) : List Stmt → List Write → Prop
  | [], ws => ws = []
  | st :: sts, ws => ∃ s new ws', ws = new ++ ws' ∧ E.exec st c s = .ok new ∧ E.Ran c sts ws'

theorem Engine.Ran.snoc {E : Engine Stmt Write Row σ C ε} {c : C} {st : Stmt} {sts : List Stmt}
    {ws new : List Write} {s : σ} (h : E.Ran c sts ws) (hx : E.exec st c s = .ok new) :
    E.Ran c (sts ++ [st]) (ws ++ new) := by
  induction sts generalizing ws with
  | nil =>
    obtain rfl : ws = [] := h
    exact ⟨s, new, [], by simp, hx, rfl⟩
  | cons st' sts ih =>
    obtain ⟨s', new', ws', rfl, hx', hrest⟩ := h
    exact ⟨s', new', ws' ++ new, by simp, hx', ih hrest⟩

namespace Store

def init (s : σ) : Store K Stmt Write Row σ C := ⟨s, [], []⟩

def set (s : Store K Stmt Write Row σ C) (i : Nat) (t : Txn K Stmt Write Row C) :
    Store K Stmt Write Row σ C := { s with txns := s.txns.set i t }

/-- The transaction is open. -/
def Open (s : Store K Stmt Write Row σ C) (i : Nat) (t : Txn K Stmt Write Row C) : Prop :=
  s.txns[i]? = some t ∧ t.status = .running

variable {s : Store K Stmt Write Row σ C}

theorem open_set {i j : Nat} {t t' : Txn K Stmt Write Row C} (h : (s.set i t').Open j t) :
    (j = i ∧ t = t') ∨ (j ≠ i ∧ s.Open j t) := by
  obtain ⟨ht, hopen⟩ := h
  by_cases hij : i = j
  · subst hij
    have hlen : i < s.txns.length := by
      have := (List.getElem?_eq_some_iff.mp ht).1
      rwa [set, List.length_set] at this
    rw [set, List.getElem?_set_self hlen] at ht
    exact .inl ⟨rfl, (Option.some.inj ht).symm⟩
  · rw [set, List.getElem?_set_ne hij] at ht
    exact .inr ⟨fun h => hij h.symm, ht, hopen⟩

theorem open_start {j : Nat} {t t' : Txn K Stmt Write Row C}
    (h : Open { s with txns := s.txns ++ [t'] } j t) : t = t' ∨ s.Open j t := by
  obtain ⟨ht, hopen⟩ := h
  by_cases hj : j < s.txns.length
  · rw [List.getElem?_append_left hj] at ht
    exact .inr ⟨ht, hopen⟩
  · rw [List.getElem?_append_right (Nat.le_of_not_lt hj)] at ht
    exact .inl (List.mem_singleton.mp (List.mem_of_getElem? ht))

/-- Another open transaction holds a lock that one of these has to wait for. -/
def blocked (E : Engine Stmt Write Row σ C ε) (s : Store K Stmt Write Row σ C) (i : Nat)
    (rows : List Row) : Bool :=
  s.txns.zipIdx.any fun x =>
    x.2 != i && x.1.status == .running && rows.any fun r => x.1.held.any (E.conflicts r)

variable (E : Engine Stmt Write Row σ C ε) (body : K → List Stmt)

/-- One label. A statement that has to wait does nothing, and one that fails ends its
transaction. -/
def next (s : Store K Stmt Write Row σ C) :
    TxnLabel K C → Store K Stmt Write Row σ C
  | .start k c => { s with txns := s.txns ++ [⟨k, c, body k, [], [], .running⟩] }
  | .stmt i =>
    match s.txns[i]? with
    | some ⟨k, c, st :: rest, ws, held, .running⟩ =>
      let rows := E.rows st c (E.view ws s.state)
      if s.blocked E i rows then s
      else
        match E.exec st c (E.view ws s.state) with
        | .ok new => s.set i ⟨k, c, rest, ws ++ new, held ++ rows, .running⟩
        | .error _ => s.set i ⟨k, c, st :: rest, ws, held, .rolledBack⟩
    | _ => s
  | .commit i =>
    match s.txns[i]? with
    | some ⟨k, c, [], ws, held, .running⟩ =>
      { state := E.view ws s.state
        txns := s.txns.set i ⟨k, c, [], ws, held, .committed⟩
        commits := s.commits ++ [(k, c)] }
    | _ => s
  | .rollback i =>
    match s.txns[i]? with
    | some ⟨k, c, rest, ws, held, .running⟩ => s.set i ⟨k, c, rest, ws, held, .rolledBack⟩
    | _ => s

variable {E body}

theorem blocked_eq_false {i : Nat} {rows : List Row} : s.blocked E i rows = false ↔
    ∀ j t, s.Open j t → j ≠ i → ∀ r ∈ rows, ∀ r' ∈ t.held, ¬E.conflicts r r' = true := by
  simp only [blocked, List.any_eq_false, Bool.and_eq_true, bne_iff_ne, beq_iff_eq, List.any_eq_true,
    not_and, not_exists, Prod.forall, List.mem_zipIdx_iff_getElem?]
  constructor
  · intro h j t ht hne r hr r' hr'
    exact h t j ht.1 ⟨hne, ht.2⟩ r hr r' hr'
  · intro h t j ht hopen r hr r' hr'
    exact h j t ⟨ht, hopen.2⟩ hopen.1 r hr r' hr'

/-- What a label does, said once. -/
theorem next_cases (E : Engine Stmt Write Row σ C ε) (body : K → List Stmt)
    (s : Store K Stmt Write Row σ C) (l : TxnLabel K C) :
    (∃ k c, l = .start k c ∧
      next E body s l = { s with txns := s.txns ++ [⟨k, c, body k, [], [], .running⟩] }) ∨
    (∃ i t st rest new, l = .stmt i ∧ s.Open i t ∧ t.rest = st :: rest ∧
      s.blocked E i (E.rows st t.draw (E.view t.writes s.state)) = false ∧
      E.exec st t.draw (E.view t.writes s.state) = .ok new ∧
      next E body s l = s.set i { t with
        rest := rest
        writes := t.writes ++ new
        held := t.held ++ E.rows st t.draw (E.view t.writes s.state) }) ∨
    (∃ i t, l = .commit i ∧ s.Open i t ∧ t.rest = [] ∧
      next E body s l = ⟨E.view t.writes s.state, s.txns.set i { t with status := .committed },
        s.commits ++ [(t.call, t.draw)]⟩) ∨
    (∃ i t, (l = .stmt i ∨ l = .rollback i) ∧ s.Open i t ∧
      next E body s l = s.set i { t with status := .rolledBack }) ∨
    next E body s l = s := by
  cases l with
  | start k c => exact .inl ⟨k, c, rfl, rfl⟩
  | stmt i =>
    simp only [next]
    split
    · next k c st rest ws held ht =>
      split
      · exact .inr (.inr (.inr (.inr rfl)))
      · next hfree =>
        split
        · next new hx =>
          exact .inr (.inl ⟨i, _, st, rest, new, rfl, ⟨ht, rfl⟩, rfl, by simpa using hfree, hx, rfl⟩)
        · exact .inr (.inr (.inr (.inl ⟨i, _, .inl rfl, ⟨ht, rfl⟩, rfl⟩)))
    · exact .inr (.inr (.inr (.inr rfl)))
  | commit i =>
    simp only [next]
    split
    · next k c ws held ht => exact .inr (.inr (.inl ⟨i, _, rfl, ⟨ht, rfl⟩, rfl, rfl⟩))
    · exact .inr (.inr (.inr (.inr rfl)))
  | rollback i =>
    simp only [next]
    split
    · next k c rest ws held ht => exact .inr (.inr (.inr (.inl ⟨i, _, .inr rfl, ⟨ht, rfl⟩, rfl⟩)))
    · exact .inr (.inr (.inr (.inr rfl)))

/-- Only a commit changes the committed state. -/
theorem state_next (E : Engine Stmt Write Row σ C ε) (body : K → List Stmt)
    (s : Store K Stmt Write Row σ C) (l : TxnLabel K C) :
    (next E body s l).state = s.state ∧ (next E body s l).commits = s.commits ∨
    ∃ i t, l = .commit i ∧ s.Open i t ∧ t.rest = [] ∧
      (next E body s l).state = E.view t.writes s.state ∧
      (next E body s l).commits = s.commits ++ [(t.call, t.draw)] := by
  rcases next_cases E body s l with ⟨k, c, -, hs⟩ | ⟨i, t, st, rest, new, -, -, -, -, -, hs⟩ |
    ⟨i, t, hl, ht, hrest, hs⟩ | ⟨i, t, -, -, hs⟩ | hs
  · rw [hs]
    exact .inl ⟨rfl, rfl⟩
  · rw [hs]
    exact .inl ⟨rfl, rfl⟩
  · refine .inr ⟨i, t, hl, ht, hrest, ?_, ?_⟩ <;> rw [hs]
  · rw [hs]
    exact .inl ⟨rfl, rfl⟩
  · rw [hs]
    exact .inl ⟨rfl, rfl⟩

theorem state_commit {i : Nat} {t : Txn K Stmt Write Row C} (ht : s.Open i t) (hrest : t.rest = []) :
    (next E body s (.commit i)).state = E.view t.writes s.state := by
  obtain ⟨k, c, rest, ws, held, status⟩ := t
  obtain ⟨hget, hopen⟩ := ht
  cases hrest
  cases hopen
  simp only [next, hget]

/-- No two open transactions hold locks that clash. -/
def Exclusive (E : Engine Stmt Write Row σ C ε) (s : Store K Stmt Write Row σ C) : Prop :=
  ∀ i j t t', i ≠ j → s.Open i t → s.Open j t' → ∀ r ∈ t.held, ∀ r' ∈ t'.held, ¬E.Clash r r'

theorem Exclusive.mono {s' : Store K Stmt Write Row σ C} (h : s.Exclusive E)
    (hopen : ∀ i t, s'.Open i t → s.Open i t) : s'.Exclusive E := by
  intro i j t t' hne hi hj
  exact h i j t t' hne (hopen i t hi) (hopen j t' hj)

/-- An open transaction has run the statements before those it still has to run. -/
def Progress (E : Engine Stmt Write Row σ C ε) (body : K → List Stmt)
    (s : Store K Stmt Write Row σ C) : Prop :=
  ∀ i t, s.Open i t → ∃ before, body t.call = before ++ t.rest ∧ E.Ran t.draw before t.writes

theorem exclusive_next (l : TxnLabel K C) (h : s.Exclusive E) :
    (next E body s l).Exclusive E := by
  rcases next_cases E body s l with ⟨k, c, -, hs⟩ | ⟨i, t, st, rest, new, -, ht, -, hfree, -, hs⟩ |
    ⟨i, t, -, ht, -, hs⟩ | ⟨i, t, -, ht, hs⟩ | hs
  · rw [hs]
    intro i j t t' hne hi hj r hr r' hr'
    rcases open_start hi with rfl | hi'
    · cases hr
    · rcases open_start hj with rfl | hj'
      · cases hr'
      · exact h i j t t' hne hi' hj' r hr r' hr'
  · rw [hs]
    have hothers := blocked_eq_false.1 hfree
    intro a b t₁ t₂ hne h₁ h₂ r hr r' hr' hclash
    rcases open_set h₁ with ⟨ha, rfl⟩ | ⟨ha, hopen₁⟩
    · rcases open_set h₂ with ⟨hb, -⟩ | ⟨hb, hopen₂⟩
      · exact hne (ha.trans hb.symm)
      · rcases List.mem_append.mp hr with hold | hnew
        · exact h i b t t₂ (fun hib => hb hib.symm) ht hopen₂ r hold r' hr' hclash
        · exact hothers b t₂ hopen₂ hb r hnew r' hr' hclash.1
    · rcases open_set h₂ with ⟨hb, rfl⟩ | ⟨hb, hopen₂⟩
      · rcases List.mem_append.mp hr' with hold | hnew
        · exact h a i t₁ t ha hopen₁ ht r hr r' hold hclash
        · exact hothers a t₁ hopen₁ ha r' hnew r hr hclash.2
      · exact h a b t₁ t₂ hne hopen₁ hopen₂ r hr r' hr' hclash
  · rw [hs]
    apply h.mono
    intro j t' hj
    rcases open_set (s := s) hj with ⟨-, rfl⟩ | ⟨-, hold⟩
    · cases hj.2
    · exact hold
  · rw [hs]
    apply h.mono
    intro j t' hj
    rcases open_set hj with ⟨-, rfl⟩ | ⟨-, hold⟩
    · cases hj.2
    · exact hold
  · rw [hs]
    exact h

theorem progress_next (l : TxnLabel K C) (h : s.Progress E body) :
    (next E body s l).Progress E body := by
  rcases next_cases E body s l with ⟨k, c, -, hs⟩ | ⟨i, t, st, rest, new, -, ht, hrest, -, hx, hs⟩ |
    ⟨i, t, -, -, -, hs⟩ | ⟨i, t, -, -, hs⟩ | hs
  · rw [hs]
    intro j t hj
    rcases open_start hj with rfl | hold
    · exact ⟨[], rfl, rfl⟩
    · exact h j t hold
  · rw [hs]
    intro j t' hj
    rcases open_set hj with ⟨-, rfl⟩ | ⟨-, hold⟩
    · obtain ⟨before, hbody, hran⟩ := h i t ht
      exact ⟨before ++ [st], by simp [hbody, hrest], hran.snoc hx⟩
    · exact h j t' hold
  · rw [hs]
    intro j t' hj
    rcases open_set (s := s) hj with ⟨-, rfl⟩ | ⟨-, hold⟩
    · cases hj.2
    · exact h j t' hold
  · rw [hs]
    intro j t' hj
    rcases open_set hj with ⟨-, rfl⟩ | ⟨-, hold⟩
    · cases hj.2
    · exact h j t' hold
  · rw [hs]
    exact h

/-! ## Guards -/

/-- A condition `J` of the committed state, and a condition `G` that every open
transaction establishes by its own statements and that no other commit can break, as the
locks of the two do not clash. -/
structure Guard (E : Engine Stmt Write Row σ C ε) (body : K → List Stmt) (J : σ → Prop)
    (G : Txn K Stmt Write Row C → σ → Prop) : Prop where
  start : ∀ k c s, J s → G ⟨k, c, body k, [], [], .running⟩ s
  stmt : ∀ t before st rest new s, t.rest = st :: rest → body t.call = before ++ st :: rest →
    E.Ran t.draw before t.writes → J s → G t s →
    E.exec st t.draw (E.view t.writes s) = .ok new →
    G { t with
      rest := rest
      writes := t.writes ++ new
      held := t.held ++ E.rows st t.draw (E.view t.writes s) } s
  commit : ∀ t t' s, J s → G t s → G t' s → (∀ r ∈ t.held, ∀ r' ∈ t'.held, ¬E.Clash r r') →
    E.Ran t'.draw (body t'.call) t'.writes → G t (E.view t'.writes s)
  keep : ∀ t s, J s → G t s → E.Ran t.draw (body t.call) t.writes → J (E.view t.writes s)

structure Sound (E : Engine Stmt Write Row σ C ε) (body : K → List Stmt) (J : σ → Prop)
    (G : Txn K Stmt Write Row C → σ → Prop) (s : Store K Stmt Write Row σ C) : Prop where
  exclusive : s.Exclusive E
  progress : s.Progress E body
  state : J s.state
  guard : ∀ i t, s.Open i t → G t s.state

variable {J : σ → Prop} {G : Txn K Stmt Write Row C → σ → Prop}

theorem sound_init {a : σ} (ha : J a) :
    Sound E body J G (init a : Store K Stmt Write Row σ C) where
  exclusive i j t t' _ hi := by cases hi.1
  progress i t hi := by cases hi.1
  state := ha
  guard i t hi := by cases hi.1

/-- A transaction that has come to its end has run its whole body. -/
theorem Sound.ran (h : Sound E body J G s) {i : Nat} {t : Txn K Stmt Write Row C}
    (ht : s.Open i t) (hrest : t.rest = []) : E.Ran t.draw (body t.call) t.writes := by
  obtain ⟨before, hbody, hran⟩ := h.progress i t ht
  rw [hrest, List.append_nil] at hbody
  rw [hbody]
  exact hran

theorem sound_next (hG : Guard E body J G) (l : TxnLabel K C)
    (h : Sound E body J G s) :
    Sound E body J G (next E body s l) := by
  refine ⟨exclusive_next l h.exclusive, progress_next l h.progress, ?_, ?_⟩
  · rcases next_cases E body s l with ⟨k, c, -, hs⟩ | ⟨i, t, st, rest, new, -, -, -, -, -, hs⟩ |
      ⟨i, t, -, ht, hrest, hs⟩ | ⟨i, t, -, -, hs⟩ | hs
    · rw [hs]
      exact h.state
    · rw [hs]
      exact h.state
    · rw [hs]
      exact hG.keep t s.state h.state (h.guard i t ht) (h.ran ht hrest)
    · rw [hs]
      exact h.state
    · rw [hs]
      exact h.state
  · rcases next_cases E body s l with
      ⟨k, c, -, hs⟩ | ⟨i, t, st, rest, new, -, ht, hrest, -, hx, hs⟩ |
      ⟨i, t, -, ht, hrest, hs⟩ | ⟨i, t, -, -, hs⟩ | hs
    · rw [hs]
      intro j t hj
      rcases open_start hj with rfl | hold
      · exact hG.start k c s.state h.state
      · exact h.guard j t hold
    · rw [hs]
      intro j t' hj
      rcases open_set hj with ⟨-, rfl⟩ | ⟨-, hold⟩
      · obtain ⟨before, hbody, hran⟩ := h.progress i t ht
        rw [hrest] at hbody
        exact hG.stmt t before st rest new s.state hrest hbody hran h.state (h.guard i t ht) hx
      · exact h.guard j t' hold
    · rw [hs]
      intro j t' hj
      rcases open_set (s := s) hj with ⟨-, rfl⟩ | ⟨hne, hold⟩
      · cases hj.2
      · -- The locks of the transaction that commits and of the one that stays open do not clash.
        exact hG.commit t' t s.state h.state (h.guard j t' hold) (h.guard i t ht)
          (h.exclusive j i t' t hne hold ht) (h.ran ht hrest)
    · rw [hs]
      intro j t' hj
      rcases open_set hj with ⟨-, rfl⟩ | ⟨-, hold⟩
      · cases hj.2
      · exact h.guard j t' hold
    · rw [hs]
      exact h.guard

/-- What else happens to the committed state, if it keeps both conditions. -/
theorem Sound.update (h : Sound E body J G s) {a : σ} (ha : J a)
    (hguard : ∀ t, G t s.state → G t a) : Sound E body J G { s with state := a } where
  exclusive := h.exclusive
  progress := h.progress
  state := ha
  guard i t ht := hguard t (h.guard i t ht)

end Store

end Interleave
