import IamAuth.Interleave.Prog
import Mathlib.Data.List.DropRight

/-!
# Interleaved runs of programs

A pool holds the shared state and every call started so far, each with what is
left of its program. One label starts a call, lets one call issue its next
statement, or lets the environment act. A call that is never scheduled again
models a crash, so no fairness is assumed. Calls are named by their position in
the list of threads, and a later start is a larger position.
-/

set_option autoImplicit false

namespace Interleave

variable {Op : Type} {Resp : Op → Type} {ε α γ σ C E K : Type}

/-- A part of a log that ends in one more event: the event is that one, or the
part is one of the log before it. -/
theorem snoc_split {α : Type} {l xs ys : List α} {a b : α} (h : l ++ [a] = xs ++ b :: ys) :
    (xs = l ∧ b = a) ∨ ∃ ys', l = xs ++ b :: ys' := by
  rcases List.eq_nil_or_concat ys with rfl | ⟨ys', y, rfl⟩
  · obtain ⟨hxs, hab⟩ := List.append_inj' h rfl
    cases hab
    exact .inl ⟨hxs.symm, rfl⟩
  · rw [List.concat_eq_append, ← List.cons_append, ← List.append_assoc] at h
    exact .inr ⟨ys', (List.append_inj' h rfl).1⟩

structure Thread (K : Type) (Resp : Op → Type) (ε α : Type) where
  call : K
  rest : Prog Resp ε α

/-- The shared state, the calls, and the events of all calls in order. -/
structure Pool (K : Type) (Resp : Op → Type) (ε α σ : Type) where
  state : σ
  threads : List (Thread K Resp ε α)
  log : List (Nat × Event Resp)

inductive Label (K C E : Type) where
  | start (k : K)
  | step (i : Nat) (c : C)
  | env (e : E)

namespace Pool

def init (s : σ) : Pool K Resp ε α σ := ⟨s, [], []⟩

/-- The next statement of call `i`, if it has not ended. -/
def pending (w : Pool K Resp ε α σ) (i : Nat) : Option Op :=
  match w.threads[i]? with
  | some ⟨_, .call o _⟩ => some o
  | _ => none

/-- The result of call `i`, once it has ended. -/
def result (w : Pool K Resp ε α σ) (i : Nat) : Option (Except ε α) :=
  match w.threads[i]? with
  | some ⟨_, .done r⟩ => some r
  | _ => none

def callOf (w : Pool K Resp ε α σ) (i : Nat) : Option K := (w.threads[i]?).map (·.call)

def ownEvent (i : Nat) (x : Nat × Event Resp) : Option (Event Resp) :=
  if x.1 = i then some x.2 else none

/-- The events of call `i` in the order it issued them. -/
def hist (w : Pool K Resp ε α σ) (i : Nat) : List (Event Resp) :=
  w.log.filterMap (ownEvent i)

variable (M : Machine Resp σ C E) (body : K → Prog Resp ε α)

/-- One label. A step of a call that does not exist or has ended does nothing. -/
def next (w : Pool K Resp ε α σ) : Label K C E → Pool K Resp ε α σ
  | .start k => { w with threads := w.threads ++ [⟨k, body k⟩] }
  | .step i c =>
    match w.threads[i]? with
    | some ⟨k, .call o next⟩ =>
      { state := (M.exec o c w.state).2
        threads := w.threads.set i ⟨k, next (M.exec o c w.state).1⟩
        log := w.log ++ [(i, ⟨o, (M.exec o c w.state).1⟩)] }
    | _ => w
  | .env e => { w with state := M.env e w.state }

def run (w : Pool K Resp ε α σ) (ls : List (Label K C E)) : Pool K Resp ε α σ :=
  ls.foldl (next M body) w

/-- `P` holds of every label of a run, in the pool the label meets. -/
def Each (P : Pool K Resp ε α σ → Label K C E → Prop) :
    Pool K Resp ε α σ → List (Label K C E) → Prop
  | _, [] => True
  | w, l :: ls => P w l ∧ Each P (next M body w l) ls

instance decidableEach (P : Pool K Resp ε α σ → Label K C E → Prop) [∀ w l, Decidable (P w l)] :
    (w : Pool K Resp ε α σ) → (ls : List (Label K C E)) → Decidable (Each M body P w ls)
  | _, [] => isTrue trivial
  | w, l :: ls =>
    have := decidableEach P (next M body w l) ls
    inferInstanceAs (Decidable (P w l ∧ Each M body P (next M body w l) ls))

@[simp] theorem run_nil (w : Pool K Resp ε α σ) : run M body w [] = w := rfl

@[simp] theorem run_cons (w : Pool K Resp ε α σ) (l : Label K C E) (ls : List (Label K C E)) :
    run M body w (l :: ls) = run M body (next M body w l) ls := rfl

@[simp] theorem run_append (w : Pool K Resp ε α σ) (ls ls' : List (Label K C E)) :
    run M body w (ls ++ ls') = run M body (run M body w ls) ls' := List.foldl_append

@[simp] theorem each_append (P : Pool K Resp ε α σ → Label K C E → Prop)
    (w : Pool K Resp ε α σ) (ls ls' : List (Label K C E)) :
    Each M body P w (ls ++ ls') ↔ Each M body P w ls ∧ Each M body P (run M body w ls) ls' := by
  induction ls generalizing w with
  | nil => simp [Each]
  | cons l ls ih => simp [Each, ih, and_assoc]

variable {M body} {w : Pool K Resp ε α σ}

theorem Each.imp {P Q : Pool K Resp ε α σ → Label K C E → Prop} (h : ∀ w l, P w l → Q w l)
    {ls : List (Label K C E)} (hP : Each M body P w ls) : Each M body Q w ls := by
  induction ls generalizing w with
  | nil => trivial
  | cons l ls ih => exact ⟨h w l hP.1, ih hP.2⟩

theorem Each.and {P Q : Pool K Resp ε α σ → Label K C E → Prop} {ls : List (Label K C E)}
    (hP : Each M body P w ls) (hQ : Each M body Q w ls) :
    Each M body (fun w l => P w l ∧ Q w l) w ls := by
  induction ls generalizing w with
  | nil => trivial
  | cons l ls ih => exact ⟨⟨hP.1, hQ.1⟩, ih hP.2 hQ.2⟩

theorem each_of_forall {P : Pool K Resp ε α σ → Label K C E → Prop} {ls : List (Label K C E)}
    (h : ∀ pre l post, ls = pre ++ l :: post → P (run M body w pre) l) : Each M body P w ls := by
  induction ls generalizing w with
  | nil => trivial
  | cons l ls ih =>
    refine ⟨h [] l ls rfl, ih ?_⟩
    intro pre l' post hls
    exact h (l :: pre) l' post (by rw [hls]; rfl)

theorem Each.at {P : Pool K Resp ε α σ → Label K C E → Prop} {pre post : List (Label K C E)}
    {l : Label K C E} (h : Each M body P w (pre ++ l :: post)) : P (run M body w pre) l :=
  ((each_append M body P w pre (l :: post)).mp h).2.1

theorem mem_hist {i : Nat} {e : Event Resp} : e ∈ w.hist i ↔ (i, e) ∈ w.log := by
  simp [hist, ownEvent, List.mem_filterMap]

/-- What `q` reads off the events of a log, with the calls that issued them. -/
def labelled {β : Type} (q : Event Resp → Option β) (log : List (Nat × Event Resp)) :
    List (Nat × β) := log.filterMap fun x => (q x.2).map fun b => (x.1, b)

@[simp] theorem labelled_nil {β : Type} (q : Event Resp → Option β) : labelled q [] = [] := rfl

theorem labelled_snoc {β : Type} (q : Event Resp → Option β) (log : List (Nat × Event Resp))
    (i : Nat) (e : Event Resp) :
    labelled q (log ++ [(i, e)]) = labelled q log ++ ((q e).map fun b => (i, b)).toList := by
  unfold labelled
  rw [List.filterMap_append]
  cases h : q e <;> simp [h]

theorem mem_labelled {β : Type} {q : Event Resp → Option β} {i : Nat} {b : β} :
    (i, b) ∈ labelled q w.log ↔ b ∈ (w.hist i).filterMap q := by
  simp only [labelled, List.mem_filterMap, Option.map_eq_some_iff, Prod.mk.injEq]
  constructor
  · intro h
    obtain ⟨⟨j, e⟩, hx, b', hb, rfl, rfl⟩ := h
    exact ⟨e, mem_hist.2 hx, hb⟩
  · intro h
    obtain ⟨e, he, hb⟩ := h
    exact ⟨(i, e), mem_hist.1 he, b, hb, rfl, rfl⟩

/-- The part of the log after the last event of call `i` that satisfies `q`. -/
def since (q : Event Resp → Bool) (i : Nat) (log : List (Nat × Event Resp)) :
    List (Nat × Event Resp) :=
  log.rtakeWhile fun x => !(decide (x.1 = i) && q x.2)

theorem since_snoc (q : Event Resp → Bool) (i : Nat) (log : List (Nat × Event Resp))
    (x : Nat × Event Resp) :
    since q i (log ++ [x]) = if x.1 = i ∧ q x.2 = true then [] else since q i log ++ [x] := by
  unfold since
  rw [List.rtakeWhile_concat]
  by_cases h : x.1 = i ∧ q x.2 = true
  · simp [h]
  · rw [if_pos, if_neg h]
    simpa [imp_iff_not_or, not_and_or] using h

theorem since_eq {q : Event Resp → Bool} {i : Nat} {xs ys : List (Nat × Event Resp)}
    {e : Event Resp} (he : q e = true) (hys : ∀ e', (i, e') ∈ ys → q e' = false) :
    since q i (xs ++ (i, e) :: ys) = ys := by
  induction ys using List.reverseRecOn with
  | nil => simp [since, he]
  | append_singleton ys y ih =>
    have hy : (!(decide (y.1 = i) && q y.2)) = true := by
      by_cases h : y.1 = i
      · subst h
        simp [hys y.2 (by simp)]
      · simp [h]
    have ih := ih fun e' he' => hys e' (by simp [he'])
    rw [← List.cons_append, ← List.append_assoc, since, List.rtakeWhile_concat, if_pos hy]
    exact congrArg (· ++ [y]) ih

/-- A call that has such an event has a last one. -/
theorem since_split {q : Event Resp → Bool} {i : Nat} {e : Event Resp}
    {log : List (Nat × Event Resp)} (hmem : (i, e) ∈ log) (he : q e = true) :
    ∃ xs e', q e' = true ∧ log = xs ++ (i, e') :: since q i log ∧
      ∀ e'', (i, e'') ∈ since q i log → q e'' = false := by
  have hsplit : ∃ xs e' ys, q e' = true ∧ log = xs ++ (i, e') :: ys ∧
      ∀ e'', (i, e'') ∈ ys → q e'' = false := by
    induction log using List.reverseRecOn with
    | nil => cases hmem
    | append_singleton log x ih =>
      by_cases hx : x.1 = i ∧ q x.2 = true
      · obtain ⟨rfl, hq⟩ := hx
        exact ⟨log, x.2, [], hq, rfl, by simp⟩
      · have hin : (i, e) ∈ log := by
          rcases List.mem_append.mp hmem with hin | hin
          · exact hin
          · cases List.mem_singleton.mp hin
            exact absurd ⟨rfl, he⟩ hx
        obtain ⟨xs, e', ys, hq, rfl, hys⟩ := ih hin
        refine ⟨xs, e', ys ++ [x], hq, by simp, ?_⟩
        intro e'' he''
        rcases List.mem_append.mp he'' with hold | hlast
        · exact hys e'' hold
        · cases List.mem_singleton.mp hlast
          exact Bool.eq_false_iff.mpr fun hq'' => hx ⟨rfl, hq''⟩
  obtain ⟨xs, e', ys, hq, rfl, hys⟩ := hsplit
  rw [since_eq hq hys]
  exact ⟨xs, e', hq, rfl, hys⟩

/-! ## One label -/

/-- What a label does, said once. -/
theorem next_cases (M : Machine Resp σ C E) (body : K → Prog Resp ε α)
    (w : Pool K Resp ε α σ) (l : Label K C E) :
    (∃ k, l = .start k ∧ next M body w l = { w with threads := w.threads ++ [⟨k, body k⟩] }) ∨
    (∃ i c k o f, l = .step i c ∧ w.threads[i]? = some ⟨k, .call o f⟩ ∧
      next M body w l =
        { state := (M.exec o c w.state).2
          threads := w.threads.set i ⟨k, f (M.exec o c w.state).1⟩
          log := w.log ++ [(i, ⟨o, (M.exec o c w.state).1⟩)] }) ∨
    (∃ i c, l = .step i c ∧ w.pending i = none ∧ next M body w l = w) ∨
    (∃ e, l = .env e ∧ next M body w l = { w with state := M.env e w.state }) := by
  cases l with
  | start k => exact .inl ⟨k, rfl, rfl⟩
  | env e => exact .inr (.inr (.inr ⟨e, rfl, rfl⟩))
  | step i c =>
    cases ht : w.threads[i]? with
    | none => exact .inr (.inr (.inl ⟨i, c, rfl, by simp [pending, ht], by simp [next, ht]⟩))
    | some t =>
      obtain ⟨k, p⟩ := t
      cases p with
      | done r => exact .inr (.inr (.inl ⟨i, c, rfl, by simp [pending, ht], by simp [next, ht]⟩))
      | call o f => exact .inr (.inl ⟨i, c, k, o, f, rfl, ht, by simp [next, ht]⟩)

theorem pending_eq_some {i : Nat} {o : Op} :
    w.pending i = some o ↔ ∃ k f, w.threads[i]? = some ⟨k, .call o f⟩ := by
  unfold pending
  split
  · next k o' f ht =>
    constructor
    · rintro ⟨rfl⟩
      exact ⟨k, f, ht⟩
    · rintro ⟨k', f', ht'⟩
      cases ht.symm.trans ht'
      rfl
  · next hn =>
    constructor
    · simp
    · rintro ⟨k, f, ht⟩
      exact absurd ht (hn k o f)

/-- A step of a call that has a statement to issue. -/
theorem next_step {i : Nat} {o : Op} (hp : w.pending i = some o) (c : C) :
    (next M body w (.step i c)).state = (M.exec o c w.state).2 ∧
    (next M body w (.step i c)).log = w.log ++ [(i, ⟨o, (M.exec o c w.state).1⟩)] := by
  obtain ⟨k, f, ht⟩ := pending_eq_some.1 hp
  simp [next, ht]

/-- No call is in flight if none of those that exist is. -/
theorem quiet_of_threads (h : ∀ i < w.threads.length, w.pending i = none) (i : Nat) :
    w.pending i = none := by
  by_cases hi : i < w.threads.length
  · exact h i hi
  · simp [pending, List.getElem?_eq_none (Nat.le_of_not_lt hi)]

theorem next_idle {i : Nat} (hp : w.pending i = none) (c : C) : next M body w (.step i c) = w := by
  rcases next_cases M body w (.step i c) with ⟨k, hl, -⟩ | ⟨j, d, k, o, f, hl, ht, -⟩ |
    ⟨j, d, -, -, hsame⟩ | ⟨e, hl, -⟩
  · cases hl
  · cases hl
    rw [pending_eq_some.2 ⟨k, f, ht⟩] at hp
    cases hp
  · exact hsame
  · cases hl

theorem result_eq_some {i : Nat} {r : Except ε α} :
    w.result i = some r ↔ ∃ k, w.threads[i]? = some ⟨k, .done r⟩ := by
  unfold result
  split
  · next k r' ht => simp [ht]
  · next hn =>
    constructor
    · simp
    · rintro ⟨k, ht⟩
      exact absurd ht (hn k r)

/-- A call that has started and has no next statement has ended. -/
theorem result_of_idle {i : Nat} (hi : i < w.threads.length) (hp : w.pending i = none) :
    ∃ r, w.result i = some r := by
  obtain ⟨⟨k, p⟩, ht⟩ : ∃ t, w.threads[i]? = some t := ⟨_, List.getElem?_eq_getElem hi⟩
  cases p with
  | done r => exact ⟨r, result_eq_some.2 ⟨k, ht⟩⟩
  | call o f =>
    rw [pending_eq_some.2 ⟨k, f, ht⟩] at hp
    cases hp

/-! ## Calls and events are never taken back -/

theorem callOf_next (M : Machine Resp σ C E) (body : K → Prog Resp ε α) {i : Nat} {k : K} (h : w.callOf i = some k) (l : Label K C E) :
    (next M body w l).callOf i = some k := by
  obtain ⟨t, ht, rfl⟩ := Option.map_eq_some_iff.mp h
  rcases next_cases M body w l with
    ⟨k', -, hw⟩ | ⟨j, c, k', o, f, -, hj, hw⟩ | ⟨j, c, -, -, hw⟩ | ⟨e, -, hw⟩
  · rw [hw]
    simp [callOf, List.getElem?_append_left (List.getElem?_eq_some_iff.mp ht).1, ht]
  · rw [hw]
    by_cases hij : j = i
    · subst j
      cases ht.symm.trans hj
      simp [callOf, (List.getElem?_eq_some_iff.mp ht).1]
    · simp [callOf, List.getElem?_set_ne hij, ht]
  · rw [hw]
    exact h
  · rw [hw]
    exact h

/-- A label that is no step of a call leaves its next statement as it is. -/
theorem pending_next (M : Machine Resp σ C E) (body : K → Prog Resp ε α) {i : Nat}
    (hi : i < w.threads.length) {l : Label K C E} (hl : ∀ c, l ≠ .step i c) :
    (next M body w l).pending i = w.pending i := by
  rcases next_cases M body w l with
    ⟨k, -, hw⟩ | ⟨j, c, k, o, f, rfl, hj, hw⟩ | ⟨j, c, -, -, hw⟩ | ⟨e, -, hw⟩
  · rw [hw]
    simp only [pending, List.getElem?_append_left hi]
  · have hij : j ≠ i := by
      rintro rfl
      exact hl c rfl
    rw [hw]
    simp only [pending, List.getElem?_set_ne hij]
  · rw [hw]
  · rw [hw]
    rfl

/-- Only a step of call `i` adds to its events. -/
theorem hist_next (M : Machine Resp σ C E) (body : K → Prog Resp ε α)
    (w : Pool K Resp ε α σ) (l : Label K C E) (i : Nat) :
    (next M body w l).hist i = w.hist i ∨
    ∃ c o, l = .step i c ∧ w.pending i = some o ∧
      (next M body w l).hist i = w.hist i ++ [⟨o, (M.exec o c w.state).1⟩] := by
  rcases next_cases M body w l with
    ⟨k', -, hw⟩ | ⟨j, c, k', o, f, hl, hj, hw⟩ | ⟨j, c, -, -, hw⟩ | ⟨e, -, hw⟩
  · exact .inl (by rw [hw]; rfl)
  · by_cases hij : j = i
    · subst j
      refine .inr ⟨c, o, hl, pending_eq_some.2 ⟨k', f, hj⟩, ?_⟩
      rw [hw]
      simp [hist, ownEvent, List.filterMap_append]
    · left
      rw [hw]
      simp [hist, ownEvent, List.filterMap_append, hij]
  · exact .inl (by rw [hw])
  · exact .inl (by rw [hw]; rfl)

/-- A call that has not started has no events. -/
theorem hist_fresh (hfresh : ∀ i e, (i, e) ∈ w.log → i < w.threads.length) {i : Nat}
    (hi : w.threads.length ≤ i) : w.hist i = [] := by
  apply List.eq_nil_iff_forall_not_mem.mpr
  intro e he
  have := hfresh i e (mem_hist.1 he)
  omega

theorem hist_next_fresh (hfresh : ∀ i e, (i, e) ∈ w.log → i < w.threads.length) {i : Nat}
    (hi : w.threads.length ≤ i) (l : Label K C E) : (next M body w l).hist i = [] := by
  rcases hist_next M body w l i with hsame | ⟨c, o, -, hp, -⟩
  · rw [hsame, hist_fresh hfresh hi]
  · obtain ⟨k, f, ht⟩ := pending_eq_some.1 hp
    have := (List.getElem?_eq_some_iff.mp ht).1
    omega

/-- A call of the next pool is an older one, or the one this label starts. -/
theorem callOf_of_next {i : Nat} {k : K} {l : Label K C E}
    (h : (next M body w l).callOf i = some k) :
    w.callOf i = some k ∨ (l = .start k ∧ i = w.threads.length) := by
  rcases next_cases M body w l with
    ⟨k', hl, hw⟩ | ⟨j, c, k', o, f, -, hj, hw⟩ | ⟨j, c, -, -, hw⟩ | ⟨e, -, hw⟩
  · rw [hw] at h
    by_cases hi : i < w.threads.length
    · left
      simpa [callOf, List.getElem?_append_left hi] using h
    · have hlen : i < (w.threads ++ [(⟨k', body k'⟩ : Thread K Resp ε α)]).length := by
        obtain ⟨t, ht, -⟩ := Option.map_eq_some_iff.mp h
        exact (List.getElem?_eq_some_iff.mp ht).1
      rw [List.length_append, List.length_singleton] at hlen
      obtain rfl : i = w.threads.length := by omega
      have hk : k' = k := by simpa [callOf] using h
      rw [hk] at hl
      exact .inr ⟨hl, rfl⟩
  · left
    rw [hw] at h
    by_cases hij : j = i
    · subst j
      have hk : k' = k := by simpa [callOf, (List.getElem?_eq_some_iff.mp hj).1] using h
      simp [callOf, hj, hk]
    · simpa [callOf, List.getElem?_set_ne hij] using h
  · rw [hw] at h
    exact .inl h
  · rw [hw] at h
    exact .inl h

theorem result_next {i : Nat} {r : Except ε α} (h : w.result i = some r) (l : Label K C E) :
    (next M body w l).result i = some r := by
  obtain ⟨k, ht⟩ := result_eq_some.1 h
  apply result_eq_some.2
  refine ⟨k, ?_⟩
  rcases next_cases M body w l with
    ⟨k', -, hw⟩ | ⟨j, c, k', o, f, -, hj, hw⟩ | ⟨j, c, -, -, hw⟩ | ⟨e, -, hw⟩
  · rw [hw]
    simp [List.getElem?_append_left (List.getElem?_eq_some_iff.mp ht).1, ht]
  · rw [hw]
    have hij : j ≠ i := by
      rintro rfl
      cases ht.symm.trans hj
    simp [List.getElem?_set_ne hij, ht]
  · rw [hw]
    exact ht
  · rw [hw]
    exact ht

/-- A call of the next pool that has ended had ended before, or this label is its step
or its start. -/
theorem result_of_next {i : Nat} {r : Except ε α} {l : Label K C E}
    (h : (next M body w l).result i = some r) :
    w.result i = some r ∨ (∃ c, l = .step i c) ∨ ∃ k, l = .start k ∧ i = w.threads.length := by
  obtain ⟨k, ht⟩ := result_eq_some.1 h
  rcases next_cases M body w l with
    ⟨k', hl, hw⟩ | ⟨j, c, k', o, f, hl, -, hw⟩ | ⟨j, c, -, -, hw⟩ | ⟨e, -, hw⟩
  · rw [hw] at ht
    by_cases hi : i < w.threads.length
    · rw [List.getElem?_append_left hi] at ht
      exact .inl (result_eq_some.2 ⟨k, ht⟩)
    · have hlen := (List.getElem?_eq_some_iff.mp ht).1
      rw [List.length_append, List.length_singleton] at hlen
      exact .inr (.inr ⟨k', hl, by omega⟩)
  · by_cases hij : j = i
    · exact .inr (.inl ⟨c, hij ▸ hl⟩)
    · rw [hw] at ht
      rw [List.getElem?_set_ne hij] at ht
      exact .inl (result_eq_some.2 ⟨k, ht⟩)
  · exact .inl (hw ▸ h)
  · rw [hw] at h
    exact .inl h

theorem length_step (w : Pool K Resp ε α σ) (i : Nat) (c : C) :
    (next M body w (.step i c)).threads.length = w.threads.length := by
  cases hp : w.pending i with
  | none => rw [next_idle hp]
  | some o =>
    obtain ⟨k, f, ht⟩ := pending_eq_some.1 hp
    simp [next, ht]

theorem log_next (w : Pool K Resp ε α σ) (l : Label K C E) :
    w.log <+: (next M body w l).log := by
  rcases next_cases M body w l with
    ⟨k', -, hw⟩ | ⟨j, c, k', o, f, -, hj, hw⟩ | ⟨j, c, -, -, hw⟩ | ⟨e, -, hw⟩ <;>
  simp [hw]

/-- Only a step adds an event, and it adds the reply the state gave. -/
theorem log_next_eq (M : Machine Resp σ C E) (body : K → Prog Resp ε α)
    (w : Pool K Resp ε α σ) (l : Label K C E) :
    (next M body w l).log = w.log ∨
    ∃ i c o, l = .step i c ∧ w.pending i = some o ∧
      (next M body w l).log = w.log ++ [(i, ⟨o, (M.exec o c w.state).1⟩)] ∧
      (next M body w l).state = (M.exec o c w.state).2 := by
  rcases next_cases M body w l with
    ⟨k', -, hw⟩ | ⟨j, c, k', o, f, hl, hj, hw⟩ | ⟨j, c, -, -, hw⟩ | ⟨e, -, hw⟩
  · exact .inl (by rw [hw])
  · refine .inr ⟨j, c, o, hl, pending_eq_some.2 ⟨k', f, hj⟩, ?_, ?_⟩ <;> rw [hw]
  · exact .inl (by rw [hw])
  · exact .inl (by rw [hw])

/-- A relation between the log and the state is kept by a label if every statement
and the environment keep it. -/
theorem logged_next {R : List (Nat × Event Resp) → σ → Prop} (l : Label K C E)
    (h : R w.log w.state)
    (hstep : ∀ i c o, l = .step i c → w.pending i = some o →
      R (w.log ++ [(i, ⟨o, (M.exec o c w.state).1⟩)]) (M.exec o c w.state).2)
    (henv : ∀ e, R w.log (M.env e w.state)) : R (next M body w l).log (next M body w l).state := by
  rcases next_cases M body w l with
    ⟨k, -, hw⟩ | ⟨i, c, k, o, f, hl, ht, hw⟩ | ⟨i, c, -, -, hw⟩ | ⟨e, -, hw⟩
  · rw [hw]
    exact h
  · rw [hw]
    exact hstep i c o hl (pending_eq_some.2 ⟨k, f, ht⟩)
  · rw [hw]
    exact h
  · rw [hw]
    exact henv e

/-! ## Runs -/

/-- A property of pools kept by every label of a run is kept by the run. -/
theorem run_inv {P : Pool K Resp ε α σ → Label K C E → Prop} {I : Pool K Resp ε α σ → Prop}
    (hstep : ∀ w l, P w l → I w → I (next M body w l)) {ls : List (Label K C E)}
    (hP : Each M body P w ls) (hw : I w) : I (run M body w ls) := by
  induction ls generalizing w with
  | nil => exact hw
  | cons l ls ih => exact ih hP.2 (hstep w l hP.1 hw)

theorem run_inv_all {I : Pool K Resp ε α σ → Prop}
    (hstep : ∀ w l, I w → I (next M body w l)) (ls : List (Label K C E)) (hw : I w) :
    I (run M body w ls) := by
  induction ls generalizing w with
  | nil => exact hw
  | cons l ls ih => exact ih (hstep w l hw)

/-- What holds of every state of a run, its ends included. -/
def Always (M : Machine Resp σ C E) (body : K → Prog Resp ε α) (I : Pool K Resp ε α σ → Prop)
    (w : Pool K Resp ε α σ) (ls : List (Label K C E)) : Prop :=
  ∀ pre, pre <+: ls → I (run M body w pre)

theorem always_cons {I : Pool K Resp ε α σ → Prop} {l : Label K C E} {ls : List (Label K C E)} :
    Always M body I w (l :: ls) ↔ I w ∧ Always M body I (next M body w l) ls := by
  constructor
  · intro h
    refine ⟨h [] (List.nil_prefix), ?_⟩
    intro pre hpre
    exact h (l :: pre) ((List.prefix_cons_inj l).mpr hpre)
  · rintro ⟨hw, h⟩ pre hpre
    cases pre with
    | nil => exact hw
    | cons l' pre =>
      obtain ⟨rfl, htail⟩ := List.cons_prefix_cons.mp hpre
      exact h pre htail

/-- A side condition on labels that is exactly what a label needs to keep `I`
is exactly what a run needs to stay in `I`. -/
theorem always_iff_each {P : Pool K Resp ε α σ → Label K C E → Prop}
    {I J : Pool K Resp ε α σ → Prop}
    (hJ : ∀ w l, J w → J (next M body w l))
    (hstep : ∀ w l, J w → I w → (I (next M body w l) ↔ P w l))
    {ls : List (Label K C E)} (hj : J w) (hw : I w) :
    Always M body I w ls ↔ Each M body P w ls := by
  induction ls generalizing w with
  | nil => simp [Always, Each, hw]
  | cons l ls ih =>
    rw [always_cons]
    constructor
    · rintro ⟨-, h⟩
      have hI : I (next M body w l) := h [] (List.nil_prefix)
      exact ⟨(hstep w l hj hw).mp hI, (ih (hJ w l hj) hI).mp h⟩
    · rintro ⟨hP, h⟩
      have hI := (hstep w l hj hw).mpr hP
      exact ⟨hw, (ih (hJ w l hj) hI).mpr h⟩

/-- Two side conditions that agree on every label, under an invariant, agree on
every run. -/
theorem each_iff_each {P Q : Pool K Resp ε α σ → Label K C E → Prop}
    {J : Pool K Resp ε α σ → Prop} (hJ : ∀ w l, J w → J (next M body w l))
    (hstep : ∀ w l, J w → (P w l ↔ Q w l)) {ls : List (Label K C E)} (hj : J w) :
    Each M body P w ls ↔ Each M body Q w ls := by
  induction ls generalizing w with
  | nil => exact Iff.rfl
  | cons l ls ih => exact and_congr (hstep w l hj) (ih (hJ w l hj))

/-- The calls of a run are those it starts. -/
theorem start_of_callOf {s : σ} {ls : List (Label K C E)} {i : Nat} {k : K}
    (h : (run M body (init s : Pool K Resp ε α σ) ls).callOf i = some k) : .start k ∈ ls := by
  induction ls using List.reverseRecOn with
  | nil => cases h
  | append_singleton ls l ih =>
    rw [run_append, run_cons, run_nil] at h
    rcases callOf_of_next h with hold | ⟨hl, -⟩
    · exact List.mem_append_left _ (ih hold)
    · simp [hl]

theorem callOf_run {i : Nat} {k : K} (h : w.callOf i = some k) (ls : List (Label K C E)) :
    (run M body w ls).callOf i = some k :=
  run_inv_all (I := fun w => w.callOf i = some k) (fun _ l hw => callOf_next M body hw l) ls h

theorem log_run (w : Pool K Resp ε α σ) (ls : List (Label K C E)) :
    w.log <+: (run M body w ls).log :=
  run_inv_all (I := fun w' => w.log <+: w'.log) (fun w' l hw => hw.trans (log_next w' l)) ls
    (List.prefix_refl _)

/-- A call that has ended issues nothing more. -/
theorem hist_run_of_result {i : Nat} {r : Except ε α} (h : w.result i = some r)
    (ls : List (Label K C E)) : (run M body w ls).hist i = w.hist i := by
  induction ls generalizing w with
  | nil => rfl
  | cons l ls ih =>
    rw [run_cons, ih (result_next h l)]
    rcases hist_next M body w l i with hsame | ⟨c, o, -, hp, -⟩
    · exact hsame
    · obtain ⟨k, f, ht⟩ := pending_eq_some.1 hp
      obtain ⟨k', ht'⟩ := result_eq_some.1 h
      cases ht.symm.trans ht'

/-- Every event a run adds was issued in some pool of the run, and its reply is
what the state of that pool gave. -/
theorem event_origin {ls : List (Label K C E)} {i : Nat} {e : Event Resp}
    (h : (i, e) ∈ (run M body w ls).log) :
    (i, e) ∈ w.log ∨ ∃ pre c post, ls = pre ++ .step i c :: post ∧
      (run M body w pre).pending i = some e.1 ∧
      e.2 = (M.exec e.1 c (run M body w pre).state).1 ∧
      (run M body w (pre ++ [.step i c])).state = (M.exec e.1 c (run M body w pre).state).2 := by
  induction ls generalizing w with
  | nil => exact .inl h
  | cons l ls ih =>
    rcases ih h with hlog | ⟨pre, c, post, hls, hp, hr, hs⟩
    · rcases log_next_eq M body w l with heq | ⟨j, c, o, hl, hp, heq, hs⟩
      · exact .inl (heq ▸ hlog)
      · rw [heq] at hlog
        rcases List.mem_append.mp hlog with hlog | hlog
        · exact .inl hlog
        · cases List.mem_singleton.mp hlog
          refine .inr ⟨[], c, ls, by rw [hl]; rfl, hp, rfl, ?_⟩
          subst hl
          exact hs
    · exact .inr ⟨l :: pre, c, post, by rw [hls]; rfl, hp, hr, hs⟩

/-- An event of a call was issued in the pool in which the call had issued what
comes before it. -/
theorem hist_origin {s : σ} {ls : List (Label K C E)} {i : Nat} {h₁ h₂ : List (Event Resp)}
    {e : Event Resp} (h : (run M body (init s) ls).hist i = h₁ ++ e :: h₂) :
    ∃ pre c post, ls = pre ++ .step i c :: post ∧ (run M body (init s) pre).hist i = h₁ ∧
      (run M body (init s) pre).pending i = some e.1 ∧
      e.2 = (M.exec e.1 c (run M body (init s) pre).state).1 ∧
      (run M body (init s) (pre ++ [.step i c])).state =
        (M.exec e.1 c (run M body (init s) pre).state).2 := by
  induction ls using List.reverseRecOn generalizing h₂ with
  | nil => simp [hist, init] at h
  | append_singleton ls l ih =>
    rw [run_append, run_cons, run_nil] at h
    have hold : ∀ h₂', (run M body (init s) ls).hist i = h₁ ++ e :: h₂' → ∃ pre c post,
        ls ++ [l] = pre ++ .step i c :: post ∧ (run M body (init s) pre).hist i = h₁ ∧
        (run M body (init s) pre).pending i = some e.1 ∧
        e.2 = (M.exec e.1 c (run M body (init s) pre).state).1 ∧
        (run M body (init s) (pre ++ [.step i c])).state =
          (M.exec e.1 c (run M body (init s) pre).state).2 := by
      intro h₂' h'
      obtain ⟨pre, c, post, hls, hrest⟩ := ih h'
      exact ⟨pre, c, post ++ [l], by rw [hls]; simp, hrest⟩
    rcases hist_next M body (run M body (init s) ls) l i with hsame | ⟨c, o, hl, hp, hnew⟩
    · exact hold h₂ (hsame ▸ h)
    · rw [hnew] at h
      rcases snoc_split h with ⟨rfl, rfl⟩ | ⟨h₂', h'⟩
      · refine ⟨ls, c, [], by rw [hl], rfl, hp, rfl, ?_⟩
        have hs : (next M body (run M body (init s) ls) (.step i c)).state =
            (M.exec o c (run M body (init s) ls).state).2 := (next_step hp c).1
        rwa [run_append, run_cons, run_nil]
      · exact hold h₂' h'

/-- A property of every event that a run adds, label by label. -/
theorem each_of_log {q : Event Resp → Prop} {ls : List (Label K C E)}
    (h : ∀ x ∈ (run M body w ls).log.drop w.log.length, q x.2) :
    Each M body (fun w l => ∀ i c o, l = .step i c → w.pending i = some o →
      q ⟨o, (M.exec o c w.state).1⟩) w ls := by
  induction ls generalizing w with
  | nil => trivial
  | cons l ls ih =>
    refine ⟨?_, ih fun x hx => h x ?_⟩
    · rintro i c o rfl hp
      obtain ⟨ys, hys⟩ := log_run (M := M) (next M body w (.step i c)) ls
      rw [(next_step hp c).2] at hys
      refine h (i, ⟨o, (M.exec o c w.state).1⟩) ?_
      rw [run_cons, ← hys, List.append_assoc, List.drop_left]
      simp
    · obtain ⟨ys, hys⟩ : w.log <+: (next M body w l).log := log_next w l
      rw [← hys, List.length_append, ← List.drop_drop] at hx
      exact List.mem_of_mem_drop hx

/-- The events of a call that starts later are all issued later. -/
theorem event_of_later (hfresh : ∀ i e, (i, e) ∈ w.log → i < w.threads.length) {k : Nat}
    (hk : w.threads.length ≤ k) {ls : List (Label K C E)} {e : Event Resp}
    (he : e ∈ (run M body w ls).hist k) :
    ∃ pre c post, ls = pre ++ .step k c :: post ∧ (run M body w pre).pending k = some e.1 ∧
      e.2 = (M.exec e.1 c (run M body w pre).state).1 := by
  rcases event_origin (mem_hist.1 he) with hlog | ⟨pre, c, post, hls, hp, hr, -⟩
  · exact absurd (hfresh k e hlog) (by omega)
  · exact ⟨pre, c, post, hls, hp, hr⟩

/-! ## Monitored calls -/

section Monitored

variable {m : K → Monitor Resp γ} {post : K → γ → Except ε α → Prop} {g₀ : K → γ}

/-- The ghost value of call `i`: its monitor folded over its own events. -/
def ghost (m : K → Monitor Resp γ) (g₀ : K → γ) (k : K) (log : List (Nat × Event Resp))
    (i : Nat) : γ :=
  (log.filterMap (ownEvent i)).foldl (m k).upd (g₀ k)

/-- Every call is still on a path its monitor allows, and every event so far
was allowed when it was issued. -/
structure Tracks (m : K → Monitor Resp γ) (post : K → γ → Except ε α → Prop) (g₀ : K → γ)
    (w : Pool K Resp ε α σ) : Prop where
  fresh : ∀ i e, (i, e) ∈ w.log → i < w.threads.length
  along : ∀ i (t : Thread K Resp ε α), w.threads[i]? = some t →
    t.rest.Along (m t.call) (post t.call) (ghost m g₀ t.call w.log i)
  past : ∀ xs i e ys, w.log = xs ++ (i, e) :: ys →
    ∃ k, w.callOf i = some k ∧ (m k).ok (ghost m g₀ k xs i) e

theorem ghost_snoc_self (k : K) (log : List (Nat × Event Resp)) (i : Nat) (e : Event Resp) :
    ghost m g₀ k (log ++ [(i, e)]) i = (m k).upd (ghost m g₀ k log i) e := by
  simp [ghost, ownEvent, List.filterMap_append]

theorem ghost_snoc_ne {i j : Nat} (h : j ≠ i) (k : K) (log : List (Nat × Event Resp))
    (e : Event Resp) : ghost m g₀ k (log ++ [(j, e)]) i = ghost m g₀ k log i := by
  simp [ghost, ownEvent, List.filterMap_append, h]

theorem tracks_init (s : σ) : Tracks m post g₀ (init s : Pool K Resp ε α σ) where
  fresh := by simp [init]
  along := by simp [init]
  past := by simp [init]

theorem tracks_next (hbody : ∀ k, (body k).Along (m k) (post k) (g₀ k))
    (l : Label K C E) (h : Tracks m post g₀ w) : Tracks m post g₀ (next M body w l) := by
  have hcall := fun i k (hk : w.callOf i = some k) => callOf_next M body hk l
  rcases next_cases M body w l with
    ⟨k, -, hw⟩ | ⟨j, c, k, o, f, -, hj, hw⟩ | ⟨j, c, -, -, hw⟩ | ⟨e, -, hw⟩
  · refine ⟨?_, ?_, ?_⟩
    · intro i e he
      have := h.fresh i e (by simpa [hw] using he)
      simp [hw]
      omega
    · intro i t ht
      simp only [hw, List.getElem?_append] at ht ⊢
      split at ht
      · exact h.along i t ht
      · next hi =>
        cases hn : i - w.threads.length with
        | succ n => simp [hn] at ht
        | zero =>
          simp only [hn, List.getElem?_cons_zero, Option.some.injEq] at ht
          subst ht
          have hnone : w.log.filterMap (ownEvent i) = [] := hist_fresh h.fresh (by omega)
          simpa [ghost, hnone] using hbody k
    · intro xs i e ys hlog
      obtain ⟨k', hk, hok⟩ := h.past xs i e ys (by simpa [hw] using hlog)
      exact ⟨k', hcall i k' hk, hok⟩
  · have hlen := (List.getElem?_eq_some_iff.mp hj).1
    have hak := h.along j _ hj (M.exec o c w.state).1
    refine ⟨?_, ?_, ?_⟩
    · intro i e he
      simp only [hw, List.mem_append, List.mem_singleton, List.length_set] at he ⊢
      rcases he with he | he
      · exact h.fresh i e he
      · cases he
        exact hlen
    · intro i t ht
      simp only [hw] at ht ⊢
      by_cases hij : j = i
      · subst j
        simp only [List.getElem?_set_self hlen, Option.some.injEq] at ht
        subst ht
        rw [ghost_snoc_self]
        exact hak.2
      · rw [List.getElem?_set_ne hij] at ht
        rw [ghost_snoc_ne hij]
        exact h.along i t ht
    · intro xs i e ys hlog
      simp only [hw] at hlog
      rcases snoc_split hlog with ⟨rfl, he⟩ | ⟨ys', hlog⟩
      · cases he
        exact ⟨k, hcall j k (by simp [callOf, hj]), hak.1⟩
      · obtain ⟨k', hk, hok⟩ := h.past xs i e ys' hlog
        exact ⟨k', hcall i k' hk, hok⟩
  · rw [hw]
    exact h
  · rw [hw]
    exact ⟨h.fresh, h.along, h.past⟩

theorem tracks_run (hbody : ∀ k, (body k).Along (m k) (post k) (g₀ k)) (s : σ)
    (ls : List (Label K C E)) :
    Tracks m post g₀ (run M body (init s : Pool K Resp ε α σ) ls) :=
  run_inv_all (fun _ l h => tracks_next hbody l h) ls (tracks_init s)

theorem ghost_history {ok : K → List (Event Resp) → Event Resp → Prop} (k : K)
    (log : List (Nat × Event Resp)) (i : Nat) :
    ghost (fun k => Monitor.history (ok k)) (fun _ => []) k log i =
      log.filterMap (ownEvent i) := by
  have hfold : ∀ (es acc : List (Event Resp)),
      es.foldl (Monitor.history (ok k)).upd acc = acc ++ es := by
    intro es
    induction es with
    | nil => simp
    | cons e es ih =>
      intro acc
      rw [List.foldl_cons, Monitor.history_upd, ih, List.append_assoc]
      rfl
  exact hfold _ _

/-- The result of an ended call meets its postcondition. -/
theorem Tracks.result {i : Nat} {r : Except ε α} (h : Tracks m post g₀ w)
    (hr : w.result i = some r) :
    ∃ k, w.callOf i = some k ∧ post k (ghost m g₀ k w.log i) r := by
  obtain ⟨k, ht⟩ := result_eq_some.1 hr
  exact ⟨k, by simp [callOf, ht], h.along i _ ht⟩

/-- The next statement of a call is one its monitor allows, whatever the reply. -/
theorem Tracks.pending {i : Nat} {o : Op} (h : Tracks m post g₀ w) (hp : w.pending i = some o)
    (r : Resp o) : ∃ k, w.callOf i = some k ∧ (m k).ok (ghost m g₀ k w.log i) ⟨o, r⟩ := by
  obtain ⟨k, f, ht⟩ := pending_eq_some.1 hp
  exact ⟨k, by simp [callOf, ht], (h.along i _ ht r).1⟩

/-! Calls monitored by their own history. -/

section History

variable {ok : K → List (Event Resp) → Event Resp → Prop}
  {post : K → List (Event Resp) → Except ε α → Prop}

/-- The next statement of a call is one its history allows. -/
theorem Tracks.pending_history (h : Tracks (fun k => Monitor.history (ok k)) post (fun _ => []) w)
    {i : Nat} {o : Op} (hp : w.pending i = some o) (r : Resp o) :
    ∃ k, w.callOf i = some k ∧ ok k (w.hist i) ⟨o, r⟩ := by
  obtain ⟨k, hk, hok⟩ := h.pending hp r
  rw [ghost_history] at hok
  exact ⟨k, hk, hok⟩

/-- Every event was one that the history of its call up to there allowed. -/
theorem Tracks.past_history (h : Tracks (fun k => Monitor.history (ok k)) post (fun _ => []) w)
    {xs ys : List (Nat × Event Resp)} {i : Nat} {e : Event Resp}
    (hlog : w.log = xs ++ (i, e) :: ys) :
    ∃ k, w.callOf i = some k ∧ ok k (xs.filterMap (ownEvent i)) e := by
  obtain ⟨k, hk, hok⟩ := h.past xs i e ys hlog
  rw [ghost_history] at hok
  exact ⟨k, hk, hok⟩

/-- The same for any part of the history of one call. -/
theorem Tracks.split_history (h : Tracks (fun k => Monitor.history (ok k)) post (fun _ => []) w)
    {i : Nat} {e : Event Resp} {h₁ h₂ : List (Event Resp)} (hhist : w.hist i = h₁ ++ e :: h₂) :
    ∃ k, w.callOf i = some k ∧ ok k h₁ e := by
  obtain ⟨xs, ys, hlog, rfl, hys⟩ := List.filterMap_eq_append_iff.mp hhist
  obtain ⟨ys₁, x, ys₂, rfl, hnone, hx, -⟩ := List.filterMap_eq_cons_iff.mp hys
  have hxe : x = (i, e) := by
    unfold ownEvent at hx
    split at hx
    · next hi =>
      cases hx
      exact Prod.ext hi rfl
    · cases hx
  subst hxe
  rw [← List.append_assoc] at hlog
  obtain ⟨k, hk, hok⟩ := h.past_history hlog
  rw [List.filterMap_append, List.filterMap_eq_nil_iff.mpr hnone, List.append_nil] at hok
  exact ⟨k, hk, hok⟩

/-- An event that a call issues only if it has issued none of its kind is its only
one. -/
theorem Tracks.once (h : Tracks (fun k => Monitor.history (ok k)) post (fun _ => []) w)
    {q : Event Resp → Bool}
    (hok : ∀ k h e, ok k h e → q e = true → ∀ e' ∈ h, q e' = false) {i : Nat} {e : Event Resp}
    {xs ys : List (Nat × Event Resp)} (hlog : w.log = xs ++ (i, e) :: ys) (he : q e = true) :
    ∀ e', (i, e') ∈ ys → q e' = false := by
  intro e' he'
  obtain ⟨ys₁, ys₂, rfl⟩ := List.append_of_mem he'
  rw [← List.cons_append, ← List.append_assoc] at hlog
  obtain ⟨k, -, hrule⟩ := h.past_history hlog
  cases hq : q e' with
  | false => rfl
  | true =>
    have hnone := hok k _ e' hrule hq e (by simp [ownEvent, List.filterMap_append])
    exact absurd he (by rw [hnone]; decide)

/-- The result of an ended call meets its postcondition on its history. -/
theorem Tracks.result_history (h : Tracks (fun k => Monitor.history (ok k)) post (fun _ => []) w)
    {i : Nat} {r : Except ε α} (hr : w.result i = some r) :
    ∃ k, w.callOf i = some k ∧ post k (w.hist i) r := by
  obtain ⟨k, hk, hpost⟩ := h.result hr
  rw [ghost_history] at hpost
  exact ⟨k, hk, hpost⟩

end History

end Monitored

/-! ## State invariants -/

theorem state_next (M : Machine Resp σ C E) (body : K → Prog Resp ε α)
    (w : Pool K Resp ε α σ) (l : Label K C E) :
    (next M body w l).state = w.state ∨
    (∃ i c o, l = .step i c ∧ w.pending i = some o ∧
      (next M body w l).state = (M.exec o c w.state).2) ∨
    (∃ e, l = .env e ∧ (next M body w l).state = M.env e w.state) := by
  rcases next_cases M body w l with
    ⟨k', -, hw⟩ | ⟨j, c, k', o, f, hl, hj, hw⟩ | ⟨j, c, -, -, hw⟩ | ⟨e, hl, hw⟩
  · exact .inl (by rw [hw])
  · exact .inr (.inl ⟨j, c, o, hl, pending_eq_some.2 ⟨k', f, hj⟩, by rw [hw]⟩)
  · exact .inl (by rw [hw])
  · exact .inr (.inr ⟨e, hl, by rw [hw]⟩)

/-- Every call of `w` is on a path on which it emits only statements in `P`. -/
def Emitting (P : Op → Prop) (w : Pool K Resp ε α σ) : Prop :=
  Tracks (fun _ => Monitor.emitting P) (fun _ _ _ => True) (fun _ => ()) w

theorem emitting_init {P : Op → Prop} (s : σ) : Emitting P (init s : Pool K Resp ε α σ) :=
  tracks_init s

theorem emitting_next {P : Op → Prop} (hbody : ∀ k, (body k).Emits P) (l : Label K C E)
    (h : Emitting P w) : Emitting P (next M body w l) :=
  tracks_next (fun k => hbody k) l h

theorem Emitting.pending {P : Op → Prop} (h : Emitting P w) {i : Nat} {o : Op}
    (hp : w.pending i = some o) (r : Resp o) : P o := by
  obtain ⟨k, -, hok⟩ := Tracks.pending h hp r
  exact hok

/-! ## Columns

What a run leaves in one column of the state is a fold over the events of the
run, when every statement changes the column by a function of its event. -/

section Column

variable {β : Type} {P : Op → Prop} {col : σ → β} {upd : β → Event Resp → β}

/-- A column that statements in `P` change through `upd`, and nothing else. -/
structure Column (M : Machine Resp σ C E) (P : Op → Prop) (col : σ → β)
    (upd : β → Event Resp → β) : Prop where
  exec : ∀ o c s, P o → col (M.exec o c s).2 = upd (col s) ⟨o, (M.exec o c s).1⟩
  env : ∀ e s, col (M.env e s) = col s

/-- The value a log leaves in a column. -/
def fold (upd : β → Event Resp → β) (b : β) (log : List (Nat × Event Resp)) : β :=
  log.foldl (fun b x => upd b x.2) b

@[simp] theorem fold_nil (b : β) : fold upd b [] = b := rfl

@[simp] theorem fold_append (b : β) (xs ys : List (Nat × Event Resp)) :
    fold upd b (xs ++ ys) = fold upd (fold upd b xs) ys := List.foldl_append

@[simp] theorem fold_cons (b : β) (x : Nat × Event Resp) (xs : List (Nat × Event Resp)) :
    fold upd b (x :: xs) = fold upd (upd b x.2) xs := rfl

/-- The column is the fold of the log, and every reply was given by a state in
which it was the fold of the log up to there. -/
structure Folded (M : Machine Resp σ C E) (col : σ → β) (upd : β → Event Resp → β) (b : β)
    (w : Pool K Resp ε α σ) : Prop where
  now : col w.state = fold upd b w.log
  reply : ∀ xs i e ys, w.log = xs ++ (i, e) :: ys →
    ∃ c s, col s = fold upd b xs ∧ e.2 = (M.exec e.1 c s).1

theorem folded_next (hc : Column M P col upd) {b : β}
    (hP : ∀ i o, w.pending i = some o → P o) (h : Folded M col upd b w) (l : Label K C E) : Folded M col upd b (next M body w l) := by
  rcases next_cases M body w l with
    ⟨k, -, hw⟩ | ⟨j, c, k, o, f, -, hj, hw⟩ | ⟨j, c, -, -, hw⟩ | ⟨e, -, hw⟩
  · rw [hw]
    exact ⟨h.now, h.reply⟩
  · have hP : P o := hP j o (pending_eq_some.2 ⟨k, f, hj⟩)
    rw [hw]
    refine ⟨?_, ?_⟩
    · simp only [fold_append, fold_cons, fold_nil, ← h.now]
      exact hc.exec o c w.state hP
    · intro xs i e ys hlog
      rcases snoc_split hlog with ⟨rfl, he⟩ | ⟨ys', hlog⟩
      · cases he
        exact ⟨c, w.state, h.now, rfl⟩
      · exact h.reply xs i e ys' hlog
  · rw [hw]
    exact h
  · rw [hw]
    exact ⟨(hc.env e w.state).trans h.now, h.reply⟩

theorem folded_init (s : σ) : Folded M col upd (col s) (init s : Pool K Resp ε α σ) :=
  ⟨rfl, by simp [init]⟩

/-- The last value a log writes, if any. -/
def lastWrite (write : Event Resp → Option γ) (log : List (Nat × Event Resp)) : Option γ :=
  (log.filterMap fun x => write x.2).getLast?

/-- Read from the front: a later write hides an earlier one, and the default. -/
theorem lastWrite_cons (write : Event Resp → Option γ) (x : Nat × Event Resp)
    (log : List (Nat × Event Resp)) (v : γ) :
    (lastWrite write (x :: log)).getD v = (lastWrite write log).getD ((write x.2).getD v) := by
  simp only [lastWrite, List.filterMap_cons]
  cases hx : write x.2 with
  | none => rfl
  | some v' =>
    cases hl : (log.filterMap fun x => write x.2).getLast? with
    | none => simp [List.getLast?_eq_none_iff.mp hl]
    | some v'' => simp [List.getLast?_cons, hl]

/-- What a stretch of the log leaves in a column that has a value. -/
theorem fold_lastWrite {upd : Option γ → Event Resp → Option γ} {write : Event Resp → Option γ}
    (hupd : ∀ v e, upd (some v) e = some ((write e).getD v)) (v : γ)
    (log : List (Nat × Event Resp)) :
    fold upd (some v) log = some ((lastWrite write log).getD v) := by
  induction log generalizing v with
  | nil => rfl
  | cons x log ih => rw [fold_cons, hupd, ih, lastWrite_cons]

/-- What the last event of a kind that a call issued has met, and what the log has
written since. -/
theorem Folded.since {b : β} (h : Folded M col upd b w) {q : Event Resp → Bool} {i : Nat}
    {e : Event Resp} {xs ys : List (Nat × Event Resp)} (hlog : w.log = xs ++ (i, e) :: ys)
    (he : q e = true) (hlast : ∀ e', (i, e') ∈ ys → q e' = false) :
    ∃ c s, e.2 = (M.exec e.1 c s).1 ∧
      col w.state = fold upd (upd (col s) e) (Pool.since q i w.log) := by
  obtain ⟨c, s, hs, hreply⟩ := h.reply xs i e ys hlog
  refine ⟨c, s, hreply, ?_⟩
  rw [h.now, hlog, since_eq he hlast, fold_append, ← hs, fold_cons]

end Column

end Pool

end Interleave
