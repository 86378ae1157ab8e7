import IamAuth.Interleave.Pool

/-!
# Things that are spent once

Some events spend a thing that events of another kind create. If spending leaves
the state in a condition in which the thing cannot be spent, and only a creation
ends that condition, then two spendings have a creation between them, whatever
the order in which any number of calls issue their statements.
-/

set_option autoImplicit false

namespace Interleave

variable {Op : Type} {Resp : Op → Type} {ε α σ C E K : Type}

namespace Pool

/-- Between any two events in `spends` there is one in `creates`. -/
def SpentOnce (spends creates : Event Resp → Bool) (log : List (Nat × Event Resp)) : Prop :=
  ∀ xs x ys y zs, log = xs ++ x :: (ys ++ y :: zs) → spends x.2 = true → spends y.2 = true →
    ∃ z ∈ ys, creates z.2 = true

/-- Calls `i` and `j` have both spent, and a creation lies between the two. -/
def SpentApart (spends creates : Event Resp → Bool) (log : List (Nat × Event Resp))
    (i j : Nat) : Prop :=
  ∃ xs x ys y zs, log = xs ++ x :: (ys ++ y :: zs) ∧
    (x.1 = i ∧ y.1 = j ∨ x.1 = j ∧ y.1 = i) ∧
    spends x.2 = true ∧ spends y.2 = true ∧ ∃ z ∈ ys, creates z.2 = true

/-- In a state that satisfies `gone` there is nothing to spend. `inv` is an
invariant of the states that the other clauses may rest on. -/
structure Spending (M : Machine Resp σ C E) (spends creates : Event Resp → Bool)
    (inv gone : σ → Prop) : Prop where
  inv_exec : ∀ o c s, inv s → inv (M.exec o c s).2
  inv_env : ∀ e s, inv s → inv (M.env e s)
  spend : ∀ o c s, inv s → spends ⟨o, (M.exec o c s).1⟩ = true → gone (M.exec o c s).2
  keep : ∀ o c s, creates ⟨o, (M.exec o c s).1⟩ = false → gone s → gone (M.exec o c s).2
  keep_env : ∀ e s, gone s → gone (M.env e s)
  refuse : ∀ o c s, gone s → spends ⟨o, (M.exec o c s).1⟩ = false

/-- What a run keeps: it has spent once so far, and since the last spending, if
nothing was created, there is nothing to spend. -/
structure SpendInv (spends creates : Event Resp → Bool) (inv gone : σ → Prop)
    (w : Pool K Resp ε α σ) : Prop where
  inv : inv w.state
  once : SpentOnce spends creates w.log
  gone : ∀ xs x ys, w.log = xs ++ x :: ys → spends x.2 = true →
    (∀ z ∈ ys, creates z.2 = false) → gone w.state

variable {M : Machine Resp σ C E} {body : K → Prog Resp ε α} {w : Pool K Resp ε α σ}
variable {spends creates : Event Resp → Bool} {inv gone : σ → Prop}

theorem spendInv_init {s : σ} (hs : inv s) :
    SpendInv spends creates inv gone (init s : Pool K Resp ε α σ) where
  inv := hs
  once := by simp [SpentOnce, init]
  gone := by simp [init]

/-- A step, after which the log is longer by its event. -/
theorem SpendInv.snoc (h : Spending M spends creates inv gone)
    (hw : SpendInv spends creates inv gone w) {w' : Pool K Resp ε α σ} {i : Nat} {o : Op} {c : C}
    (hlog : w'.log = w.log ++ [(i, ⟨o, (M.exec o c w.state).1⟩)])
    (hstate : w'.state = (M.exec o c w.state).2) : SpendInv spends creates inv gone w' := by
  constructor
  · rw [hstate]
    exact h.inv_exec o c _ hw.inv
  · intro xs x ys y zs heq hx hy
    rw [hlog] at heq
    rcases List.eq_nil_or_concat zs with hzs | ⟨zs', z, hzs⟩
    · subst hzs
      have heq' : w.log ++ [(i, ⟨o, (M.exec o c w.state).1⟩)] = (xs ++ x :: ys) ++ [y] := by
        simpa using heq
      obtain ⟨hold, hlast⟩ := List.append_inj' heq' rfl
      obtain rfl := List.singleton_inj.mp hlast
      by_contra hnone
      have hgone : gone w.state := by
        apply hw.gone xs x ys hold hx
        intro z hz
        have hne : ¬creates z.2 = true := fun hc => hnone ⟨z, hz, hc⟩
        simpa using hne
      have hrefused := h.refuse o c _ hgone
      rw [hy] at hrefused
      cases hrefused
    · subst hzs
      have heq' : w.log ++ [(i, ⟨o, (M.exec o c w.state).1⟩)] =
          (xs ++ x :: (ys ++ y :: zs')) ++ [z] := by
        simpa using heq
      obtain ⟨hold, -⟩ := List.append_inj' heq' rfl
      exact hw.once xs x ys y zs' hold hx hy
  · intro xs x ys heq hx hys
    rw [hlog] at heq
    rw [hstate]
    rcases List.eq_nil_or_concat ys with hnil | ⟨ys', y, hconcat⟩
    · subst hnil
      obtain ⟨-, hlast⟩ := List.append_inj' heq rfl
      obtain rfl := List.singleton_inj.mp hlast
      exact h.spend o c _ hw.inv hx
    · subst hconcat
      have heq' : w.log ++ [(i, ⟨o, (M.exec o c w.state).1⟩)] = (xs ++ x :: ys') ++ [y] := by
        simpa using heq
      obtain ⟨hold, hlast⟩ := List.append_inj' heq' rfl
      obtain rfl := List.singleton_inj.mp hlast
      have hgone : gone w.state := by
        apply hw.gone xs x ys' hold hx
        intro z hz
        exact hys z (by simp [hz])
      exact h.keep o c _ (hys (i, ⟨o, (M.exec o c w.state).1⟩) (by simp)) hgone

theorem spendInv_next (h : Spending M spends creates inv gone) (l : Label K C E)
    (hw : SpendInv spends creates inv gone w) :
    SpendInv spends creates inv gone (next M body w l) := by
  rcases next_cases M body w l with
    ⟨k, -, hn⟩ | ⟨i, c, k, o, f, -, -, hn⟩ | ⟨i, c, -, -, hn⟩ | ⟨e, -, hn⟩
  · rw [hn]
    exact ⟨hw.inv, hw.once, hw.gone⟩
  · exact hw.snoc h (by rw [hn]) (by rw [hn])
  · rw [hn]
    exact hw
  · rw [hn]
    constructor
    · exact h.inv_env e _ hw.inv
    · exact hw.once
    · intro xs x ys heq hx hys
      exact h.keep_env e _ (hw.gone xs x ys heq hx hys)

/-- In every interleaving two spendings have a creation between them. -/
theorem spentOnce_run (h : Spending M spends creates inv gone) {s : σ} (hs : inv s)
    (ls : List (Label K C E)) :
    SpentOnce spends creates (run M body (init s : Pool K Resp ε α σ) ls).log :=
  (run_inv_all (fun _ l hw => spendInv_next h l hw) ls (spendInv_init hs)).once

/-- Two members of a list that differ stand in one order or the other. -/
theorem split_pair {β : Type} {x y : β} {log : List β} (hxy : x ≠ y) (hx : x ∈ log)
    (hy : y ∈ log) :
    (∃ xs ys zs, log = xs ++ x :: (ys ++ y :: zs)) ∨
    ∃ xs ys zs, log = xs ++ y :: (ys ++ x :: zs) := by
  obtain ⟨xs, ys, rfl⟩ := List.append_of_mem hx
  rcases List.mem_append.mp hy with hy | hy
  · obtain ⟨as, bs, rfl⟩ := List.append_of_mem hy
    exact .inr ⟨as, bs, ys, by simp⟩
  · rcases List.mem_cons.mp hy with hy | hy
    · exact absurd hy.symm hxy
    · obtain ⟨as, bs, rfl⟩ := List.append_of_mem hy
      exact .inl ⟨xs, as, bs, rfl⟩

/-- Two calls that have both spent are kept apart by a creation. -/
theorem SpentOnce.apart (h : SpentOnce spends creates w.log) {i j : Nat} (hij : i ≠ j)
    {e e' : Event Resp} (he : e ∈ w.hist i) (he' : e' ∈ w.hist j) (hs : spends e = true)
    (hs' : spends e' = true) : SpentApart spends creates w.log i j := by
  have hne : ((i, e) : Nat × Event Resp) ≠ (j, e') := fun heq => hij (congrArg Prod.fst heq)
  rcases split_pair hne (mem_hist.1 he) (mem_hist.1 he') with
    ⟨xs, ys, zs, heq⟩ | ⟨xs, ys, zs, heq⟩
  · exact ⟨xs, _, ys, _, zs, heq, .inl ⟨rfl, rfl⟩, hs, hs', h _ _ _ _ _ heq hs hs'⟩
  · exact ⟨xs, _, ys, _, zs, heq, .inr ⟨rfl, rfl⟩, hs', hs, h _ _ _ _ _ heq hs' hs⟩

/-- What nothing creates, one call spends. -/
theorem SpentOnce.unique (h : SpentOnce spends (fun _ => false) w.log) {i j : Nat}
    {e e' : Event Resp} (he : e ∈ w.hist i) (he' : e' ∈ w.hist j) (hs : spends e = true)
    (hs' : spends e' = true) : i = j := by
  by_contra hij
  obtain ⟨-, -, -, -, -, -, -, -, -, z, -, hz⟩ := h.apart hij he he' hs hs'
  cases hz

end Pool

end Interleave
