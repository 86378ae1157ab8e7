import IamAuth.Interleave.Pool

/-!
# Conditions that events close and open

Some events establish a condition on the state, and only events of another kind
break it. Then it holds from one of the first until the next of the second,
whatever the calls that run in between.
-/

set_option autoImplicit false

namespace Interleave

variable {Op : Type} {Resp : Op → Type} {ε α σ C E K : Type}

namespace Pool

structure Latch (M : Machine Resp σ C E) (closes opens : Event Resp → Bool) (I : σ → Prop) :
    Prop where
  close : ∀ o c s, closes ⟨o, (M.exec o c s).1⟩ = true → I (M.exec o c s).2
  keep : ∀ o c s, opens ⟨o, (M.exec o c s).1⟩ = false → I s → I (M.exec o c s).2
  keep_env : ∀ e s, I s → I (M.env e s)

/-- No event has opened since one has closed. -/
def Closed (closes opens : Event Resp → Bool) (log : List (Nat × Event Resp)) : Prop :=
  ∃ xs x ys, log = xs ++ x :: ys ∧ closes x.2 = true ∧ ∀ y ∈ ys, opens y.2 = false

variable {M : Machine Resp σ C E} {body : K → Prog Resp ε α} {w : Pool K Resp ε α σ}
variable {closes opens : Event Resp → Bool} {I : σ → Prop}

theorem Latch.next (h : Latch M closes opens I) (l : Label K C E)
    (hw : Closed closes opens w.log → I w.state)
    (hclosed : Closed closes opens (next M body w l).log) : I (next M body w l).state := by
  rcases next_cases M body w l with
    ⟨k, -, heq⟩ | ⟨i, c, k, o, f, -, hi, heq⟩ | ⟨i, c, -, -, heq⟩ | ⟨e, -, heq⟩
  · rw [heq] at hclosed ⊢
    exact hw hclosed
  · rw [heq] at hclosed ⊢
    obtain ⟨xs, x, ys, hlog, hx, hys⟩ := hclosed
    rcases List.eq_nil_or_concat ys with rfl | ⟨ys', y, rfl⟩
    · -- The new event is the one that closes.
      obtain ⟨-, hlast⟩ := List.append_inj' hlog rfl
      cases hlast
      exact h.close o c w.state hx
    · rw [List.concat_eq_append, ← List.cons_append, ← List.append_assoc] at hlog
      obtain ⟨hbefore, hlast⟩ := List.append_inj' hlog rfl
      obtain rfl := List.singleton_inj.mp hlast
      have hopen := hys (i, ⟨o, (M.exec o c w.state).1⟩) (by simp)
      apply h.keep o c w.state hopen
      apply hw
      exact ⟨xs, x, ys', hbefore, hx, fun z hz => hys z (by simp [hz])⟩
  · rw [heq] at hclosed ⊢
    exact hw hclosed
  · rw [heq] at hclosed ⊢
    exact h.keep_env e w.state (hw hclosed)

theorem Latch.run (h : Latch M closes opens I) (s : σ) (ls : List (Label K C E))
    (hclosed : Closed closes opens (run M body (init s : Pool K Resp ε α σ) ls).log) :
    I (Pool.run M body (init s) ls).state := by
  refine run_inv_all (I := fun w => Closed closes opens w.log → I w.state)
    (fun w l hw => h.next l hw) ls ?_ hclosed
  rintro ⟨xs, x, ys, hlog, -⟩
  simp [init] at hlog

/-- A call that has closed and ended, and nothing has opened since: the condition
holds wherever the run has been after its end. -/
theorem Latch.holds_since (h : Latch M closes opens I) {s : σ} {ls₁ ls₂ pre post : List (Label K C E)}
    {i : Nat} {r : Except ε α} (hend : (Pool.run M body (init s) ls₁).result i = some r)
    (hclose : ∃ e ∈ (Pool.run M body (init s) ls₁).hist i, closes e = true)
    (hopen : ∀ x ∈ Pool.since closes i (Pool.run M body (init s) (ls₁ ++ ls₂)).log,
      opens x.2 = false) (hls : ls₂ = pre ++ post) :
    I (Pool.run M body (Pool.run M body (init s) ls₁) pre).state := by
  subst hls
  rw [← Pool.run_append]
  apply h.run
  obtain ⟨e, he, hcloses⟩ := hclose
  obtain ⟨xs, e', hcloses', hlog, hlast⟩ := since_split (mem_hist.1 he) hcloses
  obtain ⟨ext, hext⟩ : (Pool.run M body (init s) ls₁).log <+:
      (Pool.run M body (init s) (ls₁ ++ pre)).log := by
    rw [Pool.run_append]
    exact log_run _ pre
  obtain ⟨rest, hrest⟩ : (Pool.run M body (init s) (ls₁ ++ pre)).log <+:
      (Pool.run M body (init s) (ls₁ ++ (pre ++ post))).log := by
    rw [← List.append_assoc, Pool.run_append M body (init s) (ls₁ ++ pre) post]
    exact log_run _ post
  -- The call has ended, so its last event in `closes` is the last one of the whole run.
  have hnone : ∀ e, (i, e) ∉ ext ++ rest := by
    intro e he
    have hsame : (Pool.run M body (Pool.run M body (init s) ls₁) (pre ++ post)).hist i =
        (Pool.run M body (init s) ls₁).hist i := hist_run_of_result hend (pre ++ post)
    rw [← Pool.run_append, hist, hist, ← hrest, ← hext, List.append_assoc, List.filterMap_append,
      List.append_right_eq_self, List.filterMap_eq_nil_iff] at hsame
    simpa [ownEvent] using hsame (i, e) he
  rw [hlog, List.append_assoc, List.cons_append] at hext
  have hall : since closes i (Pool.run M body (init s) (ls₁ ++ (pre ++ post))).log =
      since closes i (Pool.run M body (init s) ls₁).log ++ ext ++ rest := by
    rw [← hrest, ← hext, List.append_assoc, List.cons_append]
    apply since_eq hcloses'
    intro e'' he''
    rw [List.append_assoc] at he''
    rcases List.mem_append.mp he'' with hin | hin
    · exact hlast e'' hin
    · exact absurd hin (hnone e'')
  refine ⟨xs, (i, e'), _, hext.symm, hcloses', ?_⟩
  intro y hy
  apply hopen y
  rw [hall]
  exact List.mem_append_left _ hy

end Pool

end Interleave
