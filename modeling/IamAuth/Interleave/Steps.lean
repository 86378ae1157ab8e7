import Mathlib.Data.List.Basic

/-!
# Runs of a step function

A system given by one function from a state and a label to the next state, the runs
of it, and conditions on every label of a run.
-/

set_option autoImplicit false

namespace Interleave.Steps

variable {S L : Type} (next : S → L → S)

def run (s : S) (ls : List L) : S := ls.foldl next s

/-- `P` holds of every label of a run, in the state the label meets. -/
def Each (P : S → L → Prop) : S → List L → Prop
  | _, [] => True
  | s, l :: ls => P s l ∧ Each P (next s l) ls

instance decidableEach (P : S → L → Prop) [∀ s l, Decidable (P s l)] :
    (s : S) → (ls : List L) → Decidable (Each next P s ls)
  | _, [] => isTrue trivial
  | s, l :: ls =>
    have := decidableEach P (next s l) ls
    inferInstanceAs (Decidable (P s l ∧ Each next P (next s l) ls))

@[simp] theorem run_nil (s : S) : run next s [] = s := rfl

@[simp] theorem run_cons (s : S) (l : L) (ls : List L) :
    run next s (l :: ls) = run next (next s l) ls := rfl

theorem run_append (s : S) (ls ls' : List L) :
    run next s (ls ++ ls') = run next (run next s ls) ls' := List.foldl_append

theorem each_append (P : S → L → Prop) (s : S) (ls ls' : List L) :
    Each next P s (ls ++ ls') ↔ Each next P s ls ∧ Each next P (run next s ls) ls' := by
  induction ls generalizing s with
  | nil => simp [Each]
  | cons l ls ih => simp [Each, ih, and_assoc]

variable {next}

/-- A property that every label of a run keeps holds at its end. -/
theorem Each.run_inv {P : S → L → Prop} {I : S → Prop}
    (hstep : ∀ s l, P s l → I s → I (next s l)) {s : S} {ls : List L} (hP : Each next P s ls)
    (hs : I s) : I (run next s ls) := by
  induction ls generalizing s with
  | nil => exact hs
  | cons l ls ih => exact ih hP.2 (hstep s l hP.1 hs)

theorem run_inv {I : S → Prop} (hstep : ∀ s l, I s → I (next s l)) {s : S} (ls : List L)
    (hs : I s) : I (run next s ls) := by
  induction ls generalizing s with
  | nil => exact hs
  | cons l ls ih => exact ih (hstep s l hs)

/-- What holds of a label in every state that an invariant allows, on labels that meet `Q`. -/
theorem Each.imp_inv {P Q : S → L → Prop} {I : S → Prop}
    (hstep : ∀ s l, Q s l → I s → P s l ∧ I (next s l)) {s : S} {ls : List L}
    (hQ : Each next Q s ls) (hs : I s) : Each next P s ls := by
  induction ls generalizing s with
  | nil => trivial
  | cons l ls ih =>
    obtain ⟨hP, hI⟩ := hstep s l hQ.1 hs
    exact ⟨hP, ih hQ.2 hI⟩

theorem each_of_inv {P : S → L → Prop} {I : S → Prop} (hstep : ∀ s l, I s → I (next s l))
    (hP : ∀ s l, I s → P s l) {s : S} (ls : List L) (hs : I s) : Each next P s ls := by
  induction ls generalizing s with
  | nil => trivial
  | cons l ls ih => exact ⟨hP s l hs, ih (hstep s l hs)⟩

end Interleave.Steps
