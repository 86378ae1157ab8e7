import IamAuth.Interleave.Prog

/-!
# Programs run alone, one after another

`Ends` gives the rules for a program that nothing interrupts: how every run of it
from a state ends, if all its steps satisfy an assumption on the state and the
events before them, the choice and the event. `play` lets calls take turns, each run to its end before the next begins.
-/

set_option autoImplicit false

namespace Interleave

variable {Op : Type} {Resp : Op → Type} {ε α β σ C E K : Type}

/-- Every run of the program from `s`, after the events `h`, whose steps satisfy
`A` ends in `Q`. -/
def Prog.Ends (M : Machine Resp σ C E) (A : σ → List (Event Resp) → C → Event Resp → Prop)
    (Q : Except ε α → σ → List (Event Resp) → Prop) :
    Prog Resp ε α → σ → List (Event Resp) → Prop
  | .done r, s, h => Q r s h
  | .call o next, s, h => ∀ c, A s h c ⟨o, (M.exec o c s).1⟩ →
    (next (M.exec o c s).1).Ends M A Q (M.exec o c s).2 (h ++ [⟨o, (M.exec o c s).1⟩])

/-- The steps of the evaluation at these choices, from `s` and after the events `h`,
satisfy `A`. -/
def Prog.Meets (M : Machine Resp σ C E) (A : σ → List (Event Resp) → C → Event Resp → Prop) :
    Prog Resp ε α → (Nat → C) → σ → List (Event Resp) → Prop
  | .done _, _, _, _ => True
  | .call o next, cs, s, h => A s h (cs 0) ⟨o, (M.exec o (cs 0) s).1⟩ ∧
    (next (M.exec o (cs 0) s).1).Meets M A (fun n => cs (n + 1)) (M.exec o (cs 0) s).2
      (h ++ [⟨o, (M.exec o (cs 0) s).1⟩])

instance Prog.decidableMeets (M : Machine Resp σ C E)
    (A : σ → List (Event Resp) → C → Event Resp → Prop) [∀ s h c e, Decidable (A s h c e)] :
    (p : Prog Resp ε α) → ∀ cs s h, Decidable (p.Meets M A cs s h)
  | .done _, _, _, _ => .isTrue trivial
  | .call o next, cs, s, h =>
    @instDecidableAnd _ _ (inferInstanceAs (Decidable (A s h (cs 0) ⟨o, (M.exec o (cs 0) s).1⟩)))
      (decidableMeets M A (next (M.exec o (cs 0) s).1) (fun n => cs (n + 1))
        (M.exec o (cs 0) s).2 (h ++ [⟨o, (M.exec o (cs 0) s).1⟩]))

namespace Prog

variable (M : Machine Resp σ C E) (A : σ → List (Event Resp) → C → Event Resp → Prop)
variable (Q : Except ε β → σ → List (Event Resp) → Prop) (s : σ) (h : List (Event Resp))

/-- Postcondition for the first half of a sequence. -/
def EndsThen (f : α → Prog Resp ε β) : Except ε α → σ → List (Event Resp) → Prop
  | .ok a, s, h => (f a).Ends M A Q s h
  | .error e, s, h => Q (.error e) s h

@[simp] theorem endsThen_ok (f : α → Prog Resp ε β) (a : α) :
    EndsThen M A Q f (.ok a) s h = (f a).Ends M A Q s h := rfl

@[simp] theorem endsThen_error (f : α → Prog Resp ε β) (e : ε) :
    EndsThen M A Q f (.error e) s h = Q (.error e) s h := rfl

@[simp] theorem ends_pure (a : β) :
    (pure a : Prog Resp ε β).Ends M A Q s h ↔ Q (.ok a) s h := Iff.rfl

@[simp] theorem ends_fail (e : ε) :
    (fail e : Prog Resp ε β).Ends M A Q s h ↔ Q (.error e) s h := Iff.rfl

@[simp] theorem ends_bind (p : Prog Resp ε α) (f : α → Prog Resp ε β) :
    (p >>= f).Ends M A Q s h ↔ p.Ends M A (EndsThen M A Q f) s h := by
  change (p.bind f).Ends M A Q s h ↔ _
  induction p generalizing s h with
  | done r => cases r <;> exact Iff.rfl
  | call o next ih => simp only [bind, Ends, ih]

@[simp] theorem ends_perform (o : Op) (Q : Except ε (Resp o) → σ → List (Event Resp) → Prop) :
    (perform o : Prog Resp ε (Resp o)).Ends M A Q s h ↔
      ∀ c, A s h c ⟨o, (M.exec o c s).1⟩ →
        Q (.ok (M.exec o c s).1) (M.exec o c s).2 (h ++ [⟨o, (M.exec o c s).1⟩]) := Iff.rfl

@[simp] theorem ends_failIf (c : Bool) (e : ε) (Q : Except ε Unit → σ → List (Event Resp) → Prop) :
    (failIf c e : Prog Resp ε Unit).Ends M A Q s h ↔
      (c = true → Q (.error e) s h) ∧ (c = false → Q (.ok ()) s h) := by
  cases c <;> simp [failIf]

@[simp] theorem ends_okOr (x : Option β) (e : ε) :
    (okOr x e : Prog Resp ε β).Ends M A Q s h ↔
      (x = none → Q (.error e) s h) ∧ ∀ a, x = some a → Q (.ok a) s h := by
  cases x <;> simp [okOr]

variable {M A Q s h}

theorem Ends.bind {p : Prog Resp ε α} {f : α → Prog Resp ε β}
    (hp : p.Ends M A (EndsThen M A Q f) s h) : (p >>= f).Ends M A Q s h :=
  (ends_bind M A Q s h p f).mpr hp

theorem ends_of_failIf {c : Bool} {e : ε} {Q : Except ε Unit → σ → List (Event Resp) → Prop}
    (htrue : c = true → Q (.error e) s h) (hfalse : c = false → Q (.ok ()) s h) :
    (failIf c e : Prog Resp ε Unit).Ends M A Q s h :=
  (ends_failIf M A s h c e Q).mpr ⟨htrue, hfalse⟩

theorem ends_of_okOr {x : Option β} {e : ε} (hnone : x = none → Q (.error e) s h)
    (hsome : ∀ a, x = some a → Q (.ok a) s h) : (okOr x e : Prog Resp ε β).Ends M A Q s h :=
  (ends_okOr M A Q s h x e).mpr ⟨hnone, hsome⟩

theorem ends_of_forall {p : Prog Resp ε β} (hQ : ∀ r s h, Q r s h) : p.Ends M A Q s h := by
  induction p generalizing s h with
  | done r => exact hQ r s h
  | call o next ih => exact fun c _ => ih _

theorem Ends.mono {Q' : Except ε β → σ → List (Event Resp) → Prop}
    (hQ : ∀ r s h, Q r s h → Q' r s h) {p : Prog Resp ε β} (hp : p.Ends M A Q s h) :
    p.Ends M A Q' s h := by
  induction p generalizing s h with
  | done r => exact hQ r s h hp
  | call o next ih => exact fun c hc => ih _ (hp c hc)

/-- A program of statements in `P` that keep a condition on the state and the events. -/
theorem Emits.ends {P : Op → Prop} {p : Prog Resp ε β} (hp : p.Emits P)
    {I : σ → List (Event Resp) → Prop}
    (hstep : ∀ o c s h, P o → A s h c ⟨o, (M.exec o c s).1⟩ → I s h →
      I (M.exec o c s).2 (h ++ [⟨o, (M.exec o c s).1⟩]))
    (hQ : ∀ r s h, I s h → Q r s h) (hI : I s h) : p.Ends M A Q s h := by
  induction p generalizing s h with
  | done r => exact hQ r s h hI
  | call o next ih =>
    intro c hc
    have ho := hp (M.exec o c s).1
    exact ih _ ho.2 (hstep o c s h ho.1 hc hI)

/-- What `Ends` says about an evaluation. -/
theorem Ends.eval_meets {p : Prog Resp ε β} (hp : p.Ends M A Q s h) {cs : Nat → C}
    (hA : p.Meets M A cs s h) :
    Q (p.eval M cs s).1 (p.eval M cs s).2.1 (h ++ (p.eval M cs s).2.2) := by
  induction p generalizing s h cs with
  | done r =>
    simp only [Prog.eval_done, List.append_nil]
    exact hp
  | call o next ih =>
    have hrest := ih _ (hp (cs 0) hA.1) hA.2
    simpa only [Prog.eval_call, List.append_assoc, List.singleton_append] using hrest

/-- An assumption that the events of an evaluation meet, whatever the states. -/
theorem meets_of_events {p : Prog Resp ε β} (cs : Nat → C)
    (hA : ∀ n e s', (p.eval M cs s).2.2[n]? = some e →
      A s' (h ++ (p.eval M cs s).2.2.take n) (cs n) e) : p.Meets M A cs s h := by
  induction p generalizing s h cs with
  | done r => trivial
  | call o next ih =>
    simp only [Prog.eval_call] at hA
    have hfirst := hA 0 _ s rfl
    rw [List.take_zero, List.append_nil] at hfirst
    refine ⟨hfirst, ih _ (fun n => cs (n + 1)) fun n e s' he => ?_⟩
    simpa using hA (n + 1) e s' he

theorem Meets.and {B : σ → List (Event Resp) → C → Event Resp → Prop} {X : Prop}
    {p : Prog Resp ε β} {cs : Nat → C} (hA : p.Meets M A cs s h) (hB : X → p.Meets M B cs s h) :
    p.Meets M (fun s h c e => A s h c e ∧ (X → B s h c e)) cs s h := by
  induction p generalizing s h cs with
  | done r => trivial
  | call o next ih => exact ⟨⟨hA.1, fun hx => (hB hx).1⟩, ih _ hA.2 fun hx => (hB hx).2⟩

/-- The `n`-th event has `n` events before it. -/
theorem at_choice (cs : Nat → C) {es : List (Event Resp)} {n : Nat} {e : Event Resp}
    (he : es[n]? = some e) : cs n = cs ([] ++ es.take n).length := by
  obtain ⟨hn, -⟩ := List.getElem?_eq_some_iff.mp he
  rw [List.nil_append, List.length_take, Nat.min_eq_left (Nat.le_of_lt hn)]

/-- The steps of an evaluation meet its choices. -/
theorem meets_choices (p : Prog Resp ε β) (cs : Nat → C) :
    p.Meets M (fun _ h c _ => c = cs h.length) cs s [] :=
  meets_of_events cs fun _ _ _ he => at_choice cs he

/-- The same for an evaluation from no events, on the choices it meets. -/
theorem Ends.eval_choices {p : Prog Resp ε β} {cs : Nat → C} {R : Event Resp → Prop}
    (hp : p.Ends M (fun _ h c e => c = cs h.length ∧ R e) Q s [])
    (hR : ∀ e ∈ (p.eval M cs s).2.2, R e) :
    Q (p.eval M cs s).1 (p.eval M cs s).2.1 (p.eval M cs s).2.2 := by
  have heval := hp.eval_meets (meets_of_events cs fun n e _ he =>
    ⟨at_choice cs he, hR e (List.mem_of_getElem? he)⟩)
  rwa [List.nil_append] at heval

end Prog

/-! ## Turns -/

/-- A call and the choices that its statements meet. -/
structure Turn (K C : Type) where
  call : K
  choices : Nat → C

section Play

variable (M : Machine Resp σ C E) (body : K → Prog Resp ε α)

/-- The result, the state and the events of a call that runs alone. -/
def Turn.eval (t : Turn K C) (s : σ) : Except ε α × σ × List (Event Resp) :=
  (body t.call).eval M t.choices s

/-- Where the calls lead, one after another. -/
def play : σ → List (Turn K C) → σ
  | s, [] => s
  | s, t :: ts => play (t.eval M body s).2.1 ts

/-- What the calls return. -/
def answers : σ → List (Turn K C) → List (Except ε α)
  | _, [] => []
  | s, t :: ts => (t.eval M body s).1 :: answers (t.eval M body s).2.1 ts

/-- `P` holds of every turn, in the state it meets. -/
def EachTurn (P : σ → Turn K C → Prop) : σ → List (Turn K C) → Prop
  | _, [] => True
  | s, t :: ts => P s t ∧ EachTurn P (t.eval M body s).2.1 ts

/-- The number of turns that satisfy `q`, in the state each meets. -/
def countTurns (q : σ → Turn K C → Bool) : σ → List (Turn K C) → Nat
  | _, [] => 0
  | s, t :: ts => (if q s t then 1 else 0) + countTurns q (t.eval M body s).2.1 ts

variable {M body} {P Q : σ → Turn K C → Prop} {s : σ}

@[simp] theorem play_append (s : σ) (ts ts' : List (Turn K C)) :
    play M body s (ts ++ ts') = play M body (play M body s ts) ts' := by
  induction ts generalizing s with
  | nil => rfl
  | cons t ts ih => exact ih _

theorem eachTurn_append {ts ts' : List (Turn K C)} : EachTurn M body P s (ts ++ ts') ↔
    EachTurn M body P s ts ∧ EachTurn M body P (play M body s ts) ts' := by
  induction ts generalizing s with
  | nil => simp [EachTurn, play]
  | cons t ts ih => simp only [List.cons_append, EachTurn, play, ih, and_assoc]

theorem EachTurn.imp (himp : ∀ s t, P s t → Q s t) {ts : List (Turn K C)}
    (h : EachTurn M body P s ts) : EachTurn M body Q s ts := by
  induction ts generalizing s with
  | nil => trivial
  | cons t ts ih => exact ⟨himp s t h.1, ih h.2⟩

theorem EachTurn.and {ts : List (Turn K C)} (hP : EachTurn M body P s ts)
    (hQ : EachTurn M body Q s ts) : EachTurn M body (fun s t => P s t ∧ Q s t) s ts := by
  induction ts generalizing s with
  | nil => trivial
  | cons t ts ih => exact ⟨⟨hP.1, hQ.1⟩, ih hP.2 hQ.2⟩

/-- What every turn keeps, the run keeps. -/
theorem play_inv {I : σ → Prop} (hturn : ∀ s t, P s t → I s → I (t.eval M body s).2.1)
    {ts : List (Turn K C)} (hP : EachTurn M body P s ts) (hs : I s) : I (play M body s ts) := by
  induction ts generalizing s with
  | nil => exact hs
  | cons t ts ih => exact ih hP.2 (hturn s t hP.1 hs)

theorem countTurns_append (q : σ → Turn K C → Bool) (s : σ) (ts ts' : List (Turn K C)) :
    countTurns M body q s (ts ++ ts') =
      countTurns M body q s ts + countTurns M body q (play M body s ts) ts' := by
  induction ts generalizing s with
  | nil => simp [countTurns, play]
  | cons t ts ih => simp only [List.cons_append, countTurns, play, ih, Nat.add_assoc]

/-- A turn of a run, in the state that the turns before it lead to. -/
theorem EachTurn.at {pre post : List (Turn K C)} {t : Turn K C}
    (h : EachTurn M body P s (pre ++ t :: post)) : P (play M body s pre) t :=
  (eachTurn_append.1 h).2.1

theorem eachTurn_of_at {ts : List (Turn K C)}
    (h : ∀ pre t post, ts = pre ++ t :: post → P (play M body s pre) t) : EachTurn M body P s ts := by
  induction ts generalizing s with
  | nil => trivial
  | cons t ts ih =>
    refine ⟨h [] t ts rfl, ih fun pre t' post hsplit => ?_⟩
    exact h (t :: pre) t' post (congrArg (t :: ·) hsplit)

end Play

end Interleave
