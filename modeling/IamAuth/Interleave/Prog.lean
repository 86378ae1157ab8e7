import Mathlib.Data.List.Basic

/-!
# Programs made of atomic statements

A `Prog` issues statements one at a time and chooses what to do next from each
reply. It ends in a value or in an error, and an error ends the whole program.
What a statement does to the shared state is not part of the program: a
`Machine` gives it, so one program can be evaluated alone (`Prog.eval`) or
interleaved with others statement by statement (`Pool`).
-/

set_option autoImplicit false

namespace Interleave

variable {Op : Type} {Resp : Op → Type} {ε α β γ σ C E : Type}

inductive Prog (Resp : Op → Type) (ε α : Type) : Type where
  | done (r : Except ε α)
  | call (o : Op) (next : Resp o → Prog Resp ε α)

/-- A statement together with the reply it got. -/
abbrev Event (Resp : Op → Type) := (o : Op) × Resp o

namespace Prog

def bind : Prog Resp ε α → (α → Prog Resp ε β) → Prog Resp ε β
  | .done (.ok a), f => f a
  | .done (.error e), _ => .done (.error e)
  | .call o next, f => .call o fun r => (next r).bind f

instance : Monad (Prog Resp ε) where
  pure a := .done (.ok a)
  bind := bind

def fail (e : ε) : Prog Resp ε α := .done (.error e)

def perform (o : Op) : Prog Resp ε (Resp o) := .call o fun r => .done (.ok r)

def failIf (c : Bool) (e : ε) : Prog Resp ε Unit :=
  if c then fail e else pure ()

def okOr (x : Option α) (e : ε) : Prog Resp ε α :=
  match x with
  | some a => pure a
  | none => fail e

def forEach (f : α → Prog Resp ε Unit) : List α → Prog Resp ε Unit
  | [] => pure ()
  | a :: as => do f a; forEach f as

end Prog

/-- What each statement does to the shared state, given one choice `c` of the
environment (its clock, its random draws, whether the statement fails), and
what the environment may do to the state on its own. -/
structure Machine (Resp : Op → Type) (σ C E : Type) where
  exec : (o : Op) → C → σ → Resp o × σ
  env : E → σ → σ

/-! ## Running one program alone -/

/-- The result, the final state and the events of a run in which the `n`-th
statement meets the `n`-th choice. -/
def Prog.eval (M : Machine Resp σ C E) :
    Prog Resp ε α → (Nat → C) → σ → Except ε α × σ × List (Event Resp)
  | .done r, _, s => (r, s, [])
  | .call o next, cs, s =>
    let out := M.exec o (cs 0) s
    let rest := (next out.1).eval M (fun n => cs (n + 1)) out.2
    (rest.1, rest.2.1, ⟨o, out.1⟩ :: rest.2.2)

@[simp] theorem Prog.eval_done (M : Machine Resp σ C E) (r : Except ε α) (cs : Nat → C) (s : σ) :
    (Prog.done r : Prog Resp ε α).eval M cs s = (r, s, []) := rfl

theorem Prog.eval_call (M : Machine Resp σ C E) (o : Op) (next : Resp o → Prog Resp ε α)
    (cs : Nat → C) (s : σ) :
    (Prog.call o next).eval M cs s =
      let out := M.exec o (cs 0) s
      let rest := (next out.1).eval M (fun n => cs (n + 1)) out.2
      (rest.1, rest.2.1, ⟨o, out.1⟩ :: rest.2.2) := rfl

/-! ## Monitors

A monitor folds the events of a program into a ghost value and says which event
may come next. `Along` asks that of every path of a program, together with a
postcondition on the ghost value and the result. -/

structure Monitor (Resp : Op → Type) (γ : Type) where
  upd : γ → Event Resp → γ
  ok : γ → Event Resp → Prop

def Prog.Along (m : Monitor Resp γ) :
    Prog Resp ε α → (γ → Except ε α → Prop) → γ → Prop
  | .done r, post, g => post g r
  | .call o next, post, g => ∀ r, m.ok g ⟨o, r⟩ ∧ (next r).Along m post (m.upd g ⟨o, r⟩)

namespace Prog

variable (m : Monitor Resp γ) (post : γ → Except ε β → Prop) (g : γ)

/-- Postcondition for the first half of a sequence: a value goes on into `f`, an
error is already the result. -/
def Then (f : α → Prog Resp ε β) : γ → Except ε α → Prop
  | g, .ok a => (f a).Along m post g
  | g, .error e => post g (.error e)

@[simp] theorem then_ok (f : α → Prog Resp ε β) (a : α) :
    Then m post f g (.ok a) = (f a).Along m post g := rfl

@[simp] theorem then_error (f : α → Prog Resp ε β) (e : ε) :
    Then m post f g (.error e) = post g (.error e) := rfl

@[simp] theorem along_pure (a : β) :
    (pure a : Prog Resp ε β).Along m post g ↔ post g (.ok a) := Iff.rfl

@[simp] theorem along_fail (e : ε) :
    (fail e : Prog Resp ε β).Along m post g ↔ post g (.error e) := Iff.rfl

@[simp] theorem along_bind (p : Prog Resp ε α) (f : α → Prog Resp ε β) :
    (p >>= f).Along m post g ↔ p.Along m (Then m post f) g := by
  change (p.bind f).Along m post g ↔ _
  induction p generalizing g with
  | done r => cases r <;> exact Iff.rfl
  | call o next ih => simp only [bind, Along, ih]

@[simp] theorem along_perform (o : Op) (post : γ → Except ε (Resp o) → Prop) :
    (perform o : Prog Resp ε (Resp o)).Along m post g ↔
      ∀ r, m.ok g ⟨o, r⟩ ∧ post (m.upd g ⟨o, r⟩) (.ok r) := Iff.rfl

@[simp] theorem along_ite (c : Prop) [Decidable c] (p q : Prog Resp ε β) :
    (if c then p else q).Along m post g ↔
      (c → p.Along m post g) ∧ (¬c → q.Along m post g) := by
  split <;> simp_all

@[simp] theorem along_failIf (c : Bool) (e : ε) (post : γ → Except ε Unit → Prop) :
    (failIf c e : Prog Resp ε Unit).Along m post g ↔
      (c = true → post g (.error e)) ∧ (c = false → post g (.ok ())) := by
  cases c <;> simp [failIf]

@[simp] theorem along_okOr (x : Option β) (e : ε) :
    (okOr x e : Prog Resp ε β).Along m post g ↔
      (x = none → post g (.error e)) ∧ ∀ a, x = some a → post g (.ok a) := by
  cases x <;> simp [okOr]

variable {m post g}

theorem Along.mono {post' : γ → Except ε β → Prop} (hpost : ∀ g r, post g r → post' g r) :
    ∀ {p : Prog Resp ε β} {g : γ}, p.Along m post g → p.Along m post' g := by
  intro p
  induction p with
  | done r => exact fun h => hpost _ r h
  | call o next ih => exact fun h r => ⟨(h r).1, ih r (h r).2⟩

/-- A monitor that allows everything asks nothing of a program. -/
theorem along_trivial (hok : ∀ g e, m.ok g e) (hpost : ∀ g r, post g r) :
    ∀ (p : Prog Resp ε β) (g : γ), p.Along m post g := by
  intro p
  induction p with
  | done r => exact fun g => hpost g r
  | call o next ih => exact fun g r => ⟨hok g _, ih r _⟩

end Prog

/-- The monitor that only asks for statements in `P`. -/
def Monitor.emitting (P : Op → Prop) : Monitor Resp Unit := ⟨fun _ _ => (), fun _ e => P e.1⟩

@[simp] theorem Monitor.emitting_ok (P : Op → Prop) (g : Unit) (e : Event Resp) :
    (Monitor.emitting P).ok g e = P e.1 := rfl

/-- Every statement on every path of the program satisfies `P`. -/
def Prog.Emits (P : Op → Prop) (p : Prog Resp ε α) : Prop :=
  p.Along (Monitor.emitting P) (fun _ _ => True) ()

theorem Prog.Emits.along {P : Op → Prop} {p : Prog Resp ε α} (h : p.Emits P)
    {post : Unit → Except ε α → Prop} (hpost : ∀ r, post () r) :
    p.Along (Monitor.emitting P) post () :=
  Along.mono (fun _ r _ => hpost r) h

/-- A program of statements that a monitor allows at any time is on its paths. -/
theorem Prog.Emits.along_of {P : Op → Prop} {p : Prog Resp ε α} (h : p.Emits P)
    {m : Monitor Resp γ} (hok : ∀ g e, P e.1 → m.ok g e) (g : γ) :
    p.Along m (fun _ _ => True) g := by
  induction p generalizing g with
  | done r => trivial
  | call o next ih => exact fun r => ⟨hok _ _ (h r).1, ih r (h r).2 _⟩

/-- Statements in `P` that keep a condition on the ghost value. -/
theorem Prog.Emits.along_inv {P : Op → Prop} {p : Prog Resp ε α} (h : p.Emits P)
    {m : Monitor Resp γ} {Q : γ → Prop} (hstep : ∀ g e, P e.1 → Q g → m.ok g e ∧ Q (m.upd g e))
    {post : γ → Except ε α → Prop} (hpost : ∀ g r, Q g → post g r) {g : γ} (hg : Q g) :
    p.Along m post g := by
  induction p generalizing g with
  | done r => exact hpost g r hg
  | call o next ih =>
    intro r
    obtain ⟨hok, hupd⟩ := hstep g ⟨o, r⟩ (h r).1 hg
    exact ⟨hok, ih r (h r).2 hupd⟩

theorem Prog.Emits.bind {P : Op → Prop} {p : Prog Resp ε α} {f : α → Prog Resp ε β}
    (hp : p.Emits P) (hf : ∀ a, (f a).Emits P) : (p >>= f).Emits P := by
  refine (along_bind _ _ _ p f).mpr (hp.along ?_)
  rintro (e | a)
  · trivial
  · exact hf a

theorem Prog.Emits.imp {P Q : Op → Prop} (hPQ : ∀ o, P o → Q o) {p : Prog Resp ε α}
    (h : p.Emits P) : p.Emits Q := by
  induction p with
  | done r => trivial
  | call o next ih => exact fun r => ⟨hPQ o (h r).1, ih r (h r).2⟩

theorem Prog.emits_forEach {P : Op → Prop} {f : α → Prog Resp ε Unit} (h : ∀ a, (f a).Emits P)
    (as : List α) : (Prog.forEach f as).Emits P := by
  induction as with
  | nil => trivial
  | cons a as ih => exact .bind (h a) fun _ => ih

/-- The ghost value is the list of events so far. -/
def Monitor.history (ok : List (Event Resp) → Event Resp → Prop) :
    Monitor Resp (List (Event Resp)) where
  upd := fun h e => h ++ [e]
  ok := ok

@[simp] theorem Monitor.history_upd (ok : List (Event Resp) → Event Resp → Prop)
    (h : List (Event Resp)) (e : Event Resp) : (Monitor.history ok).upd h e = h ++ [e] := rfl

@[simp] theorem Monitor.history_ok (ok : List (Event Resp) → Event Resp → Prop)
    (h : List (Event Resp)) (e : Event Resp) : (Monitor.history ok).ok h e = ok h e := rfl

theorem Prog.Along.history_imp {ok ok' : List (Event Resp) → Event Resp → Prop}
    (hok : ∀ h e, ok h e → ok' h e) {post : List (Event Resp) → Except ε α → Prop} :
    ∀ {p : Prog Resp ε α} {h : List (Event Resp)}, p.Along (Monitor.history ok) post h →
      p.Along (Monitor.history ok') post h := by
  intro p
  induction p with
  | done r => exact fun hp => hp
  | call o next ih => exact fun hp r => ⟨hok _ _ (hp r).1, ih r (hp r).2⟩

/-- A fact about the events so far that later events cannot undo. -/
theorem Prog.along_persists {ok : List (Event Resp) → Event Resp → Prop}
    {Q : List (Event Resp) → Prop} (hok : ∀ h e, Q h → ok h e) (hQ : ∀ h e, Q h → Q (h ++ [e]))
    {post : List (Event Resp) → Except ε α → Prop} (hpost : ∀ h r, Q h → post h r) :
    ∀ (p : Prog Resp ε α) {h : List (Event Resp)}, Q h → p.Along (Monitor.history ok) post h := by
  intro p
  induction p with
  | done r => exact fun hh => hpost _ r hh
  | call o next ih => exact fun hh r => ⟨hok _ _ hh, ih r (hQ _ _ hh)⟩

/-- The same for a program of statements in `P`. -/
theorem Prog.Emits.along_persists {P : Op → Prop}
    {ok : List (Event Resp) → Event Resp → Prop} {Q : List (Event Resp) → Prop}
    (hok : ∀ h e, P e.1 → Q h → ok h e) (hQ : ∀ h e, Q h → Q (h ++ [e]))
    {post : List (Event Resp) → Except ε α → Prop} (hpost : ∀ h r, Q h → post h r) :
    ∀ {p : Prog Resp ε α} {h : List (Event Resp)}, p.Emits P → Q h →
      p.Along (Monitor.history ok) post h := by
  intro p
  induction p with
  | done r => exact fun _ hh => hpost _ r hh
  | call o next ih => exact fun hp hh r => ⟨hok _ _ (hp r).1 hh, ih r (hp r).2 (hQ _ _ hh)⟩

/-- A stretch of statements in `P`: what comes next starts from a longer history. -/
theorem Prog.Emits.along_stretch {P : Op → Prop} {ok : List (Event Resp) → Event Resp → Prop}
    (hok : ∀ h e, P e.1 → ok h e) {p : Prog Resp ε α} (hp : p.Emits P)
    {post : List (Event Resp) → Except ε α → Prop} {h : List (Event Resp)}
    (hpost : ∀ h' r, post (h ++ h') r) : p.Along (Monitor.history ok) post h := by
  induction p generalizing h with
  | done r =>
    have := hpost [] r
    rwa [List.append_nil] at this
  | call o next ih =>
    intro r
    refine ⟨hok h _ (hp r).1, ih r (hp r).2 ?_⟩
    intro h' r'
    simpa using hpost (⟨o, r⟩ :: h') r'

theorem Prog.Emits.then_stretch {P : Op → Prop} {ok : List (Event Resp) → Event Resp → Prop}
    (hok : ∀ h e, P e.1 → ok h e) {p : Prog Resp ε α} (hp : p.Emits P) {f : α → Prog Resp ε β}
    {post : List (Event Resp) → Except ε β → Prop} {h : List (Event Resp)}
    (herr : ∀ h' e, post (h ++ h') (.error e))
    (hf : ∀ a h', (f a).Along (Monitor.history ok) post (h ++ h')) :
    p.Along (Monitor.history ok) (Prog.Then (Monitor.history ok) post f) h := by
  apply along_stretch hok hp
  rintro h' (e | a)
  · exact herr h' e
  · exact hf a h'

theorem Prog.Emits.bind_stretch {P : Op → Prop} {ok : List (Event Resp) → Event Resp → Prop}
    (hok : ∀ h e, P e.1 → ok h e) {p : Prog Resp ε α} (hp : p.Emits P) {f : α → Prog Resp ε β}
    {post : List (Event Resp) → Except ε β → Prop} {h : List (Event Resp)}
    (herr : ∀ h' e, post (h ++ h') (.error e))
    (hf : ∀ a h', (f a).Along (Monitor.history ok) post (h ++ h')) :
    (p >>= f).Along (Monitor.history ok) post h :=
  (Prog.along_bind _ _ _ p f).mpr (then_stretch hok hp herr hf)

/-! ## What a monitor says about a run -/

section Eval

variable {M : Machine Resp σ C E}

/-- A state invariant kept by every statement a program may issue is kept by
the whole program. -/
theorem Prog.Emits.eval_inv {P : Op → Prop} {I : σ → Prop}
    (hstep : ∀ o c s, P o → I s → I (M.exec o c s).2)
    {p : Prog Resp ε α} (h : p.Emits P) (cs : Nat → C) {s : σ} (hs : I s) :
    I (p.eval M cs s).2.1 := by
  induction p generalizing cs s with
  | done r => exact hs
  | call o next ih =>
    have hr := h (M.exec o (cs 0) s).1
    exact ih _ hr.2 _ (hstep o _ s hr.1 hs)

end Eval

end Interleave
