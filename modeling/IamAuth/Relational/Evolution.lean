import IamAuth.Relational.Table

/-!
# What becomes of the rows of a table

`le x y` says that `y` is the row `x` at a later time. Under insertions, under updates
along `le` and under deletions of other rows, every selected row has a later one.
-/

set_option autoImplicit false

namespace Relational

variable {α : Type}

/-- Every row of `xs` that `sel` selects is, maybe changed along `le`, in `ys`. -/
def Evolves (sel : α → Prop) (le : α → α → Prop) (xs ys : List α) : Prop :=
  ∀ x ∈ xs, sel x → ∃ y ∈ ys, le x y

section Evolves

variable {sel : α → Prop} {le : α → α → Prop} {xs ys zs : List α}

theorem Evolves.refl (hle : ∀ x, le x x) (xs : List α) : Evolves sel le xs xs :=
  fun x hx _ => ⟨x, hx, hle x⟩

theorem Evolves.trans (hle : ∀ x y z, le x y → le y z → le x z)
    (hsel : ∀ x y, le x y → sel x → sel y) (h : Evolves sel le xs ys) (h' : Evolves sel le ys zs) :
    Evolves sel le xs zs := by
  intro x hx hs
  obtain ⟨y, hy, hxy⟩ := h x hx hs
  obtain ⟨z, hz, hyz⟩ := h' y hy (hsel x y hxy hs)
  exact ⟨z, hz, hle x y z hxy hyz⟩

theorem Evolves.insert (hle : ∀ x, le x x) (xs ys : List α) : Evolves sel le xs (xs ++ ys) :=
  fun x hx _ => ⟨x, List.mem_append_left _ hx, hle x⟩

theorem Evolves.updateWhere (hle : ∀ x, le x x) {p : α → Bool} {f : α → α}
    (hf : ∀ x, p x = true → le x (f x)) (xs : List α) :
    Evolves sel le xs (updateWhere p f xs) := by
  intro x hx _
  refine ⟨_, mem_updateWhere.2 ⟨x, hx, rfl⟩, ?_⟩
  split
  · next hp => exact hf x hp
  · exact hle x

theorem Evolves.deleteWhere (hle : ∀ x, le x x) {p : α → Bool}
    (hp : ∀ x, sel x → p x = false) (xs : List α) : Evolves sel le xs (deleteWhere p xs) :=
  fun x hx hs => ⟨x, mem_deleteWhere.2 ⟨hx, hp x hs⟩, hle x⟩

end Evolves

end Relational
