import Mathlib.Data.List.Sort
import Mathlib.Data.List.Dedup

/-!
# Tables as lists of rows

`UPDATE ... SET ... WHERE p` and `DELETE ... WHERE p` on a list of rows, the
clauses that pick and order rows, and what a query that looks only at some of
the rows sees of them.
-/

set_option autoImplicit false

namespace Relational

variable {α β κ : Type}

/-- `UPDATE SET f WHERE p`. -/
def updateWhere (p : α → Bool) (f : α → α) (xs : List α) : List α :=
  xs.map fun x => if p x then f x else x

/-- `DELETE WHERE p`. -/
def deleteWhere (p : α → Bool) (xs : List α) : List α :=
  xs.filter fun x => !p x

/-- `ORDER BY key`, ties in insertion order. -/
def orderBy (key : α → String) (xs : List α) : List α :=
  xs.insertionSort fun a b => key a ≤ key b

/-- `SELECT DISTINCT x ... ORDER BY x`. -/
def distinctSorted (xs : List String) : List String :=
  orderBy id xs.dedup

@[simp] theorem mem_distinctSorted {xs : List String} {x : String} :
    x ∈ distinctSorted xs ↔ x ∈ xs := by
  simp [distinctSorted, orderBy, List.mem_insertionSort]

@[simp] theorem length_updateWhere (p : α → Bool) (f : α → α) (xs : List α) :
    (updateWhere p f xs).length = xs.length := by
  simp [updateWhere]

theorem mem_updateWhere {p : α → Bool} {f : α → α} {xs : List α} {y : α} :
    y ∈ updateWhere p f xs ↔ ∃ x ∈ xs, (if p x then f x else x) = y := by
  simp [updateWhere]

theorem mem_deleteWhere {p : α → Bool} {xs : List α} {x : α} :
    x ∈ deleteWhere p xs ↔ x ∈ xs ∧ p x = false := by
  simp [deleteWhere]

/-- An update that keeps a column leaves the list of its values alone. -/
theorem map_updateWhere {p : α → Bool} {f : α → α} (key : α → κ)
    (hf : ∀ x, p x = true → key (f x) = key x) (xs : List α) :
    (updateWhere p f xs).map key = xs.map key := by
  rw [updateWhere, List.map_map]
  apply List.map_congr_left
  intro x _
  by_cases hx : p x = true
  · simp [hx, hf x hx]
  · simp [hx]

/-- The second of two updates of rows that the first one keeps selected. -/
theorem updateWhere_updateWhere {p : α → Bool} {f g : α → α}
    (hp : ∀ x, p x = true → p (f x) = true) (xs : List α) :
    updateWhere p g (updateWhere p f xs) = updateWhere p (fun x => g (f x)) xs := by
  rw [updateWhere, updateWhere, List.map_map, updateWhere]
  apply List.map_congr_left
  intro x _
  by_cases hx : p x = true
  · simp [hx, hp x hx]
  · simp [hx]

/-! ## What a view of some of the rows sees -/

theorem filter_updateWhere_of_mem {p q : α → Bool} {f : α → α} {xs : List α}
    (hq : ∀ x ∈ xs, p x = true → q x = false ∧ q (f x) = false) :
    (updateWhere p f xs).filter q = xs.filter q := by
  induction xs with
  | nil => rfl
  | cons x xs ih =>
    have hcons : updateWhere p f (x :: xs) = (if p x then f x else x) :: updateWhere p f xs := rfl
    have hrest := ih fun y hy => hq y (List.mem_cons_of_mem x hy)
    rw [hcons]
    by_cases hx : p x = true
    · obtain ⟨h, h'⟩ := hq x List.mem_cons_self hx
      simp [hx, h, h', hrest]
    · simp [hx, List.filter_cons, hrest]

theorem filter_updateWhere {p q : α → Bool} {f : α → α}
    (hq : ∀ x, p x = true → q x = false ∧ q (f x) = false) (xs : List α) :
    (updateWhere p f xs).filter q = xs.filter q :=
  filter_updateWhere_of_mem fun x _ => hq x

theorem filter_deleteWhere {p q : α → Bool} (hq : ∀ x, p x = true → q x = false) (xs : List α) :
    (deleteWhere p xs).filter q = xs.filter q := by
  rw [deleteWhere, List.filter_filter]
  apply List.filter_congr
  intro x _
  cases hp : p x
  · simp
  · simp [hq x hp]

/-- The same where the rows that both select are none of the table's. -/
theorem filter_deleteWhere_of_mem {p q : α → Bool} {xs : List α}
    (hq : ∀ x ∈ xs, p x = true → q x = false) : (deleteWhere p xs).filter q = xs.filter q := by
  rw [deleteWhere, List.filter_filter]
  apply List.filter_congr
  intro x hx
  cases hp : p x
  · simp
  · simp [hq x hx hp]

theorem filter_insert {q : α → Bool} {x : α} (hx : q x = false) (xs : List α) :
    (xs ++ [x]).filter q = xs.filter q := by
  simp [List.filter_append, hx]

/-- The row a key finds, after an update that keeps the key. -/
theorem find?_updateWhere {p q : α → Bool} {f : α → α} (hq : ∀ x, p x = true → q (f x) = q x)
    (xs : List α) :
    (updateWhere p f xs).find? q = (xs.find? q).map fun x => if p x then f x else x := by
  induction xs with
  | nil => rfl
  | cons x xs ih =>
    have hcons : updateWhere p f (x :: xs) = (if p x then f x else x) :: updateWhere p f xs := rfl
    have hx : q (if p x then f x else x) = q x := by
      split
      · next hp => exact hq x hp
      · rfl
    rw [hcons, List.find?_cons, List.find?_cons, hx, ih]
    cases q x <;> rfl

end Relational
