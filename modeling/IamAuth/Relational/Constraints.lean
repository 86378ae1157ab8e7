import IamAuth.Relational.Table

/-!
# Unique indexes and foreign keys

What an insertion, an update and a deletion have to respect for a constraint to
hold afterwards. A nullable foreign key is `none` where the column is null.
-/

set_option autoImplicit false

namespace Relational

variable {α β κ : Type}

/-- No two rows have the same key. -/
def Unique (key : α → κ) (xs : List α) : Prop := (xs.map key).Nodup

/-- Every row of `xs` that refers to a key refers to one of a row of `ys`. -/
def Refers (fk : α → Option κ) (key : β → κ) (xs : List α) (ys : List β) : Prop :=
  ∀ x ∈ xs, ∀ k ∈ fk x, ∃ y ∈ ys, key y = k

/-- The rows were numbered by a sequence that stands at `n`. -/
def Numbered (num : α → Nat) (xs : List α) (n : Nat) : Prop := ∀ x ∈ xs, num x ≤ n

instance [DecidableEq κ] (key : α → κ) (xs : List α) : Decidable (Unique key xs) :=
  inferInstanceAs (Decidable (List.Nodup _))

instance [DecidableEq κ] (fk : α → Option κ) (key : β → κ) (xs : List α) (ys : List β) :
    Decidable (Refers fk key xs ys) :=
  inferInstanceAs (Decidable (∀ x ∈ xs, ∀ k ∈ fk x, ∃ y ∈ ys, key y = k))

instance (num : α → Nat) (xs : List α) (n : Nat) : Decidable (Numbered num xs n) :=
  inferInstanceAs (Decidable (∀ x ∈ xs, num x ≤ n))

/-! ## Unique indexes -/

section Unique

variable {key : α → κ} {xs : List α} {x : α}

theorem Unique.insert (h : Unique key xs) (hx : ∀ y ∈ xs, key y ≠ key x) :
    Unique key (xs ++ [x]) := by
  unfold Unique at h ⊢
  rw [List.map_append, List.nodup_append]
  refine ⟨h, by simp, ?_⟩
  intro a ha b hb
  obtain ⟨y, hy, rfl⟩ := List.mem_map.mp ha
  obtain rfl : b = key x := by simpa using hb
  exact hx y hy

theorem Unique.updateWhere {p : α → Bool} {f : α → α} (h : Unique key xs)
    (hf : ∀ y, p y = true → key (f y) = key y) : Unique key (updateWhere p f xs) := by
  unfold Unique
  rw [map_updateWhere key hf]
  exact h

theorem Unique.deleteWhere (h : Unique key xs) (p : α → Bool) : Unique key (deleteWhere p xs) :=
  h.sublist (List.filter_sublist.map key)

theorem Unique.eq_of_mem (h : Unique key xs) {y : α} (hx : x ∈ xs) (hy : y ∈ xs)
    (hkey : key x = key y) : x = y := List.inj_on_of_nodup_map h hx hy hkey

/-- A row is the one its key finds. -/
theorem Unique.find? [DecidableEq κ] (h : Unique key xs) (hx : x ∈ xs) :
    (xs.find? fun y => key y == key x) = some x := by
  have hfound : (xs.find? fun y => key y == key x).isSome = true :=
    List.find?_isSome.mpr ⟨x, hx, by simp⟩
  obtain ⟨y, hy⟩ := Option.isSome_iff_exists.mp hfound
  have hkey : key y = key x := by simpa using List.find?_some hy
  rw [hy, h.eq_of_mem (List.mem_of_find?_eq_some hy) hx hkey]

end Unique

/-! ## Foreign keys -/

section Refers

variable {fk : α → Option κ} {key : β → κ} {xs : List α} {ys : List β}

theorem Refers.insert (h : Refers fk key xs ys) {x : α}
    (hx : ∀ k ∈ fk x, ∃ y ∈ ys, key y = k) : Refers fk key (xs ++ [x]) ys := by
  intro x' hx' k hk
  rcases List.mem_append.mp hx' with hold | hnew
  · exact h x' hold k hk
  · obtain rfl := List.mem_singleton.mp hnew
    exact hx k hk

/-- Rows that are added to the referenced table do no harm. -/
theorem Refers.mono (h : Refers fk key xs ys) {ys' : List β} (hys : ∀ y ∈ ys, y ∈ ys') :
    Refers fk key xs ys' := by
  intro x hx k hk
  obtain ⟨y, hy, hkey⟩ := h x hx k hk
  exact ⟨y, hys y hy, hkey⟩

theorem Refers.updateWhere {p : α → Bool} {f : α → α} (h : Refers fk key xs ys)
    (hf : ∀ x, p x = true → fk (f x) = fk x) : Refers fk key (updateWhere p f xs) ys := by
  intro x' hx' k hk
  obtain ⟨x, hx, rfl⟩ := mem_updateWhere.1 hx'
  refine h x hx k ?_
  split at hk
  · next hp => rwa [hf x hp] at hk
  · exact hk

theorem Refers.updateWhere_right {p : β → Bool} {f : β → β} (h : Refers fk key xs ys)
    (hf : ∀ y, p y = true → key (f y) = key y) : Refers fk key xs (Relational.updateWhere p f ys) := by
  intro x hx k hk
  obtain ⟨y, hy, rfl⟩ := h x hx k hk
  refine ⟨_, mem_updateWhere.2 ⟨y, hy, rfl⟩, ?_⟩
  split
  · next hp => exact hf y hp
  · rfl

theorem Refers.deleteWhere (h : Refers fk key xs ys) (p : α → Bool) :
    Refers fk key (deleteWhere p xs) ys := fun x hx => h x (mem_deleteWhere.1 hx).1

/-- `ON DELETE CASCADE`: the rows that refer to a deleted one are deleted with it. -/
theorem Refers.cascade {p : β → Bool} {q : α → Bool} (h : Refers fk key xs ys)
    (hq : ∀ x ∈ xs, ∀ y ∈ ys, fk x = some (key y) → p y = true → q x = true) :
    Refers fk key (Relational.deleteWhere q xs) (Relational.deleteWhere p ys) := by
  intro x hx k hk
  obtain ⟨hx, hkept⟩ := mem_deleteWhere.1 hx
  obtain ⟨y, hy, rfl⟩ := h x hx k hk
  refine ⟨y, mem_deleteWhere.2 ⟨hy, ?_⟩, rfl⟩
  rw [Bool.eq_false_iff]
  intro hp
  rw [hq x hx y hy hk hp] at hkept
  cases hkept

end Refers

/-! ## Sequences -/

section Numbered

variable {num : α → Nat} {xs : List α} {n : Nat}

/-- The next number is new. -/
theorem Numbered.fresh (h : Numbered num xs n) : ∀ x ∈ xs, num x ≠ n + 1 := by
  intro x hx
  have := h x hx
  omega

theorem Numbered.insert (h : Numbered num xs n) {x : α} (hx : num x = n + 1) :
    Numbered num (xs ++ [x]) (n + 1) := by
  intro x' hx'
  rcases List.mem_append.mp hx' with hold | hnew
  · have := h x' hold
    omega
  · obtain rfl := List.mem_singleton.mp hnew
    omega

theorem Numbered.updateWhere {p : α → Bool} {f : α → α} (h : Numbered num xs n)
    (hf : ∀ x, p x = true → num (f x) = num x) : Numbered num (updateWhere p f xs) n := by
  intro x' hx'
  obtain ⟨x, hx, rfl⟩ := mem_updateWhere.1 hx'
  split
  · next hp =>
    rw [hf x hp]
    exact h x hx
  · exact h x hx

theorem Numbered.deleteWhere (h : Numbered num xs n) (p : α → Bool) :
    Numbered num (deleteWhere p xs) n := fun x hx => h x (mem_deleteWhere.1 hx).1

end Numbered

end Relational
