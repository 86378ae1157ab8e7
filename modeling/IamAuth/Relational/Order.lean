import Mathlib.Data.List.Nodup

/-!
# The order of insertion

A table is a list in the order of insertion, so that one row is older than
another when the two, in that order, are a sublist of it.
-/

set_option autoImplicit false

namespace Relational

variable {α β : Type} {l l' : List α} {a b c : α}

/-- `a` comes before `b`. -/
def Before (l : List α) (a b : α) : Prop := [a, b].Sublist l

theorem Before.left (h : Before l a b) : a ∈ l := h.subset (by simp)

theorem Before.right (h : Before l a b) : b ∈ l := h.subset (by simp)

theorem Before.mono (h : Before l a b) (hl : l.Sublist l') : Before l' a b := h.trans hl

theorem Before.map (f : α → β) (h : Before l a b) : Before (l.map f) (f a) (f b) :=
  List.Sublist.map f h

theorem Before.of_map {f : α → β} {x y : β} (h : Before (l.map f) x y) :
    ∃ a b, Before l a b ∧ f a = x ∧ f b = y := by
  obtain ⟨l', hl, heq⟩ := List.sublist_map_iff.mp h
  obtain ⟨a, l', rfl, rfl, hrest⟩ := List.map_eq_cons_iff.mp heq.symm
  obtain ⟨b, l', rfl, rfl, -⟩ := List.map_eq_cons_iff.mp hrest
  have hpair : [a, b].Sublist (a :: b :: l') :=
    List.cons_sublist_cons.mpr (List.cons_sublist_cons.mpr (List.nil_sublist l'))
  exact ⟨a, b, hpair.trans hl, rfl, rfl⟩

theorem before_append (ha : a ∈ l) (hb : b ∈ l') : Before (l ++ l') a b :=
  (List.singleton_sublist.mpr ha).append (List.singleton_sublist.mpr hb)

theorem before_cons : Before (c :: l) a b ↔ Before l a b ∨ (a = c ∧ b ∈ l) := by
  unfold Before
  rw [List.sublist_cons_iff]
  constructor
  · rintro (h | ⟨r, hr, h⟩)
    · exact .inl h
    · cases hr
      exact .inr ⟨rfl, List.singleton_sublist.mp h⟩
  · rintro (h | ⟨rfl, hb⟩)
    · exact .inl h
    · exact .inr ⟨[b], rfl, List.singleton_sublist.mpr hb⟩

theorem before_concat : Before (l ++ [c]) a b ↔ Before l a b ∨ (a ∈ l ∧ b = c) := by
  induction l with
  | nil => simp [Before]
  | cons x l ih =>
    simp only [List.cons_append, before_cons, ih, List.mem_append, List.mem_cons, List.not_mem_nil,
      or_false]
    constructor
    · rintro ((h | ⟨ha, hb⟩) | ⟨ha, hb | hb⟩)
      · exact .inl (.inl h)
      · exact .inr ⟨.inr ha, hb⟩
      · exact .inl (.inr ⟨ha, hb⟩)
      · exact .inr ⟨.inl ha, hb⟩
    · rintro ((h | ⟨ha, hb⟩) | ⟨ha | ha, hb⟩)
      · exact .inl (.inl h)
      · exact .inr ⟨ha, .inl hb⟩
      · exact .inr ⟨ha, .inr hb⟩
      · exact .inl (.inr ⟨ha, hb⟩)

/-- Two different entries come one before the other. -/
theorem before_or (ha : a ∈ l) (hb : b ∈ l) (hne : a ≠ b) : Before l a b ∨ Before l b a := by
  obtain ⟨l₁, l₂, rfl⟩ := List.append_of_mem ha
  rcases List.mem_append.mp hb with hb | hb
  · exact .inr (before_append hb (List.mem_cons_self ..))
  · rcases List.mem_cons.mp hb with rfl | hb
    · exact absurd rfl hne
    · left
      have hcons : Before (a :: l₂) a b := before_cons.2 (.inr ⟨rfl, hb⟩)
      exact hcons.mono (List.sublist_append_right _ _)

theorem Before.asymm (h : Before l a b) (hl : l.Nodup) : ¬Before l b a := by
  induction l with
  | nil => cases h
  | cons x l ih =>
    obtain ⟨hx, hl⟩ := List.nodup_cons.mp hl
    intro h'
    rcases before_cons.1 h with hab | ⟨rfl, hb⟩
    · rcases before_cons.1 h' with hba | ⟨rfl, -⟩
      · exact ih hab hl hba
      · exact hx hab.right
    · rcases before_cons.1 h' with hba | ⟨rfl, -⟩
      · exact hx hba.right
      · exact hx hb

theorem Before.ne (h : Before l a b) (hl : l.Nodup) : a ≠ b := by
  rintro rfl
  exact h.asymm hl h

/-- Entries of a sublist come in the order of the whole list. -/
theorem Before.of_sublist (h : Before l' a b) (hl' : l'.Nodup) (hsub : l.Sublist l') (ha : a ∈ l)
    (hb : b ∈ l) : Before l a b := by
  rcases before_or ha hb (h.ne hl') with h' | h'
  · exact h'
  · exact absurd (h'.mono hsub) (h.asymm hl')

/-- The order of a column is the order of the rows. -/
theorem before_of_map {f : α → β} (h : Before (l.map f) (f a) (f b)) (hl : (l.map f).Nodup)
    (ha : a ∈ l) (hb : b ∈ l) : Before l a b := by
  have hne : a ≠ b := fun hab => h.ne hl (congrArg f hab)
  rcases before_or ha hb hne with h' | h'
  · exact h'
  · exact absurd (h'.map f) (h.asymm hl)

theorem Before.trans (h : Before l a b) (h' : Before l b c) (hl : l.Nodup) : Before l a c := by
  induction l with
  | nil => cases h
  | cons x l ih =>
    obtain ⟨hx, hl⟩ := List.nodup_cons.mp hl
    rcases before_cons.1 h' with hbc | ⟨rfl, -⟩
    · rcases before_cons.1 h with hab | ⟨rfl, -⟩
      · exact before_cons.2 (.inl (ih hab hbc hl))
      · exact before_cons.2 (.inr ⟨rfl, hbc.right⟩)
    · rcases before_cons.1 h with hab | ⟨rfl, hb⟩
      · exact absurd hab.right hx
      · exact absurd hb hx

end Relational
