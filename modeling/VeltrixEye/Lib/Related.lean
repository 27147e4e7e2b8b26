import Mathlib

/-!
# Lists related member by member

What a relation between the members of two lists says of the lists.
-/

namespace Related

variable {α β : Type} {R : α → β → Prop} {xs : List α} {ys : List β}

theorem exists_left (h : List.Forall₂ R xs ys) {x : α} (hx : x ∈ xs) : ∃ y ∈ ys, R x y := by
  induction h with
  | nil => cases hx
  | cons hxy hrest ih =>
    rcases List.mem_cons.mp hx with rfl | hx
    · exact ⟨_, List.mem_cons_self, hxy⟩
    · obtain ⟨y, hy, hR⟩ := ih hx
      exact ⟨y, List.mem_cons_of_mem _ hy, hR⟩

theorem exists_right (h : List.Forall₂ R xs ys) {y : β} (hy : y ∈ ys) : ∃ x ∈ xs, R x y := by
  obtain ⟨x, hx, hR⟩ := exists_left h.flip hy
  exact ⟨x, hx, hR⟩

/-- Members kept by one predicate stay related to the members kept by the other. -/
theorem filter (h : List.Forall₂ R xs ys) {p : α → Bool} {q : β → Bool}
    (hpq : ∀ x y, R x y → p x = q y) :
    List.Forall₂ (fun x y => R x y ∧ p x = true) (xs.filter p) (ys.filter q) := by
  induction h with
  | nil => exact .nil
  | @cons x y xs ys hxy hrest ih =>
    cases hp : p x with
    | true =>
      rw [List.filter_cons_of_pos hp, List.filter_cons_of_pos ((hpq x y hxy).symm.trans hp)]
      exact .cons ⟨hxy, hp⟩ ih
    | false =>
      rw [List.filter_cons_of_neg (Bool.eq_false_iff.mp hp),
        List.filter_cons_of_neg (Bool.eq_false_iff.mp ((hpq x y hxy).symm.trans hp))]
      exact ih

theorem filter_length_le (h : List.Forall₂ R xs ys) {p : α → Bool} {q : β → Bool}
    (hpq : ∀ x y, R x y → p x = true → q y = true) : (xs.filter p).length ≤ (ys.filter q).length := by
  induction h with
  | nil => exact le_rfl
  | @cons x y xs ys hxy hrest ih =>
    cases hp : p x with
    | true =>
      rw [List.filter_cons_of_pos hp, List.filter_cons_of_pos (hpq x y hxy hp)]
      exact Nat.succ_le_succ ih
    | false =>
      rw [List.filter_cons_of_neg (Bool.eq_false_iff.mp hp)]
      exact ih.trans (List.Sublist.length_le (List.Sublist.filter q (List.sublist_cons_self y ys)))

theorem any_eq (h : List.Forall₂ R xs ys) {p : α → Bool} {q : β → Bool}
    (hpq : ∀ x y, R x y → p x = q y) : xs.any p = ys.any q := by
  induction h with
  | nil => rfl
  | cons hxy hrest ih => rw [List.any_cons, List.any_cons, hpq _ _ hxy, ih]

theorem any_mono (h : List.Forall₂ R xs ys) {p : α → Bool} {q : β → Bool}
    (hpq : ∀ x y, R x y → p x = true → q y = true) (hany : xs.any p = true) : ys.any q = true := by
  obtain ⟨x, hx, hpx⟩ := List.any_eq_true.mp hany
  obtain ⟨y, hy, hR⟩ := exists_left h hx
  exact List.any_eq_true.mpr ⟨y, hy, hpq x y hR hpx⟩

theorem all_mono (h : List.Forall₂ R xs ys) {p : α → Bool} {q : β → Bool}
    (hpq : ∀ x y, R x y → p x = true → q y = true) (hall : xs.all p = true) : ys.all q = true := by
  rw [List.all_eq_true] at hall ⊢
  intro y hy
  obtain ⟨x, hx, hR⟩ := exists_right h hy
  exact hpq x y hR (hall x hx)

end Related
