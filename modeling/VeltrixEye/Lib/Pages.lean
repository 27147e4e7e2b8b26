import Mathlib

/-!
# Ordered pages of a table

* `page key n rows` — `SELECT … FROM rows ORDER BY key ASC LIMIT n`, rows of equal key in table
  order.
* `mem_page_iff` — a row is on the page exactly when fewer than `n` rows come before it.
* `find?_page` — searching the page finds the first match of the whole table, provided fewer than
  `n` rows come before that match.
-/

namespace Pages

variable {α κ : Type*} [LinearOrder κ] (key : α → κ)

/-- The rows in ascending key order. -/
def ordered (rows : List α) : List α := rows.insertionSort (key · ≤ key ·)

/-- The first `n` rows in ascending key order. -/
def page (n : ℕ) (rows : List α) : List α := (ordered key rows).take n

variable {key} {rows : List α} {n : ℕ}

instance total_key : Std.Total (fun a b : α => key a ≤ key b) := ⟨fun _ _ => le_total _ _⟩

instance isTrans_key : IsTrans α (fun a b : α => key a ≤ key b) := ⟨fun _ _ _ => le_trans⟩

@[simp] theorem mem_ordered {a : α} : a ∈ ordered key rows ↔ a ∈ rows := List.mem_insertionSort _

theorem mem_of_mem_page {a : α} (h : a ∈ page key n rows) : a ∈ rows :=
  mem_ordered.mp (List.mem_of_mem_take h)

theorem ordered_pairwise (hkeys : (rows.map key).Nodup) :
    (ordered key rows).Pairwise (fun a b => key a < key b) := by
  have hle : (ordered key rows).Pairwise (fun a b => key a ≤ key b) := List.pairwise_insertionSort _ rows
  have hne : ((ordered key rows).map key).Nodup :=
    ((List.perm_insertionSort _ rows).map key).nodup_iff.mpr hkeys
  rw [List.Nodup, List.pairwise_map] at hne
  exact (hle.and hne).imp fun h => lt_of_le_of_ne h.1 h.2

/-- How many rows come before `a`. -/
def rank (key : α → κ) (rows : List α) (a : α) : ℕ := (rows.filter fun b => key b < key a).length

theorem rank_ordered (a : α) : rank key (ordered key rows) a = rank key rows a :=
  ((List.perm_insertionSort _ rows).filter _).length_eq

theorem mem_take_iff_of_sorted {l : List α} (hl : l.Pairwise fun a b => key a < key b) {a : α}
    (ha : a ∈ l) : a ∈ l.take n ↔ rank key l a < n := by
  induction l generalizing n with
  | nil => cases ha
  | cons x xs ih =>
    obtain ⟨hx, hxs⟩ := List.pairwise_cons.mp hl
    cases n with
    | zero => simp
    | succ n =>
      rw [List.take_succ_cons, List.mem_cons]
      rcases List.mem_cons.mp ha with rfl | ha
      · -- the head has nothing below it
        have hnone : rank key (a :: xs) a = 0 := by
          unfold rank
          rw [List.length_eq_zero_iff, List.filter_eq_nil_iff]
          intro b hb
          rcases List.mem_cons.mp hb with rfl | hb
          · simp
          · simpa using (hx b hb).le
        simp [hnone]
      · have hne : a ≠ x := fun h => lt_irrefl (key x) (h ▸ hx a ha)
        have hrank : rank key (x :: xs) a = rank key xs a + 1 := by
          simp [rank, hx a ha]
        rw [hrank, Nat.add_lt_add_iff_right, ← ih hxs ha]
        simp [hne]

/-- **A row is on the page exactly when fewer than `n` rows come before it.** -/
theorem mem_page_iff (hkeys : (rows.map key).Nodup) {a : α} :
    a ∈ page key n rows ↔ a ∈ rows ∧ rank key rows a < n := by
  constructor
  · intro h
    have ha := List.mem_of_mem_take h
    rw [page, mem_take_iff_of_sorted (ordered_pairwise hkeys) ha, rank_ordered] at h
    exact ⟨mem_ordered.mp ha, h⟩
  · rintro ⟨ha, h⟩
    rw [page, mem_take_iff_of_sorted (ordered_pairwise hkeys) (mem_ordered.mpr ha), rank_ordered]
    exact h

theorem find?_eq_some_iff_of_sorted {l : List α} (hl : l.Pairwise fun a b => key a < key b)
    {p : α → Bool} {a : α} :
    l.find? p = some a ↔ a ∈ l ∧ p a = true ∧ ∀ b ∈ l, p b = true → key a ≤ key b := by
  induction l with
  | nil => simp
  | cons x xs ih =>
    obtain ⟨hx, hxs⟩ := List.pairwise_cons.mp hl
    cases hp : p x with
    | true =>
      rw [List.find?_cons_of_pos hp, Option.some.injEq]
      constructor
      · rintro rfl
        refine ⟨List.mem_cons_self, hp, fun b hb _ => ?_⟩
        rcases List.mem_cons.mp hb with rfl | hb
        · exact le_rfl
        · exact (hx b hb).le
      · rintro ⟨ha, -, hmin⟩
        rcases List.mem_cons.mp ha with rfl | ha
        · rfl
        · exact absurd (hmin x List.mem_cons_self hp) (not_le.mpr (hx a ha))
    | false =>
      have hxp : ¬ p x = true := by simp [hp]
      rw [List.find?_cons_of_neg hxp, ih hxs]
      constructor
      · rintro ⟨ha, hpa, hmin⟩
        refine ⟨List.mem_cons_of_mem _ ha, hpa, fun b hb hpb => ?_⟩
        rcases List.mem_cons.mp hb with rfl | hb
        · exact absurd hpb hxp
        · exact hmin b hb hpb
      · rintro ⟨ha, hpa, hmin⟩
        rcases List.mem_cons.mp ha with rfl | ha
        · exact absurd hpa hxp
        · exact ⟨ha, hpa, fun b hb => hmin b (List.mem_cons_of_mem _ hb)⟩

/-- **Searching a page.** -/
theorem find?_page (hkeys : (rows.map key).Nodup) {p : α → Bool} {a : α} :
    (page key n rows).find? p = some a ↔
      a ∈ rows ∧ p a = true ∧ (∀ b ∈ rows, p b = true → key a ≤ key b) ∧ rank key rows a < n := by
  have hsorted : (page key n rows).Pairwise fun a b => key a < key b :=
    (ordered_pairwise hkeys).sublist (List.take_sublist n _)
  rw [find?_eq_some_iff_of_sorted hsorted]
  constructor
  · rintro ⟨ha, hpa, hmin⟩
    obtain ⟨hmem, hrank⟩ := (mem_page_iff hkeys).mp ha
    refine ⟨hmem, hpa, fun b hb hpb => ?_, hrank⟩
    -- a match below `a` would itself be on the page
    by_contra hlt
    rw [not_le] at hlt
    have hb' : b ∈ page key n rows := by
      refine (mem_page_iff hkeys).mpr ⟨hb, lt_of_le_of_lt ?_ hrank⟩
      exact (List.monotone_filter_right rows fun c hc => by
        simp only [decide_eq_true_eq] at hc ⊢
        exact hc.trans hlt).length_le
    exact absurd (hmin b hb' hpb) (not_le.mpr hlt)
  · rintro ⟨ha, hpa, hmin, hrank⟩
    exact ⟨(mem_page_iff hkeys).mpr ⟨ha, hrank⟩, hpa, fun b hb => hmin b (mem_of_mem_page hb)⟩

end Pages
