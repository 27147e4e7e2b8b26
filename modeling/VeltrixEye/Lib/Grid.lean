import Mathlib

/-!
# Lists whose keys advance by a fixed step

`Steps key step l` — each key is the one before it plus `step`.

* `key_getElem` — the key at a position.
* `length_filter_le` — a span of `n` steps holds at most `n` elements.
* `first_le` — `n` elements that end by a bound began `n` steps before it.
* `exists_last` — the element whose slot is the last to end by a bound.
* `le_length_filter` — the slots between two bounds are filled.
-/

namespace Grid

variable {α : Type*} (key : α → ℤ) (step : ℤ)

/-- Each key is the one before it plus `step`. -/
def Steps (l : List α) : Prop := l.IsChain (fun a b => key b = key a + step)

variable {key step} {l : List α}

theorem key_getElem (h : Steps key step l) (hl : 0 < l.length) :
    ∀ (i : ℕ) (hi : i < l.length), key l[i] = key l[0] + i * step := by
  intro i
  induction i with
  | zero =>
    intro hi
    simp
  | succ i ih =>
    intro hi
    have hnext : key l[i + 1] = key l[i] + step := List.isChain_iff_getElem.mp h i hi
    rw [hnext, ih (by omega)]
    push_cast
    ring

theorem length_le_of_apart {a b : ℤ} {n : ℕ}
    (hapart : l.Pairwise (fun x y => key x + step ≤ key y))
    (hspan : ∀ x ∈ l, a ≤ key x ∧ key x < b) (hn : b - a ≤ n * step) : l.length ≤ n := by
  induction l generalizing a n with
  | nil => exact Nat.zero_le _
  | cons x xs ih =>
    obtain ⟨hhead, htail⟩ := List.pairwise_cons.mp hapart
    have hx := hspan x List.mem_cons_self
    obtain _ | m := n
    · simp only [Nat.cast_zero, zero_mul] at hn
      omega
    · have hm : xs.length ≤ m := by
        refine ih (a := key x + step) htail (fun y hy => ?_) ?_
        · exact ⟨hhead y hy, (hspan y (List.mem_cons_of_mem _ hy)).2⟩
        · push_cast at hn
          rw [add_mul, one_mul] at hn
          omega
      rw [List.length_cons]
      omega

theorem apart (hstep : 0 < step) (h : Steps key step l) :
    l.Pairwise (fun x y => key x + step ≤ key y) := by
  rw [List.pairwise_iff_getElem]
  intro i j hi hj hij
  have hl : 0 < l.length := by omega
  rw [key_getElem h hl i hi, key_getElem h hl j hj]
  have : ((i : ℤ) + 1) * step ≤ j * step :=
    mul_le_mul_of_nonneg_right (by exact_mod_cast hij) hstep.le
  rw [add_mul, one_mul] at this
  omega

theorem length_filter_le (hstep : 0 < step) (h : Steps key step l) {a b : ℤ} {n : ℕ}
    (hn : b - a ≤ n * step) : (l.filter (fun x => a ≤ key x ∧ key x < b)).length ≤ n := by
  refine length_le_of_apart ((apart hstep h).filter _) (fun x hx => ?_) hn
  simpa using (List.mem_filter.mp hx).2

theorem first_le (hstep : 0 < step) (h : Steps key step l) {t : ℤ} {n : ℕ} (hn : 0 < n)
    (hcount : n ≤ (l.filter (fun x => key x + step ≤ t)).length) :
    ∃ hl : 0 < l.length, key l[0] + n * step ≤ t := by
  have hl : 0 < l.length := by
    have := List.length_filter_le (fun x => decide (key x + step ≤ t)) l
    omega
  refine ⟨hl, ?_⟩
  by_contra hlate
  -- otherwise all of them lie in a span of fewer steps
  have hle : (l.filter (fun x => key x + step ≤ t)).length ≤ n - 1 := by
    refine length_le_of_apart (a := key l[0]) (b := t - step + 1) ((apart hstep h).filter _)
      (fun x hx => ?_) ?_
    · obtain ⟨hmem, hclosed⟩ := List.mem_filter.mp hx
      obtain ⟨i, hi, rfl⟩ := List.mem_iff_getElem.mp hmem
      rw [decide_eq_true_eq] at hclosed
      have hpos : 0 ≤ (i : ℤ) * step := mul_nonneg (Int.natCast_nonneg i) hstep.le
      rw [key_getElem h hl i hi] at hclosed ⊢
      omega
    · have : (((n - 1 : ℕ) : ℤ)) * step = n * step - step := by
        rw [Nat.cast_sub hn, sub_mul]
        simp
      omega
  omega

theorem exists_last (hstep : 0 < step) (h : Steps key step l) {t : ℤ} (hl : 0 < l.length)
    (hfirst : key l[0] + step ≤ t) (hx : ∃ x ∈ l, t ≤ key x + step) :
    ∃ e ∈ l, key e + step ≤ t ∧ t < key e + 2 * step := by
  obtain ⟨x, hmem, hx⟩ := hx
  obtain ⟨k, hk, rfl⟩ := List.mem_iff_getElem.mp hmem
  rw [key_getElem h hl k hk] at hx
  set q := (t - step - key l[0]) / step with hq
  have hq0 : 0 ≤ q := Int.ediv_nonneg (by omega) hstep.le
  have hlow : q * step ≤ t - step - key l[0] := Int.ediv_mul_le _ hstep.ne'
  have hhigh : t - step - key l[0] < (q + 1) * step := Int.lt_ediv_add_one_mul_self _ hstep
  have hqk : q ≤ k := by
    by_contra hlt
    have : ((k : ℤ) + 1) * step ≤ q * step := mul_le_mul_of_nonneg_right (by omega) hstep.le
    rw [add_mul, one_mul] at this
    omega
  obtain ⟨m, hm⟩ := Int.eq_ofNat_of_zero_le hq0
  have hmk : m < l.length := by omega
  refine ⟨l[m], List.getElem_mem hmk, ?_⟩
  rw [key_getElem h hl m hmk]
  rw [hm] at hlow hhigh
  rw [add_mul, one_mul] at hhigh
  omega

/-- **The slots of a span are filled**: from an element at or before the span's start to the last slot
that ends by `t`. -/
theorem le_length_filter (hstep : 0 < step) (h : Steps key step l) {t : ℤ} {n : ℕ}
    (hl : 0 < l.length) (hfirst : key l[0] + n * step ≤ t)
    (hlast : ∃ e ∈ l, key e + step ≤ t ∧ t < key e + 2 * step) :
    n ≤ (l.filter (fun x => t - n * step ≤ key x ∧ key x + step ≤ t)).length + 1 := by
  obtain ⟨e, hmem, hclosed, hnext⟩ := hlast
  obtain ⟨m, hm, rfl⟩ := List.mem_iff_getElem.mp hmem
  rw [key_getElem h hl m hm] at hclosed hnext
  have hnm : n ≤ m + 1 := by
    by_contra hlt
    have : ((m : ℤ) + 2) * step ≤ n * step := mul_le_mul_of_nonneg_right (by omega) hstep.le
    rw [add_mul] at this
    omega
  -- the `n - 1` elements up to position `m` all lie in the span
  set part := (l.drop (m + 2 - n)).take (n - 1) with hpart
  have hlength : part.length = n - 1 := by
    rw [hpart, List.length_take, List.length_drop]
    omega
  have hall : part.filter (fun x => t - n * step ≤ key x ∧ key x + step ≤ t) = part := by
    refine List.filter_eq_self.mpr fun x hx => ?_
    obtain ⟨i, hi, rfl⟩ := List.mem_iff_getElem.mp hx
    have hpos : m + 2 - n + i < l.length := by omega
    have hget : part[i] = l[m + 2 - n + i] := by
      simp [hpart, List.getElem_take, List.getElem_drop]
    rw [hget, decide_eq_true_eq, key_getElem h hl _ hpos]
    have hi' : i < n - 1 := by omega
    have hcast : ((m + 2 - n + i : ℕ) : ℤ) = m + 2 - n + i := by omega
    rw [hcast]
    have hbefore : ((m : ℤ) + 2 - n + i) * step ≤ m * step :=
      mul_le_mul_of_nonneg_right (by omega) hstep.le
    have hafter : ((m : ℤ) + 2 - n) * step ≤ (m + 2 - n + i) * step :=
      mul_le_mul_of_nonneg_right (by omega) hstep.le
    have hexpand : ((m : ℤ) + 2 - n) * step = m * step + 2 * step - n * step := by ring
    omega
  have hsub : part.Sublist l := (List.take_sublist _ _).trans (List.drop_sublist _ _)
  have hle := (hsub.filter (fun x => decide (t - n * step ≤ key x ∧ key x + step ≤ t))).length_le
  rw [hall, hlength] at hle
  omega

end Grid
