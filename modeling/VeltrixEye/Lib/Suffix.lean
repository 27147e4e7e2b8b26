import VeltrixEye.Lib.Series

/-!
# Suffixes of ascending series

* `rtake_eq_of_suffix`, `getLast?_eq_of_suffix` — the last elements of a list are those of any long
  enough suffix.
* `rdrop_suffix` — dropping the same number of last elements keeps a suffix.
* `filter_ge_suffix` — in an ascending list the elements from a bound on are a suffix.
* `covers_cases` — a selection by a lower bound that holds the last `n` elements has at least `n`
  elements or all of them.
-/

namespace Suffix

variable {α : Type*} {l l' : List α}

theorem rtake_eq_of_suffix (h : l <:+ l') {n : ℕ} (hn : n ≤ l.length) : l.rtake n = l'.rtake n := by
  obtain ⟨front, rfl⟩ := h
  unfold List.rtake
  rw [List.length_append, show front.length + l.length - n = front.length + (l.length - n) by omega,
    List.drop_append]
  simp

theorem getLast?_eq_of_suffix (h : l <:+ l') (hne : l ≠ []) : l.getLast? = l'.getLast? := by
  obtain ⟨front, rfl⟩ := h
  rw [List.getLast?_append_of_ne_nil _ hne]

theorem rdrop_suffix (h : l <:+ l') (n : ℕ) : l.rdrop n <:+ l'.rdrop n := by
  obtain ⟨front, rfl⟩ := h
  unfold List.rdrop
  by_cases hn : n ≤ l.length
  · rw [List.length_append, show front.length + l.length - n = front.length + (l.length - n) by omega,
      List.take_append]
    simp
  · rw [show l.length - n = 0 by omega, List.take_zero]
    exact List.nil_suffix

theorem length_rdrop (l : List α) (n : ℕ) : (l.rdrop n).length = l.length - n := by
  simp [List.rdrop]

variable {K : Type*} [LinearOrder K] {key : α → K}

theorem filter_ge_suffix (h : l.Pairwise (fun a b => key a < key b)) (bound : K) :
    l.filter (fun a => decide (bound ≤ key a)) <:+ l := by
  induction l with
  | nil => exact List.suffix_rfl
  | cons a as ih =>
    obtain ⟨hhead, htail⟩ := List.pairwise_cons.mp h
    by_cases ha : bound ≤ key a
    · have hall : (a :: as).filter (fun b => decide (bound ≤ key b)) = a :: as := by
        refine List.filter_eq_self.mpr fun b hb => ?_
        rcases List.mem_cons.mp hb with rfl | hb
        · simpa using ha
        · simpa using ha.trans (hhead b hb).le
      rw [hall]
    · rw [List.filter_cons_of_neg (by simpa using ha)]
      exact (ih htail).trans (List.suffix_cons a as)

/-- **Coverage.**  If the last `n` elements are at or above the bound, then the elements from the bound
on are at least `n`, or all of the list. -/
theorem covers_cases {bound : K} {n : ℕ}
    (hlast : ∀ a ∈ l.rtake n, bound ≤ key a) :
    n ≤ (l.filter (fun a => decide (bound ≤ key a))).length ∨
      l.filter (fun a => decide (bound ≤ key a)) = l := by
  by_cases hn : n ≤ l.length
  · left
    have hsub : l.rtake n = (l.rtake n).filter (fun a => decide (bound ≤ key a)) := by
      refine (List.filter_eq_self.mpr fun a ha => ?_).symm
      simpa using hlast a ha
    have hle : (l.rtake n).length ≤ (l.filter (fun a => decide (bound ≤ key a))).length := by
      rw [hsub]
      exact ((List.drop_sublist _ l).filter _).length_le
    have hlength : (l.rtake n).length = n := by
      rw [List.rtake, List.length_drop]
      omega
    omega
  · right
    have hall : l.rtake n = l := by
      rw [List.rtake, show l.length - n = 0 by omega, List.drop_zero]
    rw [hall] at hlast
    exact List.filter_eq_self.mpr fun a ha => by simpa using hlast a ha

end Suffix
