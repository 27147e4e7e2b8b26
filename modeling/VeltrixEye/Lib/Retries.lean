import Mathlib

/-!
# Numbered retries

A log of attempts under deterministic names: attempt `n` is stored under `name n`, the log is
append-only, and the number of the next attempt is derived from how many stored attempts have
failed.

* `Numbered.next` — a free name below or at the derived number is the next one, and no attempt has
  succeeded yet.
* `Numbered.settled` — a successful attempt is the last one, and the derived number is its own.
-/

namespace Retries

variable {α K : Type*} (key : α → K) (name : ℕ → K) (failed : α → Bool)

/-- The attempts `1, 2, …` in order, each but the last one failed. -/
structure Numbered (log : List α) : Prop where
  names : log.map key = (List.range log.length).map fun n => name (n + 1)
  failed_before : ∀ a ∈ log.dropLast, failed a = true

variable {key name failed} {log : List α}

theorem numbered_nil : Numbered key name failed [] := ⟨rfl, by simp⟩

theorem Numbered.held (h : Numbered key name failed log) {k : ℕ} (hpos : 1 ≤ k) (hk : k ≤ log.length) :
    ∃ a ∈ log, key a = name k := by
  have hmem : name k ∈ log.map key := by
    rw [h.names, List.mem_map]
    exact ⟨k - 1, List.mem_range.mpr (by omega), by rw [Nat.sub_add_cancel hpos]⟩
  exact List.mem_map.mp hmem

/-- **A success is the last attempt**, and one more than the number of failures is its number. -/
theorem Numbered.settled (h : Numbered key name failed log) {a : α} (ha : a ∈ log)
    (hsucceeded : failed a = false) :
    log.countP failed + 1 = log.length ∧ key a = name log.length ∧ log.getLast? = some a := by
  have hne : log ≠ [] := List.ne_nil_of_mem ha
  have hsplit : log.dropLast ++ [log.getLast hne] = log := List.dropLast_append_getLast hne
  have hlast : log.getLast hne = a := by
    rw [← hsplit] at ha
    rcases List.mem_append.mp ha with hmem | hmem
    · rw [h.failed_before a hmem] at hsucceeded
      cases hsucceeded
    · exact (List.mem_singleton.mp hmem).symm
  have hlength : log.dropLast.length + 1 = log.length := by
    rw [List.length_dropLast]
    have := List.length_pos_iff.mpr hne
    omega
  refine ⟨?_, ?_, ?_⟩
  · have hcount : log.dropLast.countP failed = log.dropLast.length :=
      List.countP_eq_length.mpr h.failed_before
    have hstep : log.countP failed = log.dropLast.countP failed := by
      rw [← hsplit, hlast, List.countP_append, List.dropLast_concat]
      simp [hsucceeded]
    omega
  · have hkeys : (log.map key).getLast? = some (key a) := by
      rw [List.getLast?_map, List.getLast?_eq_some_getLast hne, hlast]
      rfl
    rw [h.names, ← hlength, List.range_succ, List.map_append, List.map_singleton,
      List.getLast?_concat] at hkeys
    rw [← hlength]
    exact (Option.some.inj hkeys).symm
  · rw [List.getLast?_eq_some_getLast hne, hlast]

/-- **The next attempt.**  A name that is still free, at a number no greater than the derived one,
    is the next in line, and every attempt so far has failed. -/
theorem Numbered.next (h : Numbered key name failed log) {k : ℕ} (hpos : 1 ≤ k)
    (hk : k ≤ log.countP failed + 1) (hfree : ∀ a ∈ log, key a ≠ name k) :
    k = log.length + 1 ∧ ∀ a ∈ log, failed a = true := by
  have hlt : log.length < k := by
    by_contra hle
    obtain ⟨a, ha, hkey⟩ := h.held hpos (not_lt.mp hle)
    exact hfree a ha hkey
  have hcount : log.countP failed ≤ log.length := List.countP_le_length
  exact ⟨by omega, List.countP_eq_length.mp (by omega)⟩

theorem Numbered.concat (h : Numbered key name failed log) (hall : ∀ a ∈ log, failed a = true) {a : α}
    (ha : key a = name (log.length + 1)) : Numbered key name failed (log ++ [a]) where
  names := by
    rw [List.map_append, h.names, List.length_append, List.length_singleton, List.range_succ,
      List.map_append]
    simp [ha]
  failed_before := by
    rw [List.dropLast_concat]
    exact hall

theorem Numbered.succeeded_le_one (h : Numbered key name failed log) :
    (log.filter fun a => !failed a).length ≤ 1 := by
  rcases List.eq_nil_or_concat log with rfl | ⟨before, last, rfl⟩
  · simp
  · rw [List.concat_eq_append] at h ⊢
    have hbefore := h.failed_before
    rw [List.dropLast_concat] at hbefore
    have hnone : before.filter (fun a => !failed a) = [] := by
      rw [List.filter_eq_nil_iff]
      intro a ha
      simp [hbefore a ha]
    rw [List.filter_append, hnone, List.nil_append]
    exact (List.length_filter_le _ _).trans (by simp)

end Retries
