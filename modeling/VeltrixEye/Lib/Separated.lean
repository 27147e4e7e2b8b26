import Mathlib

/-!
# Texts joined by a separator

* `cut_eq_iff` — two texts cut at a separator are equal exactly when the cuts agree, or one of them is
  further to the right.
* `joined_eq_iff` — pieces without the separator are recovered.
-/

namespace Separated

variable {α : Type} {sep : α}

theorem cut_eq_iff {a b r s : List α} :
    a ++ sep :: r = b ++ sep :: s ↔
      (a = b ∧ r = s) ∨ (∃ x, b = a ++ sep :: x ∧ r = x ++ sep :: s) ∨
        ∃ x, a = b ++ sep :: x ∧ s = x ++ sep :: r := by
  constructor
  · intro h
    rcases List.append_eq_append_iff.mp h with ⟨c, rfl, hc⟩ | ⟨c, rfl, hc⟩
    · cases c with
      | nil => exact Or.inl ⟨(List.append_nil a).symm, (List.cons.inj hc).2⟩
      | cons y c =>
        obtain ⟨rfl, hr⟩ := List.cons.inj hc
        exact Or.inr (Or.inl ⟨c, rfl, hr⟩)
    · cases c with
      | nil => exact Or.inl ⟨List.append_nil b, (List.cons.inj hc).2.symm⟩
      | cons y c =>
        obtain ⟨rfl, hs⟩ := List.cons.inj hc
        exact Or.inr (Or.inr ⟨c, rfl, hs⟩)
  · rintro (⟨rfl, rfl⟩ | ⟨x, rfl, rfl⟩ | ⟨x, rfl, rfl⟩)
    · rfl
    · rw [List.append_assoc, List.cons_append]
    · rw [List.append_assoc, List.cons_append]

theorem cut_eq_iff_of_free {a b r s : List α} (ha : sep ∉ a) (hb : sep ∉ b) :
    a ++ sep :: r = b ++ sep :: s ↔ a = b ∧ r = s := by
  rw [cut_eq_iff]
  constructor
  · rintro (h | ⟨x, rfl, -⟩ | ⟨x, rfl, -⟩)
    · exact h
    · exact absurd (List.mem_append_right _ List.mem_cons_self) hb
    · exact absurd (List.mem_append_right _ List.mem_cons_self) ha
  · exact Or.inl

/-- The pieces, each followed by the separator, before the rest. -/
def joined (sep : α) (pieces : List (List α)) (rest : List α) : List α :=
  pieces.foldr (fun piece text => piece ++ sep :: text) rest

theorem joined_eq_iff {ps qs : List (List α)} {r s : List α} (hlen : ps.length = qs.length)
    (hps : ∀ p ∈ ps, sep ∉ p) (hqs : ∀ q ∈ qs, sep ∉ q) :
    joined sep ps r = joined sep qs s ↔ ps = qs ∧ r = s := by
  induction ps generalizing qs with
  | nil =>
    cases qs with
    | nil => exact (and_iff_right rfl).symm
    | cons q qs => cases hlen
  | cons p ps ih =>
    cases qs with
    | nil => cases hlen
    | cons q qs =>
      show p ++ sep :: joined sep ps r = q ++ sep :: joined sep qs s ↔ _
      rw [cut_eq_iff_of_free (hps p List.mem_cons_self) (hqs q List.mem_cons_self),
        ih (Nat.succ.inj hlen) (fun x hx => hps x (List.mem_cons_of_mem _ hx))
          fun x hx => hqs x (List.mem_cons_of_mem _ hx), List.cons.injEq, and_assoc]

end Separated
