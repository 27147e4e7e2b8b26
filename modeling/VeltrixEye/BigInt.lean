import VeltrixEye.Number

/-!
# `Number(value)` of an integer

A `bigint` is converted to the nearest double: exactly below `2 ^ 53`, to 53 significant bits from there
on, an exact half going to the even neighbour, and to infinity beyond the largest double.  The text of
an integer is converted in the same way.

* `numberOfInt_lt` — safe integers are kept.
-/

namespace VeltrixEye

/-- `Number(n)` of a non-negative integer. -/
def numberOfInt (n : ℕ) : JsNumber :=
  if n < 2 ^ 53 then .fin n
  else
    let unit := 2 ^ (Nat.log2 n - 52)
    let rounded := Rounding.halfEven ((n : ℚ) / (unit : ℕ)) * (unit : ℕ)
    if rounded < 2 ^ 1024 then .fin rounded else .posInf

/-- A safe integer, as a natural number. -/
def safeInteger : JsNumber → Option ℕ
  | .fin q => if q.den = 1 ∧ 0 ≤ q.num ∧ q.num < 2 ^ 53 then some q.num.toNat else none
  | _ => none

theorem numberOfInt_lt {n : ℕ} (h : n < 2 ^ 53) : numberOfInt n = .fin n := if_pos h

theorem numberOfInt_ge {n : ℕ} (h : 2 ^ 53 ≤ n) :
    numberOfInt n = .posInf ∨ ∃ k : ℤ, numberOfInt n = .fin k ∧ 2 ^ 53 ≤ k := by
  have hn : n ≠ 0 := by
    rintro rfl
    exact absurd h (by decide)
  have hlog : 53 ≤ Nat.log2 n := (Nat.le_log2 hn).mpr h
  obtain ⟨e, he⟩ : ∃ e, Nat.log2 n = e + 53 := ⟨Nat.log2 n - 53, by omega⟩
  -- the significand has 53 bits
  have hsignificand : ((2 ^ 52 : ℤ) : ℚ) ≤ (n : ℚ) / ((2 ^ (Nat.log2 n - 52) : ℕ) : ℚ) := by
    have hunit : (0 : ℚ) < ((2 ^ (Nat.log2 n - 52) : ℕ) : ℚ) := by positivity
    rw [le_div_iff₀ hunit]
    have hpow : 2 ^ 52 * 2 ^ (Nat.log2 n - 52) ≤ n := by
      rw [← pow_add, show 52 + (Nat.log2 n - 52) = Nat.log2 n by omega]
      exact Nat.log2_self_le hn
    exact_mod_cast hpow
  have hrounded := Rounding.le_halfEven_of_le hsignificand
  have hunit : (2 : ℤ) ≤ ((2 ^ (Nat.log2 n - 52) : ℕ) : ℤ) := by
    have hpos : 0 < 2 ^ e := by positivity
    rw [he, show e + 53 - 52 = e + 1 by omega, pow_succ]
    omega
  have hvalue : 2 ^ 53 ≤ Rounding.halfEven ((n : ℚ) / ((2 ^ (Nat.log2 n - 52) : ℕ) : ℚ)) *
      ((2 ^ (Nat.log2 n - 52) : ℕ) : ℤ) := by
    calc (2 : ℤ) ^ 53 = 2 ^ 52 * 2 := by norm_num
      _ ≤ _ := mul_le_mul hrounded hunit (by norm_num) (le_trans (by norm_num) hrounded)
  unfold numberOfInt
  rw [if_neg (not_lt.mpr h)]
  dsimp only
  split
  · exact Or.inr ⟨_, rfl, hvalue⟩
  · exact Or.inl rfl

theorem safeInteger_intCast (k : ℤ) :
    safeInteger (.fin k) = if 0 ≤ k ∧ k < 2 ^ 53 then some k.toNat else none := by
  unfold safeInteger
  simp only [Rat.den_intCast, Rat.num_intCast, true_and]

theorem safeInteger_numberOfInt (n : ℕ) :
    safeInteger (numberOfInt n) = if n < 2 ^ 53 then some n else none := by
  split
  · rename_i h
    rw [numberOfInt_lt h, ← Int.cast_natCast (R := ℚ) n, safeInteger_intCast, if_pos (by omega),
      Int.toNat_natCast]
  · rename_i h
    rcases numberOfInt_ge (not_lt.mp h) with hinf | ⟨k, hk, hlarge⟩
    · rw [hinf]
      rfl
    · rw [hk, safeInteger_intCast, if_neg (by omega)]

/-- Beyond the safe integers a rate changes in the conversion. -/
example : numberOfInt (2 ^ 53 + 1) = .fin (2 ^ 53 : ℕ) := by decide +kernel

end VeltrixEye
