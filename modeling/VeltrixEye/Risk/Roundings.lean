import VeltrixEye.Risk.Decimal

/-!
# The rounding helpers and the operations over them (`risk/decimal.ts`)

`RoundingMode.round` says what each mode does to an exact quotient.  `divRound_eq` and
`divFloor_eq` identify the source's sign and remainder analysis with it for every sign of both
arguments; products and quotients are then compared through their exact values
(`mul_eq_rounded`, `div_eq_rounded`), since a rounding keeps the order.

Principal results: `roundings_correct` — the helpers, the order kept by `Dec.mul` and `Dec.div`
on each side of zero, and the greatest multiple `Dec.floorToStep` returns;
`div_turns_at_zero` — across a zero divisor a quotient is neither increasing nor decreasing, and
a greatest multiple below the range is an overflow.
-/

namespace VeltrixEye

open Rounding

/-- The integer a mode makes of an exact quotient. -/
def RoundingMode.round : RoundingMode → ℚ → ℤ
  | .down, x => if 0 ≤ x then ⌊x⌋ else ⌈x⌉
  | .halfEven, x => Rounding.halfEven x

namespace RoundingMode

theorem round_mono (mode : RoundingMode) : Monotone mode.round := by
  intro x y hxy
  cases mode with
  | halfEven => exact halfEven_mono hxy
  | down =>
    simp only [round]
    split_ifs with hx hy hy
    · exact Int.floor_le_floor hxy
    · exact absurd (hx.trans hxy) hy
    · have hx0 : ⌈x⌉ ≤ 0 := Int.ceil_le.mpr (by simpa using (not_le.mp hx).le)
      exact hx0.trans (Int.floor_nonneg.mpr hy)
    · exact Int.ceil_le_ceil hxy

theorem round_neg (mode : RoundingMode) (x : ℚ) : mode.round (-x) = -mode.round x := by
  cases mode with
  | halfEven => exact halfEven_neg x
  | down =>
    simp only [round]
    split_ifs with hn hx hx
    · have : x = 0 := le_antisymm (by linarith) hx
      simp [this]
    · exact Int.floor_neg
    · exact Int.ceil_neg
    · exact absurd (neg_nonneg.mpr (not_le.mp hx).le) hn

end RoundingMode

/-! ## The helpers -/

theorem cast_neg_div_neg (n d : ℤ) : (((-n : ℤ) : ℚ) / ((-d : ℤ) : ℚ)) = (n : ℚ) / d := by
  push_cast
  exact neg_div_neg_eq _ _

theorem floor_div_of_pos (n : ℤ) {d : ℤ} (hd : 0 < d) : ⌊(n : ℚ) / d⌋ = n / d := by
  obtain ⟨k, rfl⟩ := Int.eq_ofNat_of_zero_le hd.le
  exact_mod_cast Rat.floor_intCast_div_natCast n k

theorem tdiv_eq_round_of_pos (n : ℤ) {d : ℤ} (hd : 0 < d) :
    n.tdiv d = RoundingMode.down.round ((n : ℚ) / d) := by
  have hdq : (0 : ℚ) < d := by exact_mod_cast hd
  rcases le_or_gt 0 n with hn | hn
  · have hq : 0 ≤ (n : ℚ) / d := div_nonneg (by exact_mod_cast hn) hdq.le
    rw [RoundingMode.round, if_pos hq, floor_div_of_pos n hd, Int.tdiv_eq_ediv_of_nonneg hn]
  · have hq : ¬ 0 ≤ (n : ℚ) / d := not_le.mpr (div_neg_of_neg_of_pos (by exact_mod_cast hn) hdq)
    have hceil : ⌈(n : ℚ) / d⌉ = -((-n) / d) := by
      rw [← floor_div_of_pos (-n) hd, ← Int.ceil_neg]
      push_cast
      rw [neg_div, neg_neg]
    rw [RoundingMode.round, if_neg hq, hceil, ← Int.tdiv_eq_ediv_of_nonneg (by omega),
      Int.neg_tdiv, neg_neg]

theorem tdiv_eq_round (n : ℤ) {d : ℤ} (hd : d ≠ 0) :
    n.tdiv d = RoundingMode.down.round ((n : ℚ) / d) := by
  rcases lt_or_gt_of_ne hd with hneg | hpos
  · have h := tdiv_eq_round_of_pos (-n) (d := -d) (by omega)
    rwa [cast_neg_div_neg, Int.neg_tdiv, Int.tdiv_neg, neg_neg] at h
  · exact tdiv_eq_round_of_pos n hpos

theorem divRound_eq (n : ℤ) {d : ℤ} (hd : d ≠ 0) (mode : RoundingMode) :
    divRound n d mode = .ok (mode.round ((n : ℚ) / d)) := by
  cases mode with
  | down => rw [Dec.divRound_down n hd, tdiv_eq_round n hd]
  | halfEven => exact Dec.divRound_halfEven n hd

theorem divFloor_neg_neg (n d : ℤ) : divFloor (-n) (-d) = divFloor n d := by
  unfold divFloor
  simp only [Int.neg_tdiv, Int.tdiv_neg, Int.neg_tmod, Int.tmod_neg, neg_neg, neg_eq_zero]
  split_ifs <;> first | rfl | omega

theorem divFloor_eq (n : ℤ) {d : ℤ} (hd : d ≠ 0) : divFloor n d = .ok ⌊(n : ℚ) / d⌋ := by
  rcases lt_or_gt_of_ne hd with hneg | hpos
  · rw [← divFloor_neg_neg, Dec.divFloor_of_pos _ (by omega), ← floor_div_of_pos _ (by omega),
      cast_neg_div_neg]
  · rw [Dec.divFloor_of_pos n hpos, floor_div_of_pos n hpos]

/-- What the two helpers make of a quotient. -/
structure RoundsQuotient (n d : ℤ) : Prop where
  halfEven : ∃ z, divRound n d .halfEven = .ok z ∧ ∀ w, IsNearestEven ((n : ℚ) / d) w ↔ w = z
  neg_left : ∀ mode, divRound (-n) d mode = (divRound n d mode).map fun z => -z
  neg_right : ∀ mode, divRound n (-d) mode = (divRound n d mode).map fun z => -z
  down : divRound n d .down = .ok (if 0 ≤ (n : ℚ) / d then ⌊(n : ℚ) / d⌋ else ⌈(n : ℚ) / d⌉)
  floor : divFloor n d = .ok ⌊(n : ℚ) / d⌋

theorem roundsQuotient (n : ℤ) {d : ℤ} (hd : d ≠ 0) : RoundsQuotient n d where
  halfEven := by
    refine ⟨_, Dec.divRound_halfEven n hd, fun w => ?_⟩
    rw [← halfEven_eq_iff]
    exact eq_comm
  neg_left mode := by
    rw [divRound_eq _ hd, divRound_eq _ hd, Int.cast_neg, neg_div, mode.round_neg]
    rfl
  neg_right mode := by
    rw [divRound_eq _ (neg_ne_zero.mpr hd), divRound_eq _ hd, Int.cast_neg, div_neg,
      mode.round_neg]
    rfl
  down := divRound_eq n hd .down
  floor := divFloor_eq n hd

/-! ## Products and quotients -/

namespace Dec

/-- The decimal a mode makes of an exact number of units. -/
def rounded (mode : RoundingMode) (x : ℚ) : Calc Dec := ofUnits (mode.round x)

/-- Where both calculations return, the first result is not above the second. -/
def LeWhenOk (x y : Calc Dec) : Prop := ∀ d d', x = .ok d → y = .ok d' → d ≤ d'

theorem rounded_mono (mode : RoundingMode) {x y : ℚ} (h : x ≤ y) :
    LeWhenOk (rounded mode x) (rounded mode y) := by
  intro d d' hd hd'
  rw [rounded, ofUnits_ok] at hd hd'
  rw [le_def, hd, hd']
  exact mode.round_mono h

theorem mul_eq_rounded (a b : Dec) (mode : RoundingMode) :
    a.mul b mode = rounded mode ((a.units * b.units : ℚ) / SCALE) := by
  unfold mul rounded
  rw [divRound_eq _ SCALE_pos.ne', Int.cast_mul]
  rfl

theorem mul_comm (a b : Dec) (mode : RoundingMode) : a.mul b mode = b.mul a mode := by
  unfold mul
  rw [Int.mul_comm]

theorem div_eq_rounded (a : Dec) {b : Dec} (hb : b.units ≠ 0) (mode : RoundingMode) :
    a.div b mode = (rounded mode ((a.units * SCALE : ℚ) / b.units)).map some := by
  unfold div rounded
  rw [if_neg hb, divRound_eq _ hb, Int.cast_mul]
  rfl

theorem div_some {a b d : Dec} {mode : RoundingMode} (h : a.div b mode = .ok (some d)) :
    b.units ≠ 0 ∧ rounded mode ((a.units * SCALE : ℚ) / b.units) = .ok d := by
  by_cases hb : b.units = 0
  · unfold div at h
    rw [if_pos hb] at h
    cases h
  · rw [div_eq_rounded a hb] at h
    refine ⟨hb, ?_⟩
    cases hr : rounded mode ((a.units * SCALE : ℚ) / b.units) with
    | error e => rw [hr] at h; cases h
    | ok c => rw [hr] at h; cases h; rfl

/-- Where both quotients exist and are in range, the first is not above the second. -/
def QuotientLe (x y : Calc (Option Dec)) : Prop :=
  ∀ d d', x = .ok (some d) → y = .ok (some d') → d ≤ d'

theorem quotientLe_of_exact {a a' b b' : Dec} (mode : RoundingMode)
    (h : b.units ≠ 0 → b'.units ≠ 0 →
      (a.units * SCALE : ℚ) / b.units ≤ (a'.units * SCALE : ℚ) / b'.units) :
    QuotientLe (a.div b mode) (a'.div b' mode) := by
  intro d d' hd hd'
  obtain ⟨hb, hr⟩ := div_some hd
  obtain ⟨hb', hr'⟩ := div_some hd'
  exact rounded_mono mode (h hb hb') d d' hr hr'

section Order

variable (mode : RoundingMode) {a a' b b' : Dec}

theorem cast_units_le (h : a ≤ a') : (a.units : ℚ) ≤ a'.units := by exact_mod_cast le_def.mp h

theorem SCALE_pos_rat : (0 : ℚ) < SCALE := by exact_mod_cast SCALE_pos

theorem mul_le_of_nonneg (haa : a ≤ a') (hb : 0 ≤ b.units) :
    LeWhenOk (a.mul b mode) (a'.mul b mode) := by
  rw [mul_eq_rounded, mul_eq_rounded]
  have hb' : (0 : ℚ) ≤ b.units := by exact_mod_cast hb
  exact rounded_mono mode (div_le_div_of_nonneg_right
    (mul_le_mul_of_nonneg_right (cast_units_le haa) hb') SCALE_pos_rat.le)

theorem mul_le_of_nonpos (haa : a ≤ a') (hb : b.units ≤ 0) :
    LeWhenOk (a'.mul b mode) (a.mul b mode) := by
  rw [mul_eq_rounded, mul_eq_rounded]
  have hb' : (b.units : ℚ) ≤ 0 := by exact_mod_cast hb
  exact rounded_mono mode (div_le_div_of_nonneg_right
    (mul_le_mul_of_nonpos_right (cast_units_le haa) hb') SCALE_pos_rat.le)

theorem scaled_le (haa : a ≤ a') : (a.units * SCALE : ℚ) ≤ a'.units * SCALE :=
  mul_le_mul_of_nonneg_right (cast_units_le haa) SCALE_pos_rat.le

theorem div_le_of_pos (haa : a ≤ a') (hb : 0 < b.units) :
    QuotientLe (a.div b mode) (a'.div b mode) := by
  apply quotientLe_of_exact
  intro _ _
  have hb' : (0 : ℚ) < b.units := by exact_mod_cast hb
  exact div_le_div_of_nonneg_right (scaled_le haa) hb'.le

theorem div_le_of_neg (haa : a ≤ a') (hb : b.units < 0) :
    QuotientLe (a'.div b mode) (a.div b mode) := by
  apply quotientLe_of_exact
  intro _ _
  have hb' : (b.units : ℚ) < 0 := by exact_mod_cast hb
  exact div_le_div_of_nonpos_of_le hb'.le (scaled_le haa)

theorem one_div_units_le (hbb : b ≤ b') (hside : 0 < b.units ∨ b'.units < 0) :
    1 / (b'.units : ℚ) ≤ 1 / b.units := by
  rcases hside with hb | hb
  · exact one_div_le_one_div_of_le (by exact_mod_cast hb) (cast_units_le hbb)
  · exact one_div_le_one_div_of_neg_of_le (by exact_mod_cast hb) (cast_units_le hbb)

theorem div_le_of_dividend_nonneg (hbb : b ≤ b') (hside : 0 < b.units ∨ b'.units < 0)
    (ha : 0 ≤ a.units) : QuotientLe (a.div b' mode) (a.div b mode) := by
  apply quotientLe_of_exact
  intro _ _
  have ha' : (0 : ℚ) ≤ a.units * SCALE :=
    Rat.mul_nonneg (by exact_mod_cast ha) SCALE_pos_rat.le
  rw [div_eq_mul_one_div, div_eq_mul_one_div _ (b.units : ℚ)]
  exact mul_le_mul_of_nonneg_left (one_div_units_le hbb hside) ha'

theorem div_le_of_dividend_nonpos (hbb : b ≤ b') (hside : 0 < b.units ∨ b'.units < 0)
    (ha : a.units ≤ 0) : QuotientLe (a.div b mode) (a.div b' mode) := by
  apply quotientLe_of_exact
  intro _ _
  have ha' : (a.units * SCALE : ℚ) ≤ 0 :=
    mul_nonpos_of_nonpos_of_nonneg (by exact_mod_cast ha) SCALE_pos_rat.le
  rw [div_eq_mul_one_div, div_eq_mul_one_div _ (b'.units : ℚ)]
  exact mul_le_mul_of_nonpos_left (one_div_units_le hbb hside) ha'

end Order

/-- How products and quotients follow their arguments, in either mode. -/
structure KeepsOrder (mode : RoundingMode) : Prop where
  mul_left : ∀ a a' b : Dec, a ≤ a' →
    (0 ≤ b.units → LeWhenOk (a.mul b mode) (a'.mul b mode)) ∧
      (b.units ≤ 0 → LeWhenOk (a'.mul b mode) (a.mul b mode))
  mul_right : ∀ a a' b : Dec, a ≤ a' →
    (0 ≤ b.units → LeWhenOk (b.mul a mode) (b.mul a' mode)) ∧
      (b.units ≤ 0 → LeWhenOk (b.mul a' mode) (b.mul a mode))
  dividend : ∀ a a' b : Dec, a ≤ a' →
    (0 < b.units → QuotientLe (a.div b mode) (a'.div b mode)) ∧
      (b.units < 0 → QuotientLe (a'.div b mode) (a.div b mode))
  divisor : ∀ a b b' : Dec, b ≤ b' → 0 < b.units ∨ b'.units < 0 →
    (0 ≤ a.units → QuotientLe (a.div b' mode) (a.div b mode)) ∧
      (a.units ≤ 0 → QuotientLe (a.div b mode) (a.div b' mode))

theorem keepsOrder (mode : RoundingMode) : KeepsOrder mode where
  mul_left _ _ _ haa := ⟨mul_le_of_nonneg mode haa, mul_le_of_nonpos mode haa⟩
  mul_right a a' b haa := by
    rw [mul_comm b a, mul_comm b a']
    exact ⟨mul_le_of_nonneg mode haa, mul_le_of_nonpos mode haa⟩
  dividend _ _ _ haa := ⟨div_le_of_pos mode haa, div_le_of_neg mode haa⟩
  divisor _ _ _ hbb hside :=
    ⟨div_le_of_dividend_nonneg mode hbb hside, div_le_of_dividend_nonpos mode hbb hside⟩

/-! ## Multiples of a step -/

theorem isGreatest_multiple (u : ℤ) {s : ℤ} (hs : 0 < s) :
    IsGreatest {m | s ∣ m ∧ m ≤ u} (u / s * s) := by
  refine ⟨⟨dvd_mul_left s _, Int.ediv_mul_le u hs.ne'⟩, ?_⟩
  rintro m ⟨⟨k, rfl⟩, hle⟩
  have hk : k ≤ u / s := by
    rw [Int.le_ediv_iff_mul_le hs, Int.mul_comm]
    exact hle
  rw [Int.mul_comm s k]
  exact Int.mul_le_mul_of_nonneg_right hk hs.le

/-- What `floorToStep` returns: nothing for a step that is not positive, else the greatest
    multiple below the value when it is in range. -/
structure FloorsToStep (a step : Dec) : Prop where
  none : step.units ≤ 0 → a.floorToStep step = .ok none
  greatest : 0 < step.units → ∃ z, IsGreatest {m | step.units ∣ m ∧ m ≤ a.units} z ∧
    a.floorToStep step = (ofUnits z).map some

theorem floorsToStep (a step : Dec) : FloorsToStep a step where
  none hstep := by
    unfold floorToStep
    rw [if_neg]
    rw [isPositive_iff]
    omega
  greatest hstep := by
    refine ⟨_, isGreatest_multiple a.units hstep, ?_⟩
    unfold floorToStep
    rw [if_pos (isPositive_iff.mpr hstep), divFloor_of_pos _ hstep]
    rfl

/-- **The rounding helpers round exactly**, products and quotients keep the order on each side
    of zero, and a value is floored to its greatest multiple of the step. -/
theorem roundings_correct :
    (∀ n d : ℤ, d ≠ 0 → RoundsQuotient n d) ∧ (∀ mode, KeepsOrder mode) ∧
      ∀ a step : Dec, FloorsToStep a step :=
  ⟨fun n _ hd => roundsQuotient n hd, keepsOrder, floorsToStep⟩

theorem roundings_correct_minus_two_halves :
    RoundsQuotient (-5) 2 ∧ KeepsOrder .down ∧ FloorsToStep hundred ⟨-SCALE, by decide⟩ :=
  ⟨roundings_correct.1 (-5) 2 (by decide), roundings_correct.2.1 .down,
    roundings_correct.2.2 hundred _⟩

/-- Across a zero divisor a quotient of `1` first rises (`1 / -1`, `1 / 1`) and then falls
    (`1 / 2`); the greatest multiple of a step can lie below the range. -/
theorem div_turns_at_zero :
    (¬ ∀ b b' : Dec, b ≤ b' →
        QuotientLe ((⟨SCALE, by decide⟩ : Dec).div b) ((⟨SCALE, by decide⟩ : Dec).div b')) ∧
      (¬ ∀ b b' : Dec, b ≤ b' →
        QuotientLe ((⟨SCALE, by decide⟩ : Dec).div b') ((⟨SCALE, by decide⟩ : Dec).div b)) ∧
      (⟨-10 ^ 28, by decide⟩ : Dec).floorToStep ⟨3, by decide⟩ = .error .overflow := by
  refine ⟨fun h => ?_, fun h => ?_, by decide⟩
  · have := h ⟨SCALE, by decide⟩ ⟨2 * SCALE, by decide⟩ (by decide) ⟨SCALE, by decide⟩
      ⟨SCALE / 2, by decide⟩ (by decide) (by decide)
    exact absurd this (by decide)
  · have := h ⟨-SCALE, by decide⟩ ⟨SCALE, by decide⟩ (by decide) ⟨SCALE, by decide⟩
      ⟨-SCALE, by decide⟩ (by decide) (by decide)
    exact absurd this (by decide)

end Dec

end VeltrixEye
