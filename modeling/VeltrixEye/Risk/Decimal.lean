import VeltrixEye.Lib.Runs
import VeltrixEye.Number

/-!
# Fixed-scale decimals (`risk/decimal.ts`)

`Dec` holds an integer count of `10^-10` units with `|units| ≤ 10^28`; every operation that
builds a new value goes through `Dec.ofUnits` (`new Dec(units)`) and fails with
`DecimalOverflowError` outside that range.
-/

namespace VeltrixEye

inductive DecimalOverflowError where
  | overflow
  deriving DecidableEq

/-- A calculation that may throw `DecimalOverflowError`. -/
abbrev Calc := Except DecimalOverflowError

def DEC_SCALE : ℕ := 10

def SCALE : ℤ := 10 ^ DEC_SCALE

def MAX_ABS : ℕ := 10 ^ 28

inductive RoundingMode where
  | down
  | halfEven

/-- Truncating division adjusted toward `−∞`. -/
def divFloor (n d : ℤ) : Calc ℤ :=
  if d = 0 then .error .overflow
  else
    let q := n.tdiv d
    let r := n.tmod d
    if r = 0 then .ok q
    else if (n < 0 ∧ 0 < d) ∨ (0 < n ∧ d < 0) then .ok (q - 1)
    else .ok q

/-- `divRound`: truncation, or nearest with an exact half resolved to the even quotient. -/
def divRound (n d : ℤ) (rounding : RoundingMode) : Calc ℤ :=
  if d = 0 then .error .overflow
  else
    match rounding with
    | .down => .ok (n.tdiv d)
    | .halfEven =>
      let sign : ℤ := if decide (n < 0) != decide (d < 0) then -1 else 1
      let an := |n|
      let ad := |d|
      let q := an / ad
      let r := an % ad
      if r = 0 then .ok (sign * q)
      else
        let twice := r * 2
        if ad < twice then .ok (sign * (q + 1))
        else if twice < ad then .ok (sign * q)
        else .ok (sign * (if q % 2 = 0 then q else q + 1))

/-- `class Dec`: a scaled integer inside the overflow bound. -/
structure Dec where
  units : ℤ
  bounded : units.natAbs ≤ MAX_ABS
  deriving DecidableEq

namespace Dec

/-- `new Dec(units)`. -/
def ofUnits (u : ℤ) : Calc Dec :=
  if h : u.natAbs ≤ MAX_ABS then .ok ⟨u, h⟩ else .error .overflow

def zero : Dec := ⟨0, by decide⟩

/-- `DEC_HUNDRED`. -/
def hundred : Dec := ⟨100 * SCALE, by decide⟩

/-- `Dec.fromNumber`: the decimal string `x.toFixed(10)` parsed back; more than 18 integer
    digits (or a non-finite number) gives `null`. -/
def fromNumber : JsNumber → Option Dec
  | .fin q =>
    let u := JsNumber.toFixedUnits DEC_SCALE q
    if h : u.natAbs < MAX_ABS then some ⟨u, h.le⟩ else none
  | _ => none

/-- `Dec.fromUnknown` on the text of a `numeric(p, s)` value with `s ≤ 10`. -/
def fromUnknown {p s : ℕ} (x : Numeric p s) : Option Dec :=
  let u := x.units * 10 ^ (DEC_SCALE - s)
  if h : u.natAbs < MAX_ABS then some ⟨u, h.le⟩ else none

def isPositive (a : Dec) : Bool := 0 < a.units

def isNegative (a : Dec) : Bool := a.units < 0

def neg (a : Dec) : Dec := ⟨-a.units, by rw [Int.natAbs_neg]; exact a.bounded⟩

def abs (a : Dec) : Dec := ⟨|a.units|, by rw [Int.natAbs_abs]; exact a.bounded⟩

def add (a b : Dec) : Calc Dec := ofUnits (a.units + b.units)

def sub (a b : Dec) : Calc Dec := ofUnits (a.units - b.units)

def mul (a b : Dec) (rounding : RoundingMode := .halfEven) : Calc Dec := do
  let u ← divRound (a.units * b.units) SCALE rounding
  ofUnits u

/-- `div`: `null` on division by zero. -/
def div (a b : Dec) (rounding : RoundingMode := .halfEven) : Calc (Option Dec) :=
  if b.units = 0 then .ok none
  else do
    let u ← divRound (a.units * SCALE) b.units rounding
    let d ← ofUnits u
    return some d

/-- `floorToStep`: the largest multiple of a positive step below the value. -/
def floorToStep (a step : Dec) : Calc (Option Dec) :=
  if step.isPositive then do
    let q ← divFloor a.units step.units
    let d ← ofUnits (q * step.units)
    return some d
  else .ok none

/-- `roundTo(digits, rounding)` for `digits ≤ 10`. -/
def roundTo (a : Dec) (digits : ℕ) (rounding : RoundingMode) : Calc Dec := do
  let d := Nat.min DEC_SCALE digits
  let factor : ℤ := 10 ^ (DEC_SCALE - d)
  let q ← divRound a.units factor rounding
  ofUnits (q * factor)

/-- The exact value, as `toNumber(10)` reads it. -/
def toRat (a : Dec) : ℚ := a.units / SCALE

@[ext] theorem ext {a b : Dec} (h : a.units = b.units) : a = b := by
  obtain ⟨u, hu⟩ := a
  obtain ⟨v, hv⟩ := b
  cases h
  rfl

/-- `cmp`, `lt`, `lte`, `min` … compare the units. -/
instance : LinearOrder Dec := LinearOrder.lift' Dec.units fun _ _ h => ext h

theorem le_def {a b : Dec} : a ≤ b ↔ a.units ≤ b.units := Iff.rfl

theorem lt_def {a b : Dec} : a < b ↔ a.units < b.units := Iff.rfl

@[simp] theorem units_zero : zero.units = 0 := rfl

@[simp] theorem isPositive_iff {a : Dec} : a.isPositive = true ↔ 0 < a.units := by
  simp [isPositive]

@[simp] theorem isNegative_iff {a : Dec} : a.isNegative = true ↔ a.units < 0 := by
  simp [isNegative]

@[simp] theorem units_abs (a : Dec) : a.abs.units = |a.units| := rfl

/-! ## Construction and sums -/

theorem fromNumber_eq_some {q : ℚ} {d : Dec} (h : fromNumber (.fin q) = some d) :
    d.units = Rounding.halfAway (q * 10 ^ DEC_SCALE) := by
  simp only [fromNumber] at h
  split at h
  · cases h
    rfl
  · cases h

theorem toRat_mul_scale (d : Dec) : d.toRat * 10 ^ DEC_SCALE = d.units := by
  unfold toRat SCALE
  push_cast
  exact div_mul_cancel₀ _ (by positivity)

theorem fromNumber_toRat_dec {d d' : Dec} (h : fromNumber (.fin d.toRat) = some d') : d' = d := by
  apply Dec.ext
  rw [fromNumber_eq_some h, toRat_mul_scale, Rounding.halfAway_intCast]

theorem fromUnknown_spec {p s : ℕ} (hp : p + (DEC_SCALE - s) ≤ 28) (x : Numeric p s) :
    ∃ d, fromUnknown x = some d ∧ d.units = x.units * 10 ^ (DEC_SCALE - s) := by
  have hb : (x.units * 10 ^ (DEC_SCALE - s)).natAbs < MAX_ABS := by
    rw [Int.natAbs_mul, Int.natAbs_pow]
    calc x.units.natAbs * 10 ^ (DEC_SCALE - s)
        < 10 ^ p * 10 ^ (DEC_SCALE - s) := Nat.mul_lt_mul_of_pos_right x.bound (by positivity)
      _ = 10 ^ (p + (DEC_SCALE - s)) := (pow_add _ _ _).symm
      _ ≤ MAX_ABS := Nat.pow_le_pow_right (by norm_num) hp
  refine ⟨⟨_, hb.le⟩, ?_, rfl⟩
  unfold fromUnknown
  rw [dif_pos hb]

theorem toRat_fromUnknown {p s : ℕ} (hs : s ≤ DEC_SCALE) {x : Numeric p s} {d : Dec}
    (h : fromUnknown x = some d) : d.toRat = x.toRat := by
  simp only [fromUnknown] at h
  split at h
  · cases h
    unfold toRat Numeric.toRat
    have : (SCALE : ℚ) = 10 ^ s * 10 ^ (DEC_SCALE - s) := by
      rw [← pow_add, Nat.add_sub_cancel' hs]
      norm_num [SCALE]
    rw [this]
    push_cast
    exact mul_div_mul_right _ _ (by positivity)
  · cases h

theorem fromNumber_toRat {p s : ℕ} (hs : s ≤ DEC_SCALE) (x : Numeric p s) :
    fromNumber (.fin x.toRat) = fromUnknown x := by
  have hu : JsNumber.toFixedUnits DEC_SCALE x.toRat = x.units * 10 ^ (DEC_SCALE - s) := by
    unfold JsNumber.toFixedUnits
    have : x.toRat * 10 ^ DEC_SCALE = ((x.units * 10 ^ (DEC_SCALE - s) : ℤ) : ℚ) := by
      rw [← Nat.add_sub_cancel' hs, pow_add, ← mul_assoc, Numeric.toRat_mul_pow, Nat.add_sub_cancel' hs]
      push_cast
      rfl
    rw [this, Rounding.halfAway_intCast]
  unfold fromNumber fromUnknown
  simp only [hu]

theorem ofUnits_ok {u : ℤ} {d : Dec} : ofUnits u = .ok d ↔ d.units = u := by
  unfold ofUnits
  split
  · rename_i h
    rw [Except.ok.injEq]
    exact ⟨fun e => e ▸ rfl, fun e => ext e.symm⟩
  · rename_i h
    constructor
    · intro e
      cases e
    · intro e
      rw [← e] at h
      exact absurd d.bounded h

@[simp] theorem add_ok {a b d : Dec} : a.add b = .ok d ↔ d.units = a.units + b.units := ofUnits_ok

@[simp] theorem sub_ok {a b d : Dec} : a.sub b = .ok d ↔ d.units = a.units - b.units := ofUnits_ok

theorem exists_ofUnits_ok {u : ℤ} (h : u.natAbs ≤ MAX_ABS) : ∃ d, ofUnits u = .ok d :=
  ⟨⟨u, h⟩, ofUnits_ok.mpr rfl⟩

/-! ## Rounded quotients -/

theorem SCALE_pos : (0 : ℤ) < SCALE := by decide

/-- The half-even branch on non-negative arguments: quotient, remainder and tie rule give the
    nearest-even integer. -/
theorem isNearestEven_ediv {n d : ℤ} (hd : 0 < d) :
    Rounding.IsNearestEven ((n : ℚ) / d)
      (if n % d = 0 then n / d
       else if d < n % d * 2 then n / d + 1
       else if n % d * 2 < d then n / d
       else if n / d % 2 = 0 then n / d else n / d + 1) := by
  have hdq : (0 : ℚ) < d := by exact_mod_cast hd
  have hn : (n : ℚ) = d * (n / d : ℤ) + (n % d : ℤ) := by
    exact_mod_cast (Int.mul_ediv_add_emod n d).symm
  have hquot : (n : ℚ) / d = (n / d : ℤ) + (n % d : ℤ) / d := by
    rw [hn]
    field_simp
  have hr0 : (0 : ℚ) ≤ (n % d : ℤ) := by exact_mod_cast Int.emod_nonneg n hd.ne'
  have hfrac0 : (0 : ℚ) ≤ (n % d : ℤ) / d := div_nonneg hr0 hdq.le
  have hfrac1 : ((n % d : ℤ) : ℚ) / d < 1 := by
    rw [div_lt_one hdq]
    exact_mod_cast Int.emod_lt_of_pos n hd
  rw [hquot]
  set f : ℚ := ((n % d : ℤ) : ℚ) / d with hf
  have hup : ((n / d : ℤ) : ℚ) + f - ((n / d + 1 : ℤ) : ℚ) = -(1 - f) := by push_cast; ring
  unfold Rounding.IsNearestEven
  split_ifs with hz hgt hlt hev
  · have : f = 0 := by rw [hf, hz]; simp
    rw [this]
    simp
  · have : 1 / 2 < f := by
      rw [hf, lt_div_iff₀ hdq]
      have : (d : ℚ) < (n % d : ℤ) * 2 := by exact_mod_cast hgt
      linarith
    rw [hup, abs_neg, abs_of_nonneg (by linarith)]
    exact ⟨by linarith, fun h => by linarith⟩
  · have : f < 1 / 2 := by
      rw [hf, div_lt_iff₀ hdq]
      have : ((n % d : ℤ) : ℚ) * 2 < d := by exact_mod_cast hlt
      linarith
    rw [add_sub_cancel_left, abs_of_nonneg hfrac0]
    exact ⟨this.le, fun h => absurd h this.ne⟩
  · have hle : f ≤ 1 / 2 := by
      rw [hf, div_le_iff₀ hdq]
      have : ((n % d : ℤ) : ℚ) * 2 ≤ d := by exact_mod_cast not_lt.mp hgt
      linarith
    rw [add_sub_cancel_left, abs_of_nonneg hfrac0]
    exact ⟨hle, fun _ => Int.even_iff.mpr hev⟩
  · have hge : 1 / 2 ≤ f := by
      rw [hf, le_div_iff₀ hdq]
      have : (d : ℚ) ≤ (n % d : ℤ) * 2 := by exact_mod_cast not_lt.mp hlt
      linarith
    rw [hup, abs_neg, abs_of_nonneg (by linarith)]
    exact ⟨by linarith, fun _ => (Int.not_even_iff_odd.mp fun h => hev (Int.even_iff.mp h)).add_one⟩

/-- **`divRound` is the nearest-even rounding of the exact quotient**, for every sign. -/
theorem divRound_halfEven (n : ℤ) {d : ℤ} (hd : d ≠ 0) :
    divRound n d .halfEven = .ok (Rounding.halfEven ((n : ℚ) / d)) := by
  have habs := isNearestEven_ediv (n := |n|) (abs_pos.mpr hd)
  rw [← Rounding.halfEven_eq_iff] at habs
  have hsign : Rounding.halfEven ((n : ℚ) / d) =
      (if decide (n < 0) != decide (d < 0) then -1 else 1) *
        Rounding.halfEven ((|n| : ℤ) / (|d| : ℤ) : ℚ) := by
    have hq : ((n : ℚ) / d) =
        (if decide (n < 0) != decide (d < 0) then -1 else 1) * ((|n| : ℤ) / (|d| : ℤ) : ℚ) := by
      rcases lt_or_ge n 0 with hn | hn <;> rcases lt_or_gt_of_ne hd with hd' | hd'
      · simp [hn, hd', abs_of_neg, neg_div_neg_eq]
      · simp [hn, abs_of_neg hn, abs_of_pos hd', not_lt.mpr hd'.le, neg_div]
      · simp [hd', abs_of_neg hd', abs_of_nonneg hn, not_lt.mpr hn, div_neg]
      · simp [abs_of_pos hd', abs_of_nonneg hn, not_lt.mpr hn, not_lt.mpr hd'.le]
    rw [hq]
    split_ifs
    · rw [neg_one_mul, Rounding.halfEven_neg, neg_one_mul]
    · rw [one_mul, one_mul]
  rw [hsign, habs]
  unfold divRound
  rw [if_neg hd]
  simp only
  split_ifs <;> rfl

theorem divRound_down (n : ℤ) {d : ℤ} (hd : d ≠ 0) : divRound n d .down = .ok (n.tdiv d) := by
  unfold divRound
  rw [if_neg hd]

theorem divFloor_of_pos (n : ℤ) {d : ℤ} (hd : 0 < d) : divFloor n d = .ok (n / d) := by
  unfold divFloor
  rw [if_neg hd.ne']
  simp only [Int.tdiv_eq_ediv, Int.sign_eq_one_of_pos hd]
  have hr : n.tmod d = 0 ↔ d ∣ n := ⟨Int.dvd_of_tmod_eq_zero, Int.tmod_eq_zero_of_dvd⟩
  by_cases hdvd : d ∣ n
  · simp [hr.mpr hdvd, hdvd]
  · rw [if_neg (fun h => hdvd (hr.mp h))]
    by_cases hn : 0 ≤ n
    · rw [if_neg (by omega), if_pos (.inl hn), add_zero]
    · rw [if_pos (.inl ⟨by omega, hd⟩), if_neg (by tauto)]
      simp

theorem floorToStep_ok {a step d : Dec} (h : a.floorToStep step = .ok (some d)) :
    0 < step.units ∧ d.units = a.units / step.units * step.units := by
  unfold floorToStep at h
  split at h
  · rename_i hpos
    rw [isPositive_iff] at hpos
    rw [divFloor_of_pos _ hpos] at h
    simp only [Except.bind_ok_iff, ofUnits_ok] at h
    obtain ⟨q, hq, e, he, hd⟩ := h
    cases hq
    cases hd
    exact ⟨hpos, he⟩
  · cases h

theorem div_down_ok {a b d : Dec} (ha : 0 ≤ a.units) (h : a.div b .down = .ok (some d)) :
    d.units = a.units * SCALE / b.units := by
  unfold div at h
  split at h
  · cases h
  rename_i hb
  rw [divRound_down _ hb] at h
  simp only [Except.bind_ok_iff, ofUnits_ok] at h
  obtain ⟨q, hq, e, he, hd⟩ := h
  cases hq
  cases hd
  rw [he, Int.tdiv_eq_ediv_of_nonneg (Int.mul_nonneg ha SCALE_pos.le)]

theorem mul_ok {a b d : Dec} :
    a.mul b = .ok d ↔ d.units = Rounding.halfEven (((a.units * b.units : ℤ) : ℚ) / SCALE) := by
  unfold mul
  rw [divRound_halfEven _ SCALE_pos.ne']
  exact ofUnits_ok

/-- A successful quotient by a non-zero divisor is the nearest-even rounding of the exact one. -/
theorem div_ok {a b : Dec} (hb : b.units ≠ 0) {r : Option Dec} :
    a.div b = .ok r ↔
      ∃ d, r = some d ∧ d.units = Rounding.halfEven (((a.units * SCALE : ℤ) : ℚ) / b.units) := by
  unfold div
  rw [if_neg hb, divRound_halfEven _ hb]
  simp only [Except.bind_ok_iff, ofUnits_ok]
  constructor
  · rintro ⟨_, hu, d, hd, hr⟩
    cases hu
    cases hr
    exact ⟨d, rfl, hd⟩
  · rintro ⟨d, rfl, hd⟩
    exact ⟨_, rfl, d, hd, rfl⟩

theorem roundTo_ok {a d : Dec} {digits : ℕ} :
    a.roundTo digits .halfEven = .ok d ↔
      d.units = Rounding.halfEven ((a.units : ℚ) / (10 ^ (DEC_SCALE - Nat.min DEC_SCALE digits) : ℤ)) *
        10 ^ (DEC_SCALE - Nat.min DEC_SCALE digits) := by
  unfold roundTo
  simp only
  rw [divRound_halfEven _ (by positivity)]
  exact ofUnits_ok

theorem toRat_pos {a : Dec} : 0 < a.toRat ↔ 0 < a.units := by
  unfold toRat
  rw [div_pos_iff_of_pos_right (by exact_mod_cast SCALE_pos)]
  exact_mod_cast Iff.rfl

theorem toRat_lt {a b : Dec} : a.toRat < b.toRat ↔ a.units < b.units := by
  unfold toRat
  rw [div_lt_div_iff_of_pos_right (by exact_mod_cast SCALE_pos)]
  exact_mod_cast Iff.rfl

theorem mul_nonneg {a b d : Dec} (ha : 0 ≤ a.units) (hb : 0 ≤ b.units) (h : a.mul b = .ok d) :
    0 ≤ d.units := by
  rw [mul_ok] at h
  rw [h]
  apply Rounding.halfEven_nonneg
  have : (0 : ℚ) ≤ ((a.units * b.units : ℤ) : ℚ) := by exact_mod_cast Int.mul_nonneg ha hb
  exact div_nonneg this (by exact_mod_cast SCALE_pos.le)

/-- Products of non-negative values are monotone in both factors. -/
theorem mul_mono {a a' b b' d d' : Dec} (hb : 0 ≤ b.units) (ha : 0 ≤ a.units)
    (haa : a.units ≤ a'.units) (hbb : b.units ≤ b'.units) (h : a.mul b = .ok d)
    (h' : a'.mul b' = .ok d') : d.units ≤ d'.units := by
  rw [mul_ok] at h h'
  rw [h, h']
  apply Rounding.halfEven_mono
  have hs : (0 : ℚ) < SCALE := by exact_mod_cast SCALE_pos
  have hle : ((a.units * b.units : ℤ) : ℚ) ≤ ((a'.units * b'.units : ℤ) : ℚ) := by
    exact_mod_cast Int.mul_le_mul haa hbb hb (ha.trans haa)
  exact (div_le_div_iff_of_pos_right hs).mpr hle

end Dec

end VeltrixEye
