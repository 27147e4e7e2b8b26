import VeltrixEye.Lib.Rounding

/-!
# JavaScript numbers and Postgres numerics

* `Numeric p s` — a `numeric(p, s)` column value: an integer count of `10^-s` units below the
  precision bound.  `Numeric.ofRat?` is the write (round half away from zero, error on overflow).
-/

namespace VeltrixEye

/-- A JavaScript number; `-0` is identified with `0`. -/
inductive JsNumber where
  | nan
  | posInf
  | negInf
  | fin (q : ℚ)
  deriving DecidableEq

namespace JsNumber

instance : Coe ℚ JsNumber := ⟨fin⟩

instance (n : ℕ) [n.AtLeastTwo] : OfNat JsNumber n := ⟨fin (OfNat.ofNat n)⟩

instance : Zero JsNumber := ⟨fin 0⟩

instance : One JsNumber := ⟨fin 1⟩

def isFinite : JsNumber → Bool
  | fin _ => true
  | _ => false

def isInteger : JsNumber → Bool
  | fin q => q.den == 1
  | _ => false

/-- `a < b`; every comparison with `NaN` is false. -/
def lt : JsNumber → JsNumber → Bool
  | fin a, fin b => a < b
  | fin _, posInf => true
  | negInf, fin _ => true
  | negInf, posInf => true
  | _, _ => false

/-- `a <= b`. -/
def le : JsNumber → JsNumber → Bool
  | nan, _ => false
  | _, nan => false
  | a, b => !lt b a

/-- Truthiness of a number: `0` and `NaN` are falsy. -/
def truthy : JsNumber → Bool
  | nan => false
  | fin q => q != 0
  | _ => true

/-- `Math.min` of two arguments. -/
def min : JsNumber → JsNumber → JsNumber
  | nan, _ => nan
  | _, nan => nan
  | a, b => if lt b a then b else a

/-- `Math.max` of two arguments. -/
def max : JsNumber → JsNumber → JsNumber
  | nan, _ => nan
  | _, nan => nan
  | a, b => if lt a b then b else a

/-- `-a`. -/
def neg : JsNumber → JsNumber
  | nan => nan
  | posInf => negInf
  | negInf => posInf
  | fin q => fin (-q)

/-- `a + b`. -/
def add : JsNumber → JsNumber → JsNumber
  | fin a, fin b => fin (a + b)
  | posInf, fin _ => posInf
  | fin _, posInf => posInf
  | posInf, posInf => posInf
  | negInf, fin _ => negInf
  | fin _, negInf => negInf
  | negInf, negInf => negInf
  | _, _ => nan

/-- `a - b`. -/
def sub (a b : JsNumber) : JsNumber := add a (neg b)

/-- The infinity with the sign of `q`, or `NaN` for zero. -/
def infOfSign (q : ℚ) : JsNumber :=
  if 0 < q then posInf else if q < 0 then negInf else nan

/-- `a * b`. -/
def mul : JsNumber → JsNumber → JsNumber
  | fin a, fin b => fin (a * b)
  | posInf, fin q => infOfSign q
  | fin q, posInf => infOfSign q
  | negInf, fin q => infOfSign (-q)
  | fin q, negInf => infOfSign (-q)
  | posInf, posInf => posInf
  | negInf, negInf => posInf
  | posInf, negInf => negInf
  | negInf, posInf => negInf
  | _, _ => nan

/-- `a / b`; a zero divisor is `+0`. -/
def div : JsNumber → JsNumber → JsNumber
  | fin a, fin b => if b = 0 then infOfSign a else fin (a / b)
  | fin _, posInf => 0
  | fin _, negInf => 0
  | posInf, fin q => if q < 0 then negInf else posInf
  | negInf, fin q => if q < 0 then posInf else negInf
  | _, _ => nan

def abs : JsNumber → JsNumber
  | nan => nan
  | fin q => fin |q|
  | _ => posInf

/-- `Math.round`: an exact half goes up. -/
def round : JsNumber → JsNumber
  | fin q => fin ⌊q + 1 / 2⌋
  | x => x

@[simp] theorem sub_fin (a b : ℚ) : sub (fin a) (fin b) = fin (a - b) := by
  simp [sub, neg, add, sub_eq_add_neg]

@[simp] theorem abs_fin (a : ℚ) : abs (fin a) = fin |a| := rfl

@[simp] theorem lt_fin (a b : ℚ) : lt (fin a) (fin b) = decide (a < b) := rfl

@[simp] theorem le_fin (a b : ℚ) : le (fin a) (fin b) = decide (a ≤ b) := by
  simp [le, lt, ← not_lt]

@[simp] theorem min_fin (a b : ℚ) : min (fin a) (fin b) = fin (Min.min a b) := by
  simp only [min, lt_fin, decide_eq_true_eq]
  split
  · rename_i h
    rw [min_eq_right h.le]
  · rename_i h
    rw [min_eq_left (not_lt.mp h)]

@[simp] theorem max_fin (a b : ℚ) : max (fin a) (fin b) = fin (Max.max a b) := by
  simp only [max, lt_fin, decide_eq_true_eq]
  split
  · rename_i h
    rw [max_eq_right h.le]
  · rename_i h
    rw [max_eq_left (not_lt.mp h)]

/-- `x.toFixed(digits)` as an integer count of `10^-digits` units: the nearest one, an exact
    half going away from zero. -/
def toFixedUnits (digits : ℕ) (q : ℚ) : ℤ := Rounding.halfAway (q * 10 ^ digits)

end JsNumber

/-! ## Postgres `numeric(p, s)` -/

/-- A `numeric(p, s)` value: `units * 10^-s` with fewer than `p` digits in `units`. -/
structure Numeric (p s : ℕ) where
  units : ℤ
  bound : units.natAbs < 10 ^ p
  deriving DecidableEq

namespace Numeric

variable {p s : ℕ}

/-- The stored value as an exact number. -/
def toRat (x : Numeric p s) : ℚ := x.units / 10 ^ s

/-- A value counted in units, when it fits the column. -/
def ofUnits? (p s : ℕ) (u : ℤ) : Option (Numeric p s) :=
  if h : u.natAbs < 10 ^ p then some ⟨u, h⟩ else none

/-- Writing a number to the column: rounded half away from zero to `s` decimals; `none` is the
    numeric field overflow error. -/
def ofRat? (p s : ℕ) (q : ℚ) : Option (Numeric p s) :=
  ofUnits? p s (Rounding.halfAway (q * 10 ^ s))

instance : Zero (Numeric p s) := ⟨⟨0, by simp⟩⟩

@[ext] theorem ext {x y : Numeric p s} (h : x.units = y.units) : x = y := by
  obtain ⟨u, hu⟩ := x
  obtain ⟨v, hv⟩ := y
  cases h
  rfl

@[simp] theorem units_zero : (0 : Numeric p s).units = 0 := rfl

@[simp] theorem toRat_zero : (0 : Numeric p s).toRat = 0 := by simp [toRat]

theorem ofUnits?_eq_some {u : ℤ} {x : Numeric p s} : ofUnits? p s u = some x ↔ x.units = u := by
  unfold ofUnits?
  split
  · rename_i h
    rw [Option.some.injEq]
    exact ⟨fun e => e ▸ rfl, fun e => ext e.symm⟩
  · rename_i h
    constructor
    · intro e
      cases e
    · intro e
      rw [← e] at h
      exact absurd x.bound h

theorem ofRat?_eq_some {q : ℚ} {x : Numeric p s} :
    ofRat? p s q = some x ↔ x.units = Rounding.halfAway (q * 10 ^ s) := ofUnits?_eq_some

theorem units_of_ofRat?_div {u : ℤ} {x : Numeric p s} (h : ofRat? p s (u / 10 ^ s) = some x) :
    x.units = u := by
  rw [ofRat?_eq_some] at h
  have hs : (10 : ℚ) ^ s ≠ 0 := by positivity
  rw [h, div_mul_cancel₀ _ hs, Rounding.halfAway_intCast]

theorem toRat_mul_pow (x : Numeric p s) : x.toRat * 10 ^ s = x.units := by
  unfold toRat
  exact div_mul_cancel₀ _ (by positivity)

theorem toRat_eq_iff {x y : Numeric p s} : x.toRat = y.toRat ↔ x = y := by
  refine ⟨fun h => ?_, fun h => h ▸ rfl⟩
  have := congrArg (· * (10 : ℚ) ^ s) h
  simp only [toRat_mul_pow] at this
  exact ext (by exact_mod_cast this)

/-- A number with at most `s` decimals. -/
def OnGrid (s : ℕ) (q : ℚ) : Prop := ∃ u : ℤ, q = u / 10 ^ s

theorem onGrid_toRat (x : Numeric p s) : OnGrid s x.toRat := ⟨x.units, rfl⟩

theorem OnGrid.add {q r : ℚ} (hq : OnGrid s q) (hr : OnGrid s r) : OnGrid s (q + r) := by
  obtain ⟨u, rfl⟩ := hq
  obtain ⟨v, rfl⟩ := hr
  exact ⟨u + v, by push_cast; ring⟩

theorem OnGrid.max {q r : ℚ} (hq : OnGrid s q) (hr : OnGrid s r) : OnGrid s (Max.max q r) := by
  rcases max_choice q r with h | h <;> rw [h] <;> assumption

theorem OnGrid.ite {q r : ℚ} {c : Prop} [Decidable c] (hq : OnGrid s q) (hr : OnGrid s r) :
    OnGrid s (if c then q else r) := by
  split <;> assumption

theorem toRat_of_ofRat? {q : ℚ} {x : Numeric p s} (hq : OnGrid s q) (h : ofRat? p s q = some x) :
    x.toRat = q := by
  obtain ⟨u, rfl⟩ := hq
  unfold toRat
  rw [units_of_ofRat?_div h]

theorem abs_units_lt (x : Numeric p s) : |x.units| < 10 ^ p := by
  have := x.bound
  rw [Int.abs_eq_natAbs]
  exact_mod_cast this

end Numeric

end VeltrixEye
