import Mathlib

/-!
# Prices of the concrete positions

They fit a column of twenty-four digits.
-/

namespace VeltrixEye

theorem price_105_fits : (105 * 10 ^ 8 : ℤ).natAbs < 10 ^ 24 := by decide

theorem price_109_fits : (109 * 10 ^ 8 : ℤ).natAbs < 10 ^ 24 := by decide

theorem price_11_fits : (11 * 10 ^ 9 : ℤ).natAbs < 10 ^ 24 := by decide

theorem price_12_fits : (12 * 10 ^ 9 : ℤ).natAbs < 10 ^ 24 := by decide

end VeltrixEye
