import VeltrixEye.Billing.Contracts
import VeltrixEye.Risk.Decimal

/-!
# Decimals as text (`risk/decimal.ts`)

Every persisted amount goes through `toFixed` and `fromString`.

* `matchDecimal`, `fromString` — the pattern of a decimal text, and the decimal it is read as.
* `toFixed` — the text of a decimal.
-/

namespace VeltrixEye

open Billing (jsTrim isJsSpace isJsSpace_of_printable jsTrim_of_no_space)

/-- The groups of the pattern: sign, digits before the point, digits after it. -/
structure DecimalText where
  negative : Bool
  whole : List Char
  frac : List Char
  deriving DecidableEq

/-- The pattern without its sign: `(\d+)(?:\.(\d*))?|\.(\d+)`. -/
def matchUnsigned (negative : Bool) (body : List Char) : Option DecimalText :=
  let whole := body.takeWhile Char.isDigit
  match body.dropWhile Char.isDigit with
  | [] => if whole = [] then none else some ⟨negative, whole, []⟩
  | c :: frac =>
    if c ≠ '.' ∨ !frac.all Char.isDigit then none
    else if whole = [] then if frac = [] then none else some ⟨negative, ['0'], frac⟩
    else some ⟨negative, whole, frac⟩

/-- `^([+-])?(?:(\d+)(?:\.(\d*))?|\.(\d+))$` on the trimmed text. -/
def matchDecimal (raw : String) : Option DecimalText :=
  match (jsTrim raw).toList with
  | '-' :: body => matchUnsigned true body
  | '+' :: body => matchUnsigned false body
  | body => matchUnsigned false body

/-- `BigInt` of a text of digits. -/
def digitsValue (digits : List Char) : ℕ := Nat.ofDigitChars 10 digits 0

/-- The number the text denotes. -/
def DecimalText.value (t : DecimalText) : ℚ :=
  (if t.negative then -1 else 1) * (digitsValue t.whole + digitsValue t.frac / 10 ^ t.frac.length)

/-- The number a text of the pattern denotes. -/
def valueOf (raw : String) : Option ℚ := (matchDecimal raw).map DecimalText.value

namespace Dec

/-- `.slice(0, DEC_SCALE).padEnd(DEC_SCALE, '0')`. -/
def fracDigits (frac : List Char) : List Char :=
  frac.take DEC_SCALE ++ List.replicate (DEC_SCALE - frac.length) '0'

def fromString (raw : String) : Option Dec :=
  match matchDecimal raw with
  | none => none
  | some t =>
    if 18 < t.whole.length then none
    else (ofUnits ((if t.negative then -1 else 1) *
      (digitsValue t.whole * SCALE + digitsValue (fracDigits t.frac)))).toOption

/-- `n.toString().padStart(DEC_SCALE, '0')`. -/
def padStart (n : ℕ) : List Char :=
  List.replicate (DEC_SCALE - (Nat.toDigits 10 n).length) '0' ++ Nat.toDigits 10 n

/-- `toFixed(digits, rounding)`. -/
def toFixed (a : Dec) (digits : ℕ) (rounding : RoundingMode := .halfEven) : Calc String := do
  let rounded ← a.roundTo digits rounding
  let neg := if rounded.units < 0 then ['-'] else []
  let u := rounded.units.natAbs
  let whole := Nat.toDigits 10 (u / 10 ^ DEC_SCALE)
  if digits = 0 then return String.ofList (neg ++ whole)
  return String.ofList (neg ++ whole ++ '.' :: (padStart (u % 10 ^ DEC_SCALE)).take digits)

/-! ## Digits -/

theorem digitsValue_toDigits (n : ℕ) : digitsValue (Nat.toDigits 10 n) = n := Nat.ofDigitChars_ten_toDigits

theorem digitsValue_append (ds es : List Char) :
    digitsValue (ds ++ es) = 10 ^ es.length * digitsValue ds + digitsValue es := by
  unfold digitsValue
  rw [Nat.ofDigitChars_append, Nat.ofDigitChars_eq_ofDigitChars_zero]

theorem digitsValue_zeros (k : ℕ) : digitsValue (List.replicate k '0') = 0 := by
  unfold digitsValue
  rw [Nat.ofDigitChars_replicate_zero, Nat.mul_zero]

theorem digitsValue_padStart (n : ℕ) : digitsValue (padStart n) = n := by
  unfold padStart
  rw [digitsValue_append, digitsValue_zeros, Nat.mul_zero, Nat.zero_add, digitsValue_toDigits]

theorem length_padStart {n : ℕ} (h : n < 10 ^ DEC_SCALE) : (padStart n).length = DEC_SCALE := by
  have hlen : (Nat.toDigits 10 n).length ≤ DEC_SCALE :=
    (Nat.length_toDigits_le_iff (by decide) (by decide)).mpr h
  unfold padStart
  rw [List.length_append, List.length_replicate]
  omega

theorem isDigit_toDigits {n : ℕ} {c : Char} (h : c ∈ Nat.toDigits 10 n) : c.isDigit = true :=
  Nat.isDigit_of_mem_toDigits (by decide) (by decide) h

theorem isDigit_padStart {n : ℕ} {c : Char} (h : c ∈ padStart n) : c.isDigit = true := by
  rcases List.mem_append.mp h with h | h
  · rw [List.eq_of_mem_replicate h]
    rfl
  · exact isDigit_toDigits h

/-! ## Reading a printed text -/

theorem not_space_of_digit {c : Char} (h : c.isDigit = true) : isJsSpace c = false := by
  have h48 : 48 ≤ c.toNat ∧ c.toNat ≤ 57 := by
    simp only [Char.isDigit, Bool.and_eq_true, decide_eq_true_eq] at h
    exact h
  exact isJsSpace_of_printable (by omega)

theorem matchDecimal_printed {negative : Bool} {whole frac : List Char} (hw : whole ≠ [])
    (hwd : ∀ c ∈ whole, c.isDigit = true) (hfd : ∀ c ∈ frac, c.isDigit = true) :
    matchDecimal (String.ofList ((if negative then ['-'] else []) ++ whole ++ '.' :: frac)) =
      some ⟨negative, whole, frac⟩ := by
  have htrim : jsTrim (String.ofList ((if negative then ['-'] else []) ++ whole ++ '.' :: frac)) =
      String.ofList ((if negative then ['-'] else []) ++ whole ++ '.' :: frac) := by
    refine jsTrim_of_no_space fun c hc => ?_
    rw [String.toList_ofList, List.mem_append, List.mem_append, List.mem_cons] at hc
    rcases hc with (hc | hc) | rfl | hc
    · cases negative with
      | false => cases hc
      | true =>
        rw [List.mem_singleton.mp hc]
        decide
    · exact not_space_of_digit (hwd c hc)
    · decide
    · exact not_space_of_digit (hfd c hc)
  have hbody : matchUnsigned negative (whole ++ '.' :: frac) = some ⟨negative, whole, frac⟩ := by
    have htake : (whole ++ '.' :: frac).takeWhile Char.isDigit = whole := by
      rw [List.takeWhile_append_of_pos hwd, List.takeWhile_cons_of_neg (by decide), List.append_nil]
    have hdrop : (whole ++ '.' :: frac).dropWhile Char.isDigit = '.' :: frac := by
      rw [List.dropWhile_append_of_pos hwd, List.dropWhile_cons_of_neg (by decide)]
    have hall : frac.all Char.isDigit = true := List.all_eq_true.mpr hfd
    unfold matchUnsigned
    rw [htake, hdrop]
    simp only [hall, hw, ne_eq, not_true_eq_false, Bool.not_true, Bool.false_eq_true, or_self, if_false]
  unfold matchDecimal
  rw [htrim, String.toList_ofList]
  cases negative with
  | true => exact hbody
  | false =>
    obtain ⟨c, rest, rfl⟩ := List.exists_cons_of_ne_nil hw
    have hc := hwd c List.mem_cons_self
    simp only [Bool.false_eq_true, if_false, List.nil_append, List.cons_append] at hbody ⊢
    split
    · rename_i heq
      cases heq
      exact absurd hc (by decide)
    · rename_i heq
      cases heq
      exact absurd hc (by decide)
    · exact hbody

/-! ## The text of a decimal -/

/-- The text with all ten decimals. -/
def fullText (a : Dec) : String :=
  String.ofList ((if decide (a.units < 0) then ['-'] else []) ++
    Nat.toDigits 10 (a.units.natAbs / 10 ^ DEC_SCALE) ++ '.' :: padStart (a.units.natAbs % 10 ^ DEC_SCALE))

theorem toFixed_scale (a : Dec) : a.toFixed DEC_SCALE = .ok (fullText a) := by
  have hround : a.roundTo DEC_SCALE .halfEven = .ok a := by
    rw [roundTo_ok]
    have hfactor : DEC_SCALE - Nat.min DEC_SCALE DEC_SCALE = 0 := by decide
    rw [hfactor, pow_zero, mul_one, Int.cast_one, div_one, Rounding.halfEven_intCast]
  have hlen : (padStart (a.units.natAbs % 10 ^ DEC_SCALE)).length ≤ DEC_SCALE :=
    (length_padStart (Nat.mod_lt _ (by decide))).le
  unfold toFixed
  rw [hround]
  simp only [bind, Except.bind, pure, Except.pure]
  rw [if_neg (by decide), List.take_of_length_le hlen]
  unfold fullText
  simp only [decide_eq_true_eq]

theorem matchDecimal_fullText (a : Dec) : matchDecimal (fullText a) =
    some ⟨decide (a.units < 0), Nat.toDigits 10 (a.units.natAbs / 10 ^ DEC_SCALE),
      padStart (a.units.natAbs % 10 ^ DEC_SCALE)⟩ :=
  matchDecimal_printed Nat.toDigits_ne_nil (fun _ => isDigit_toDigits) fun _ => isDigit_padStart

theorem units_eq (a : Dec) : (if decide (a.units < 0) then (-1 : ℤ) else 1) *
    ((a.units.natAbs / 10 ^ DEC_SCALE : ℕ) * SCALE + (a.units.natAbs % 10 ^ DEC_SCALE : ℕ)) = a.units := by
  have hdiv : ((a.units.natAbs / 10 ^ DEC_SCALE : ℕ) : ℤ) * SCALE + (a.units.natAbs % 10 ^ DEC_SCALE : ℕ) =
      (a.units.natAbs : ℤ) := by
    have := Nat.div_add_mod' a.units.natAbs (10 ^ DEC_SCALE)
    unfold SCALE
    exact_mod_cast this
  rw [hdiv]
  by_cases h : a.units < 0
  · simp only [h, decide_true, if_true]
    omega
  · simp only [h, decide_false, Bool.false_eq_true, if_false]
    omega

theorem toOption_ofUnits {u : ℤ} {d : Dec} : (ofUnits u).toOption = some d ↔ d.units = u := by
  rw [← ofUnits_ok]
  cases ofUnits u <;> simp [Except.toOption]

theorem fromString_toFixed_iff (a : Dec) :
    fromString (fullText a) = some a ↔ a.units.natAbs < MAX_ABS := by
  have hwhole : (Nat.toDigits 10 (a.units.natAbs / 10 ^ DEC_SCALE)).length ≤ 18 ↔ a.units.natAbs < MAX_ABS := by
    rw [Nat.length_toDigits_le_iff (by decide) (by decide), Nat.div_lt_iff_lt_mul (by decide)]
    exact Iff.rfl
  unfold fromString
  rw [matchDecimal_fullText]
  simp only
  constructor
  · intro h
    split at h
    · cases h
    · rename_i hlen
      exact hwhole.mp (not_lt.mp hlen)
  · intro h
    rw [if_neg (not_lt.mpr (hwhole.mpr h)), toOption_ofUnits]
    have hfrac : fracDigits (padStart (a.units.natAbs % 10 ^ DEC_SCALE)) =
        padStart (a.units.natAbs % 10 ^ DEC_SCALE) := by
      have hlen := length_padStart (Nat.mod_lt a.units.natAbs (show 0 < 10 ^ DEC_SCALE by decide))
      unfold fracDigits
      rw [hlen, Nat.sub_self, List.replicate_zero, List.append_nil, List.take_of_length_le hlen.le]
    rw [hfrac, digitsValue_toDigits, digitsValue_padStart]
    exact (units_eq a).symm

/-! ## The number of a text -/

theorem valueOf_fullText (a : Dec) : valueOf (fullText a) = some a.toRat := by
  have hlen := length_padStart (Nat.mod_lt a.units.natAbs (show 0 < 10 ^ DEC_SCALE by decide))
  unfold valueOf
  rw [matchDecimal_fullText, Option.map_some, Option.some.injEq]
  unfold DecimalText.value toRat
  rw [hlen, digitsValue_toDigits, digitsValue_padStart]
  have hs : (SCALE : ℚ) ≠ 0 := by exact_mod_cast SCALE_pos.ne'
  have hscale : ((10 : ℚ) ^ DEC_SCALE) = SCALE := by norm_num [SCALE]
  have hunits := (units_eq a).symm
  generalize a.units.natAbs / 10 ^ DEC_SCALE = whole at hunits
  generalize a.units.natAbs % 10 ^ DEC_SCALE = frac at hunits
  have hcast : (a.units : ℚ) = (if decide (a.units < 0) then -1 else 1) * (whole * SCALE + frac) := by
    exact_mod_cast hunits
  rw [eq_div_iff hs, hcast, hscale, mul_assoc, add_mul, div_mul_cancel₀ _ hs]

theorem valueOf_of_fromString {raw : String} {a : Dec} {t : DecimalText} (ht : matchDecimal raw = some t)
    (hfrac : t.frac.length ≤ DEC_SCALE) (h : fromString raw = some a) : valueOf raw = some a.toRat := by
  unfold fromString at h
  rw [ht] at h
  simp only at h
  split at h
  · cases h
  rw [toOption_ofUnits] at h
  have hdigits : digitsValue (fracDigits t.frac) = digitsValue t.frac * 10 ^ (DEC_SCALE - t.frac.length) := by
    unfold fracDigits
    rw [List.take_of_length_le hfrac, digitsValue_append, digitsValue_zeros, List.length_replicate, Nat.add_zero,
      Nat.mul_comm]
  unfold valueOf
  rw [ht, Option.map_some, Option.some.injEq]
  unfold DecimalText.value toRat
  rw [h, hdigits]
  have hs : (SCALE : ℚ) ≠ 0 := by exact_mod_cast SCALE_pos.ne'
  have hsplit : (SCALE : ℚ) = 10 ^ t.frac.length * 10 ^ (DEC_SCALE - t.frac.length) := by
    rw [← pow_add, Nat.add_sub_cancel' hfrac]
    norm_num [SCALE]
  have hpow : (10 : ℚ) ^ t.frac.length ≠ 0 := by positivity
  have hfraction : (digitsValue t.frac : ℚ) / 10 ^ t.frac.length * SCALE =
      digitsValue t.frac * 10 ^ (DEC_SCALE - t.frac.length) := by
    rw [hsplit]
    field_simp
  push_cast
  rw [eq_div_iff hs, mul_assoc, add_mul, hfraction]

end Dec

/-- **A decimal survives its text exactly below 10^28 units, and a text of at most ten decimals keeps its
    number.** -/
theorem decimal_round_trip (d : Dec) :
    (∃ text, d.toFixed DEC_SCALE = .ok text ∧
      (Dec.fromString text = some d ↔ d.units.natAbs < MAX_ABS)) ∧
    ∀ (raw : String) (t : DecimalText), matchDecimal raw = some t → t.frac.length ≤ DEC_SCALE →
      Dec.fromString raw = some d →
      ∃ text, d.toFixed DEC_SCALE = .ok text ∧ valueOf text = valueOf raw :=
  ⟨⟨_, d.toFixed_scale, d.fromString_toFixed_iff⟩,
    fun _ _ ht hfrac h => ⟨_, d.toFixed_scale,
      d.valueOf_fullText.trans (Dec.valueOf_of_fromString ht hfrac h).symm⟩⟩

/-- A signed text with seven decimals. -/
theorem decimal_round_trip_sample :
    ∃ d text, Dec.fromString " -12.0050000 " = some d ∧ d.toFixed DEC_SCALE = .ok text ∧
      valueOf text = valueOf " -12.0050000 " := by
  obtain ⟨d, hd⟩ : ∃ d, Dec.fromString " -12.0050000 " = some d :=
    ⟨⟨-120050000000, by decide⟩, by decide⟩
  obtain ⟨text, htext, hvalue⟩ := (decimal_round_trip d).2 " -12.0050000 "
    ⟨true, ['1', '2'], ['0', '0', '5', '0', '0', '0', '0']⟩ (by decide) (by decide) hd
  exact ⟨d, text, hd, htext, hvalue⟩

/-- The largest value the class holds: its text has nineteen digits before the point and is not read. -/
theorem largest_decimal_not_read :
    (⟨10 ^ 28, by decide⟩ : Dec).toFixed DEC_SCALE = .ok "1000000000000000000.0000000000" ∧
      Dec.fromString "1000000000000000000.0000000000" = none := by
  decide

end VeltrixEye
