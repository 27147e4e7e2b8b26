import VeltrixEye.Risk.Sizing

/-!
# What sizing risks (`risk/sizing.ts`)

Budget, value per unit, raw quantity and product are each rounded at ten decimals.  The numbers of a spec
are taken as the decimals the sizer reads them as.

* `budget_isLeast` — the budget is the least of its terms.
-/

namespace VeltrixEye

/-- The percentage budget, the configured cap and the caps of the engine. -/
def budgetTerms (input : SizingInput) (pctBudget : Dec) : List Dec :=
  pctBudget :: (input.maxMonetaryRisk.toList ++ input.extraCaps)

/-- The money `quantity` units lose between entry and stop, exactly. -/
def exactRisk (pnlMode : InstrumentPnlMode) (contractSize entry stopLoss quantity : ℚ) : ℚ :=
  match pnlMode with
  | .quote_linear => quantity * contractSize * |entry - stopLoss|
  | .base_linear => quantity * contractSize * |entry - stopLoss| / entry

/-! ## The budget -/

theorem applyMonetaryCap_eq {budget b : Dec} {m : Option Dec} (h : applyMonetaryCap budget m = .ok b) :
    b = m.toList.foldl min budget := by
  cases m with
  | none =>
    cases h
    rfl
  | some m =>
    simp only [applyMonetaryCap, Except.bind_ok_iff] at h
    obtain ⟨_, -, h⟩ := h
    cases h
    rfl

theorem applyExtraCaps_eq {budget b : Dec} {caps : List Dec} (h : applyExtraCaps budget caps = .ok b) :
    b = caps.foldl min budget := by
  induction caps generalizing budget with
  | nil =>
    cases h
    rfl
  | cons cap caps ih =>
    unfold applyExtraCaps at h
    split at h
    · cases h
    · exact ih h

theorem foldl_min_isLeast (a : Dec) (l : List Dec) : IsLeast {b | b ∈ a :: l} (l.foldl min a) := by
  induction l generalizing a with
  | nil => exact ⟨List.mem_singleton_self a, fun b hb => (List.mem_singleton.mp hb).ge⟩
  | cons c l ih =>
    obtain ⟨hmem, hle⟩ := ih (min a c)
    refine ⟨?_, fun b hb => ?_⟩
    · rcases List.mem_cons.mp hmem with heq | hmem
      · rcases min_choice a c with hm | hm
        · rw [List.foldl_cons, heq, hm]
          exact List.mem_cons_self
        · rw [List.foldl_cons, heq, hm]
          exact List.mem_cons_of_mem _ List.mem_cons_self
      · exact List.mem_cons_of_mem _ (List.mem_cons_of_mem _ hmem)
    · have hmin : (c :: l).foldl min a ≤ min a c := hle List.mem_cons_self
      rcases List.mem_cons.mp hb with rfl | hb
      · exact hmin.trans (min_le_left _ _)
      rcases List.mem_cons.mp hb with rfl | hb
      · exact hmin.trans (min_le_right _ _)
      · exact hle (List.mem_cons_of_mem _ hb)

theorem budget_isLeast {input : SizingInput} {pct capped budget : Dec}
    (hc : applyMonetaryCap pct input.maxMonetaryRisk = .ok capped)
    (hb : applyExtraCaps capped input.extraCaps = .ok budget) :
    IsLeast {b | b ∈ budgetTerms input pct} budget := by
  have := foldl_min_isLeast pct (input.maxMonetaryRisk.toList ++ input.extraCaps)
  rwa [List.foldl_append, ← applyMonetaryCap_eq hc, ← applyExtraCaps_eq hb] at this

/-! ## The quantity -/

theorem fits_iff {budget vpu rawQty step qty : Dec} (hb : 0 < budget.units) (hv : 0 < vpu.units)
    (hraw : budget.div vpu .down = .ok (some rawQty)) (hqty : rawQty.floorToStep step = .ok (some qty))
    (k : ℤ) : k * step.units * vpu.units ≤ budget.units * SCALE ↔ k * step.units ≤ qty.units := by
  have hX := Dec.div_down_ok hb.le hraw
  obtain ⟨hstep, hq⟩ := Dec.floorToStep_ok hqty
  calc k * step.units * vpu.units ≤ budget.units * SCALE
      ↔ k * step.units ≤ rawQty.units := by rw [hX, Int.le_ediv_iff_mul_le hv]
    _ ↔ k ≤ rawQty.units / step.units := (Int.le_ediv_iff_mul_le hstep).symm
    _ ↔ k * step.units ≤ qty.units := by
      rw [hq]
      exact (mul_le_mul_iff_left₀ hstep).symm

theorem floored_multiple {rawQty step qty : Dec} (hqty : rawQty.floorToStep step = .ok (some qty)) :
    ∃ k : ℤ, qty.units = k * step.units := ⟨_, (Dec.floorToStep_ok hqty).2⟩

theorem toRat_mul_le {a b c : Dec} : a.toRat * b.toRat ≤ c.toRat ↔ a.units * b.units ≤ c.units * SCALE := by
  unfold Dec.toRat
  have hs : (0 : ℚ) < SCALE := by exact_mod_cast Dec.SCALE_pos
  rw [div_mul_div_comm, div_le_div_iff₀ (mul_pos hs hs) hs, ← mul_assoc, mul_le_mul_iff_left₀ hs]
  exact_mod_cast Iff.rfl

theorem floored_isGreatest {budget vpu rawQty step qty : Dec} (hb : 0 < budget.units) (hv : 0 < vpu.units)
    (hraw : budget.div vpu .down = .ok (some rawQty)) (hqty : rawQty.floorToStep step = .ok (some qty)) :
    IsGreatest {q : ℚ | (∃ k : ℤ, q = k * step.toRat) ∧ q * vpu.toRat ≤ budget.toRat} qty.toRat := by
  have hs : (0 : ℚ) < SCALE := by exact_mod_cast Dec.SCALE_pos
  obtain ⟨k, hk⟩ := floored_multiple hqty
  constructor
  · refine ⟨⟨k, ?_⟩, toRat_mul_le.mpr ?_⟩
    · unfold Dec.toRat
      rw [hk]
      push_cast
      ring
    · rw [hk, fits_iff hb hv hraw hqty k, hk]
  · rintro _ ⟨⟨j, rfl⟩, hj⟩
    have hfits : j * step.units * vpu.units ≤ budget.units * SCALE := by
      unfold Dec.toRat at hj
      rw [← mul_div_assoc (j : ℚ), div_mul_div_comm, div_le_div_iff₀ (mul_pos hs hs) hs, ← mul_assoc,
        mul_le_mul_iff_left₀ hs] at hj
      exact_mod_cast hj
    have hle := (fits_iff hb hv hraw hqty j).mp hfits
    unfold Dec.toRat
    rw [← mul_div_assoc, div_le_div_iff_of_pos_right hs]
    exact_mod_cast hle

theorem floored_risk_le {budget vpu rawQty step qty risk : Dec} (hb : 0 < budget.units) (hv : 0 < vpu.units)
    (hraw : budget.div vpu .down = .ok (some rawQty)) (hqty : rawQty.floorToStep step = .ok (some qty))
    (hrisk : monetaryRiskFor qty vpu = some risk) : risk ≤ budget := by
  have hs : (0 : ℚ) < SCALE := by exact_mod_cast Dec.SCALE_pos
  obtain ⟨k, hk⟩ := floored_multiple hqty
  have hfits : qty.units * vpu.units ≤ budget.units * SCALE := by
    rw [hk, fits_iff hb hv hraw hqty k, hk]
  rw [monetaryRiskFor_eq_some, Dec.mul_ok] at hrisk
  rw [Dec.le_def, hrisk]
  apply Rounding.halfEven_le_of_le
  rw [div_le_iff₀ hs]
  exact_mod_cast hfits

/-! ## The value per unit -/

theorem sub_half_le_halfEven (x : ℚ) : x - 1 / 2 ≤ Rounding.halfEven x := by
  have := (abs_le.mp (Rounding.isNearestEven_halfEven x).1).2
  linarith

/-- Half a unit of the last decimal. -/
def halfUnit : ℚ := 1 / 2 / SCALE

theorem mul_lower {a b d : Dec} (h : a.mul b = .ok d) : a.toRat * b.toRat - halfUnit ≤ d.toRat := by
  have hs : (0 : ℚ) < SCALE := by exact_mod_cast Dec.SCALE_pos
  have := sub_half_le_halfEven (((a.units * b.units : ℤ) : ℚ) / SCALE)
  rw [← Dec.mul_ok.mp h] at this
  unfold Dec.toRat halfUnit
  rw [div_mul_div_comm, ← div_div, ← sub_div, div_le_div_iff_of_pos_right hs]
  push_cast at this
  linarith

theorem div_lower {a b d : Dec} (hb : 0 < b.units) (h : a.div b = .ok (some d)) :
    a.toRat / b.toRat - halfUnit ≤ d.toRat := by
  have hs : (0 : ℚ) < SCALE := by exact_mod_cast Dec.SCALE_pos
  have hbq : (0 : ℚ) < b.units := by exact_mod_cast hb
  obtain ⟨d', hd, hround⟩ := (Dec.div_ok hb.ne').mp h
  cases hd
  have := sub_half_le_halfEven (((a.units * SCALE : ℤ) : ℚ) / b.units)
  rw [← hround] at this
  unfold Dec.toRat halfUnit
  rw [div_div_div_cancel_right₀ hs.ne', le_div_iff₀ hs, sub_mul, div_mul_cancel₀ _ hs.ne']
  push_cast at this
  rw [div_mul_eq_mul_div]
  linarith

theorem valuePerUnit_lower {spec : InstrumentRiskSpec} {entry stopDistance vpu : Dec} (he : 0 < entry.units)
    (h : valuePerUnit spec entry stopDistance = some vpu) :
    ∃ contract, Dec.fromNumber spec.contractSize = some contract ∧ 0 < contract.units ∧
      match spec.pnlMode with
      | .quote_linear => contract.toRat * stopDistance.toRat ≤ vpu.toRat + halfUnit
      | .base_linear => contract.toRat * stopDistance.toRat / entry.toRat ≤
          vpu.toRat + halfUnit * (1 + 1 / entry.toRat) := by
  simp only [valuePerUnit, bind, Option.bind_eq_some_iff, guard] at h
  obtain ⟨contract, hcontract, u, hpos, product, hproduct, h⟩ := h
  have hmul : contract.mul stopDistance = .ok product := by
    cases hm : contract.mul stopDistance with
    | error e =>
      rw [hm] at hproduct
      cases hproduct
    | ok p =>
      rw [hm] at hproduct
      cases hproduct
      rfl
  have hlow := mul_lower hmul
  refine ⟨contract, hcontract, ?_, ?_⟩
  · split at hpos
    · rename_i hp
      exact Dec.isPositive_iff.mp hp
    · cases hpos
  · cases hmode : spec.pnlMode with
    | quote_linear =>
      rw [hmode] at h
      cases h
      dsimp only
      linarith
    | base_linear =>
      rw [hmode] at h
      simp only [Option.bind_eq_some_iff] at h
      obtain ⟨_, -, q, hq, h⟩ := h
      cases h
      have hdiv : product.div entry = .ok (some vpu) := by
        cases hd : product.div entry with
        | error e =>
          rw [hd] at hq
          cases hq
        | ok p =>
          rw [hd] at hq
          cases hq
          rfl
      have hlow' := div_lower he hdiv
      have hentry : 0 < entry.toRat := Dec.toRat_pos.mpr he
      have hquot : (contract.toRat * stopDistance.toRat - halfUnit) / entry.toRat ≤
          product.toRat / entry.toRat := (div_le_div_iff_of_pos_right hentry).mpr hlow
      rw [sub_div] at hquot
      dsimp only
      rw [mul_add, mul_one, mul_one_div]
      linarith

/-! ## A computed size -/

/-- What a computed size owes to its input, with the decimals sizing works on. -/
structure SizedWithin (input : SizingInput) (s : SizingSuccess) (spec : InstrumentRiskSpec)
    (contract step minQuantity maxQuantity vpu pctBudget budget : Dec) : Prop where
  spec_eq : input.spec = some spec
  contract_eq : Dec.fromNumber spec.contractSize = some contract
  step_eq : Dec.fromNumber spec.quantityStep = some step
  minQuantity_eq : Dec.fromNumber spec.minQuantity = some minQuantity
  maxQuantity_eq : Dec.fromNumber spec.maxQuantity = some maxQuantity
  vpu_eq : valuePerUnit spec input.entry s.stopDistance = some vpu
  pctBudget_eq : percentOf input.equity input.riskPct = .ok (some pctBudget)
  budget_least : IsLeast {b | b ∈ budgetTerms input pctBudget} budget
  quantity_pos : 0 < s.quantity.toRat
  min_le : minQuantity ≤ s.quantity
  le_max : s.quantity ≤ maxQuantity
  le_platform : s.quantity.toRat ≤ 100
  largest : IsGreatest {q : ℚ | (∃ k : ℤ, q = k * step.toRat) ∧ q * vpu.toRat ≤ budget.toRat}
    s.quantity.toRat
  risk_le : s.monetaryRisk ≤ budget
  exact_le : exactRisk spec.pnlMode contract.toRat input.entry.toRat input.stopLoss.toRat s.quantity.toRat ≤
    budget.toRat + s.quantity.toRat * (1 + 1 / input.entry.toRat) / 2 / 10 ^ DEC_SCALE

theorem exactRisk_le {input : SizingInput} {spec : InstrumentRiskSpec}
    {stopDistance contract vpu budget qty : Dec} (he : 0 < input.entry.units)
    (hstop : stopDistance.units = |input.entry.units - input.stopLoss.units|)
    (hlow : match spec.pnlMode with
      | .quote_linear => contract.toRat * stopDistance.toRat ≤ vpu.toRat + halfUnit
      | .base_linear => contract.toRat * stopDistance.toRat / input.entry.toRat ≤
          vpu.toRat + halfUnit * (1 + 1 / input.entry.toRat))
    (hq : 0 < qty.toRat) (hfits : qty.toRat * vpu.toRat ≤ budget.toRat) :
    exactRisk spec.pnlMode contract.toRat input.entry.toRat input.stopLoss.toRat qty.toRat ≤
      budget.toRat + qty.toRat * (1 + 1 / input.entry.toRat) / 2 / 10 ^ DEC_SCALE := by
  have hentry : 0 < input.entry.toRat := Dec.toRat_pos.mpr he
  have hdistance : |input.entry.toRat - input.stopLoss.toRat| = stopDistance.toRat := by
    have hs : (0 : ℚ) < SCALE := by exact_mod_cast Dec.SCALE_pos
    unfold Dec.toRat
    rw [← sub_div, abs_div, abs_of_pos hs, hstop]
    push_cast
    rfl
  have hunit : qty.toRat * (1 + 1 / input.entry.toRat) / 2 / 10 ^ DEC_SCALE =
      qty.toRat * (halfUnit * (1 + 1 / input.entry.toRat)) := by
    unfold halfUnit SCALE
    push_cast
    ring
  have hhalf : 0 ≤ halfUnit * (1 / input.entry.toRat) := by
    unfold halfUnit SCALE
    positivity
  unfold exactRisk
  rw [hdistance, hunit]
  cases hmode : spec.pnlMode with
  | quote_linear =>
    rw [hmode] at hlow
    have hstep : qty.toRat * (contract.toRat * stopDistance.toRat) ≤ qty.toRat * (vpu.toRat + halfUnit) :=
      mul_le_mul_of_nonneg_left hlow hq.le
    have hextra : 0 ≤ qty.toRat * (halfUnit * (1 / input.entry.toRat)) := mul_nonneg hq.le hhalf
    dsimp only
    linarith
  | base_linear =>
    rw [hmode] at hlow
    have hstep : qty.toRat * (contract.toRat * stopDistance.toRat / input.entry.toRat) ≤
        qty.toRat * (vpu.toRat + halfUnit * (1 + 1 / input.entry.toRat)) :=
      mul_le_mul_of_nonneg_left hlow hq.le
    dsimp only
    rw [mul_assoc, mul_div_assoc]
    linarith

theorem platformMax_units {d : Dec} (h : Dec.fromNumber PLATFORM_RISK_CEILINGS.maxPositionSize = some d) :
    d.toRat = 100 := by
  have hd : d = Dec.hundred := by
    have : Dec.fromNumber PLATFORM_RISK_CEILINGS.maxPositionSize = some Dec.hundred := by decide +kernel
    exact Option.some.inj (h.symm.trans this)
  rw [hd]
  norm_num [Dec.toRat, Dec.hundred, SCALE]

theorem sizedWithin_of_ok {input : SizingInput} {s : SizingSuccess} (h : sizePosition input = .ok s) :
    ∃ spec contract step minQuantity maxQuantity vpu pctBudget budget,
      SizedWithin input s spec contract step minQuantity maxQuantity vpu pctBudget budget := by
  obtain ⟨spec, difference, pctBudget, capped, budget, vpu, rawQty, step, minQ, specMax, platformMax, -,
    hprices, hdiff, hdistance, -, hspec, -, hpct, hcapped, hbudget, hbpos, hvpu, hvpos, hraw, hstep, hmin, hmax,
    hplatform, hfloor, hqpos, hqmin, hqmax, hrisk, hle⟩ := exists_sizedBy h
  rw [← hdistance] at hvpu
  rw [Dec.isPositive_iff] at hbpos hvpos hqpos
  rw [Dec.isPositive_iff, Dec.isPositive_iff] at hprices
  obtain ⟨contract, hcontract, -, hlow⟩ := valuePerUnit_lower hprices.1 hvpu
  have hgreatest := floored_isGreatest hbpos hvpos hraw hfloor
  have hq : 0 < s.quantity.toRat := Dec.toRat_pos.mpr hqpos
  have hstop : s.stopDistance.units = |input.entry.units - input.stopLoss.units| := by
    rw [hdistance, Dec.units_abs, Dec.sub_ok.mp hdiff]
  exact ⟨spec, contract, step, minQ, specMax, vpu, pctBudget, budget,
    { spec_eq := hspec
      contract_eq := hcontract
      step_eq := hstep
      minQuantity_eq := hmin
      maxQuantity_eq := hmax
      vpu_eq := hvpu
      pctBudget_eq := hpct
      budget_least := budget_isLeast hcapped hbudget
      quantity_pos := hq
      min_le := hqmin
      le_max := hqmax.trans (min_le_left _ _)
      le_platform := by
        rw [← platformMax_units hplatform]
        have : s.quantity.units ≤ platformMax.units := hqmax.trans (min_le_right _ _)
        unfold Dec.toRat
        rw [div_le_div_iff_of_pos_right (by exact_mod_cast Dec.SCALE_pos)]
        exact_mod_cast this
      largest := hgreatest
      risk_le := hle
      exact_le := exactRisk_le hprices.1 hstop hlow hq hgreatest.1.2 }⟩

/-! ## The check after flooring -/

theorem bind_eq_error_iff {ε α β : Type} {x : Except ε α} {f : α → Except ε β} {e : ε} :
    x >>= f = .error e ↔ x = .error e ∨ ∃ v, x = .ok v ∧ f v = .error e := by
  rcases x with e' | v
  · constructor
    · intro h
      cases h
      exact .inl rfl
    · rintro (h | ⟨_, h, -⟩)
      · cases h
        rfl
      · cases h
  · constructor
    · intro h
      exact .inr ⟨v, rfl, h⟩
    · rintro (h | ⟨_, h, hf⟩)
      · cases h
      · cases h
        exact hf

theorem require_error {p : Prop} [Decidable p] {code e : RiskRejectionCode} :
    require p code = .error e ↔ ¬p ∧ code = e := by
  unfold require
  split <;> simp_all

theorem orFail_error {α : Type} {x : Option α} {code e : RiskRejectionCode} :
    orFail x code = .error e ↔ x = none ∧ code = e := by
  cases x <;> simp [orFail]

theorem liftOverflow_error {α : Type} {x : Calc α} {e : RiskRejectionCode} :
    liftOverflow x = .error e ↔ (∃ o, x = .error o) ∧ RiskRejectionCode.OVERFLOW = e := by
  cases x with
  | error o =>
    constructor
    · intro h
      cases h
      exact ⟨⟨o, rfl⟩, rfl⟩
    · rintro ⟨-, rfl⟩
      rfl
  | ok a => simp [liftOverflow]

theorem applyMonetaryCap_error {budget : Dec} {m : Option Dec} {e : RiskRejectionCode}
    (h : applyMonetaryCap budget m = .error e) : ∃ d, m = some d ∧ d.units ≤ 0 := by
  cases m with
  | none => cases h
  | some d =>
    simp only [applyMonetaryCap, bind_eq_error_iff, require_error] at h
    rcases h with ⟨hneg, -⟩ | ⟨_, -, h⟩
    · rw [Dec.isPositive_iff] at hneg
      exact ⟨d, rfl, not_lt.mp hneg⟩
    · cases h

theorem applyExtraCaps_error {budget : Dec} {caps : List Dec} {e : RiskRejectionCode}
    (h : applyExtraCaps budget caps = .error e) : ∃ d ∈ caps, d.units ≤ 0 := by
  induction caps generalizing budget with
  | nil => cases h
  | cons cap caps ih =>
    unfold applyExtraCaps at h
    split at h
    · rename_i hneg
      exact ⟨cap, List.mem_cons_self, (Dec.isNegative_iff.mp hneg).le⟩
    · obtain ⟨d, hd, hle⟩ := ih h
      exact ⟨d, List.mem_cons_of_mem _ hd, hle⟩

theorem budgetTerm_of_refused {input : SizingInput}
    (h : sizePosition input = .error .MONETARY_RISK_EXCEEDS_LIMIT) :
    ∃ pctBudget, percentOf input.equity input.riskPct = .ok (some pctBudget) ∧
      ∃ b ∈ budgetTerms input pctBudget, b.units ≤ 0 := by
  simp only [sizePosition, bind_eq_error_iff, require_error, orFail_error, liftOverflow_error, reduceCtorEq,
    and_false, false_or, require_ok, orFail_ok, liftOverflow_ok] at h
  obtain ⟨_, -, _, -, _, -, _, -, spec, -, _, -, _, hpct, pctBudget, rfl, h⟩ := h
  refine ⟨pctBudget, hpct, ?_⟩
  rcases h with h | ⟨capped, hcapped, h | ⟨budget, hbudget, h⟩⟩
  · obtain ⟨d, hd, hle⟩ := applyMonetaryCap_error h
    refine ⟨d, List.mem_cons_of_mem _ (List.mem_append_left _ ?_), hle⟩
    rw [hd]
    exact List.mem_singleton_self d
  · obtain ⟨d, hd, hle⟩ := applyExtraCaps_error h
    exact ⟨d, List.mem_cons_of_mem _ (List.mem_append_right _ hd), hle⟩
  · have hleast := budget_isLeast hcapped hbudget
    rcases h with ⟨hneg, -⟩ | ⟨_, hbpos, vpu, hvpu, _, hvpos, _, hraw, rawQty, rfl, step, -, minQ, -, specMax,
      -, platformMax, -, _, hfloor, qty, rfl, _, -, _, -, _, -, risk, hrisk, h⟩
    · rw [Dec.isPositive_iff] at hneg
      exact ⟨budget, hleast.1, not_lt.mp hneg⟩
    · -- here every term is positive, and the floored quantity is inside the budget
      rw [Dec.isPositive_iff] at hbpos hvpos
      have hle := floored_risk_le hbpos hvpos hraw hfloor hrisk
      rcases h with ⟨hgt, -⟩ | ⟨_, -, _, -, _, -, _, -, h⟩
      · exact absurd hle hgt
      · cases h

/-- **A computed size is the largest one inside the budget, and its exact risk exceeds the budget by
    rounding alone; the check after flooring is never the reason of a refusal.** -/
theorem sizePosition_bounds (input : SizingInput) :
    (∀ s, sizePosition input = .ok s →
      ∃ spec contract step minQuantity maxQuantity vpu pctBudget budget,
        SizedWithin input s spec contract step minQuantity maxQuantity vpu pctBudget budget) ∧
    (sizePosition input = .error .MONETARY_RISK_EXCEEDS_LIMIT →
      ∃ pctBudget, percentOf input.equity input.riskPct = .ok (some pctBudget) ∧
        ∃ b ∈ budgetTerms input pctBudget, b.units ≤ 0) :=
  ⟨fun _ h => sizedWithin_of_ok h, budgetTerm_of_refused⟩

/-- A thousand at one percent, a contract of ten over a distance of three, step 0.001. -/
theorem sizePosition_bounds_sample :
    let input : SizingInput := ⟨⟨10000000000000, by decide⟩, ⟨10000000000, by decide⟩, none, [],
      ⟨1000000000000, by decide⟩, ⟨970000000000, by decide⟩,
      some ⟨10, 1, .base_linear, .fin (1 / 1000), .fin (1 / 1000), 50⟩⟩
    ∃ s, sizePosition input = .ok s ∧ ∃ spec contract step minQuantity maxQuantity vpu pctBudget budget,
      SizedWithin input s spec contract step minQuantity maxQuantity vpu pctBudget budget := by
  intro input
  obtain ⟨s, hs⟩ : ∃ s, sizePosition input = .ok s := by
    cases h : sizePosition input with
    | ok s => exact ⟨s, rfl⟩
    | error e =>
      have : (sizePosition input).toOption.isSome = true := by decide +kernel
      rw [h] at this
      cases this
  exact ⟨s, hs, (sizePosition_bounds input).1 s hs⟩

end VeltrixEye
