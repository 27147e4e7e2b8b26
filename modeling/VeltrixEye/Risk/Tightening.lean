import VeltrixEye.Risk.EngineSafety
import VeltrixEye.Risk.SizingBounds

/-!
# A strategy override only tightens (`applyStrategyOverride`)

One input evaluated twice: under its strategy override, and without it.  The override lowers the risk
percentage and raises the minimum reward:risk, so without it the budget is larger and the quantity with
it; every other limit reads the same caps.
-/

namespace VeltrixEye

open RiskRejectionCode

/-! ## Results inside the decimal range -/

namespace Dec

theorem exists_ofUnits_ok_of_le {u : ℤ} {c : Dec} (h0 : 0 ≤ u) (h : u ≤ c.units) :
    ∃ d, ofUnits u = .ok d := by
  apply exists_ofUnits_ok
  have := c.bounded
  omega

theorem exists_mul_ok {a b c : Dec} (ha : 0 ≤ a.units) (hb : 0 ≤ b.units)
    (h : a.units * b.units ≤ c.units * SCALE) : ∃ d, a.mul b = .ok d ∧ d ≤ c := by
  have hs : (0 : ℚ) < SCALE := by exact_mod_cast SCALE_pos
  have hle : Rounding.halfEven (((a.units * b.units : ℤ) : ℚ) / SCALE) ≤ c.units := by
    apply Rounding.halfEven_le_of_le
    rw [div_le_iff₀ hs]
    exact_mod_cast h
  have hnonneg : 0 ≤ Rounding.halfEven (((a.units * b.units : ℤ) : ℚ) / SCALE) := by
    apply Rounding.halfEven_nonneg
    have : (0 : ℚ) ≤ ((a.units * b.units : ℤ) : ℚ) := by exact_mod_cast Int.mul_nonneg ha hb
    exact div_nonneg this hs.le
  obtain ⟨d, hd⟩ := exists_ofUnits_ok_of_le hnonneg hle
  refine ⟨d, mul_ok.mpr (ofUnits_ok.mp hd), ?_⟩
  rw [le_def, ofUnits_ok.mp hd]
  exact hle

theorem exists_div_ok {a b c : Dec} (ha : 0 ≤ a.units) (hb : 0 < b.units)
    (h : a.units * SCALE ≤ c.units * b.units) : ∃ d, a.div b = .ok (some d) ∧ 0 ≤ d.units ∧ d ≤ c := by
  have hbq : (0 : ℚ) < b.units := by exact_mod_cast hb
  have hle : Rounding.halfEven (((a.units * SCALE : ℤ) : ℚ) / b.units) ≤ c.units := by
    apply Rounding.halfEven_le_of_le
    rw [div_le_iff₀ hbq]
    exact_mod_cast h
  have hnonneg : 0 ≤ Rounding.halfEven (((a.units * SCALE : ℤ) : ℚ) / b.units) := by
    apply Rounding.halfEven_nonneg
    have : (0 : ℚ) ≤ ((a.units * SCALE : ℤ) : ℚ) := by exact_mod_cast Int.mul_nonneg ha SCALE_pos.le
    exact div_nonneg this hbq.le
  obtain ⟨d, hd⟩ := exists_ofUnits_ok_of_le hnonneg hle
  have hunits := ofUnits_ok.mp hd
  refine ⟨d, (div_ok hb.ne').mpr ⟨d, rfl, hunits⟩, ?_, ?_⟩
  · rw [hunits]
    exact hnonneg
  · rw [le_def, hunits]
    exact hle

theorem exists_div_down_ok {a b : Dec} (ha : 0 ≤ a.units) (hb : 0 < b.units)
    (h : a.units * SCALE / b.units ≤ MAX_ABS) : ∃ d, a.div b .down = .ok (some d) := by
  have h0 : 0 ≤ a.units * SCALE / b.units :=
    Int.ediv_nonneg (Int.mul_nonneg ha SCALE_pos.le) hb.le
  obtain ⟨d, hd⟩ : ∃ d, ofUnits (a.units * SCALE / b.units) = .ok d :=
    exists_ofUnits_ok (by omega)
  refine ⟨d, ?_⟩
  unfold div
  rw [if_neg hb.ne', divRound_down _ hb.ne',
    Int.tdiv_eq_ediv_of_nonneg (Int.mul_nonneg ha SCALE_pos.le)]
  simp only [Except.bind_ok_iff]
  exact ⟨_, rfl, d, hd, rfl⟩

theorem exists_floorToStep_ok {a step : Dec} (ha : 0 ≤ a.units) (hs : 0 < step.units) :
    ∃ d, a.floorToStep step = .ok (some d) := by
  have h0 : 0 ≤ a.units / step.units * step.units :=
    Int.mul_nonneg (Int.ediv_nonneg ha hs.le) hs.le
  have hle : a.units / step.units * step.units ≤ a.units := Int.ediv_mul_le _ hs.ne'
  obtain ⟨d, hd⟩ := exists_ofUnits_ok_of_le h0 hle
  refine ⟨d, ?_⟩
  unfold floorToStep
  rw [if_pos (isPositive_iff.mpr hs), divFloor_of_pos _ hs]
  simp only [Except.bind_ok_iff]
  exact ⟨_, rfl, d, hd, rfl⟩

end Dec

/-! ## The percentage budget -/

theorem percentOf_eq_some {equity pct b : Dec} :
    percentOf equity pct = .ok (some b) ↔
      ∃ m, equity.mul pct = .ok m ∧ b.units = Rounding.halfEven ((m.units : ℚ) / 100) := by
  have hhundred : Dec.hundred.units ≠ 0 := by decide
  have hquot : ∀ m : Dec, (((m.units * SCALE : ℤ) : ℚ) / Dec.hundred.units) = (m.units : ℚ) / 100 := by
    intro m
    have hs : (SCALE : ℚ) ≠ 0 := by exact_mod_cast Dec.SCALE_pos.ne'
    show (((m.units * SCALE : ℤ) : ℚ) / ((100 * SCALE : ℤ) : ℚ)) = (m.units : ℚ) / 100
    push_cast
    exact mul_div_mul_right _ _ hs
  unfold percentOf
  simp only [Except.bind_ok_iff, Dec.div_ok hhundred, hquot]
  constructor
  · rintro ⟨m, hm, d, hd, hu⟩
    cases hd
    exact ⟨m, hm, hu⟩
  · rintro ⟨m, hm, hu⟩
    exact ⟨m, hm, b, rfl, hu⟩

theorem exists_percentOf_ok {equity pct : Dec} (he : 0 ≤ equity.units) (hp : 0 ≤ pct.units)
    (hone : pct.units ≤ SCALE) :
    ∃ b, percentOf equity pct = .ok (some b) ∧ b ≤ equity := by
  obtain ⟨m, hm, hme⟩ := Dec.exists_mul_ok (c := equity) he hp (Int.mul_le_mul_of_nonneg_left hone he)
  have hm0 : 0 ≤ m.units := Dec.mul_nonneg he hp hm
  have hm0q : (0 : ℚ) ≤ m.units := by exact_mod_cast hm0
  have hle : Rounding.halfEven ((m.units : ℚ) / 100) ≤ m.units := by
    apply Rounding.halfEven_le_of_le
    linarith
  have hnonneg : 0 ≤ Rounding.halfEven ((m.units : ℚ) / 100) :=
    Rounding.halfEven_nonneg (by positivity)
  obtain ⟨b, hb⟩ := Dec.exists_ofUnits_ok_of_le hnonneg hle
  refine ⟨b, percentOf_eq_some.mpr ⟨m, hm, Dec.ofUnits_ok.mp hb⟩, ?_⟩
  rw [Dec.le_def] at hme ⊢
  rw [Dec.ofUnits_ok.mp hb]
  exact hle.trans hme

theorem percentOf_mono {equity pct pct' b b' : Dec} (he : 0 ≤ equity.units) (hp : 0 ≤ pct.units)
    (hle : pct ≤ pct') (h : percentOf equity pct = .ok (some b))
    (h' : percentOf equity pct' = .ok (some b')) : b ≤ b' := by
  obtain ⟨m, hm, hu⟩ := percentOf_eq_some.mp h
  obtain ⟨m', hm', hu'⟩ := percentOf_eq_some.mp h'
  have hmm : m.units ≤ m'.units := Dec.mul_mono hp he le_rfl hle hm hm'
  rw [Dec.le_def, hu, hu']
  apply Rounding.halfEven_mono
  have : (m.units : ℚ) ≤ m'.units := by exact_mod_cast hmm
  linarith

theorem halfEven_le_add_half (x : ℚ) : (Rounding.halfEven x : ℚ) ≤ x + 1 / 2 := by
  have := (abs_le.mp (Rounding.isNearestEven_halfEven x).1).1
  linarith

theorem percentOf_le_mul {equity pct pct' b b' : Dec} (he : 0 < equity.units) (hp : 0 < pct.units)
    (hone : pct'.units ≤ SCALE) (hb : 0 < b.units) (h : percentOf equity pct = .ok (some b))
    (h' : percentOf equity pct' = .ok (some b')) : b'.units ≤ 2 * SCALE * b.units := by
  obtain ⟨m, hm, hu⟩ := percentOf_eq_some.mp h
  obtain ⟨m', hm', hu'⟩ := percentOf_eq_some.mp h'
  rw [Dec.mul_ok] at hm hm'
  have hlow := sub_half_le_halfEven (((equity.units * pct.units : ℤ) : ℚ) / SCALE)
  have hhigh := halfEven_le_add_half (((equity.units * pct'.units : ℤ) : ℚ) / SCALE)
  rw [← hm] at hlow
  rw [← hm'] at hhigh
  have hblow := sub_half_le_halfEven ((m.units : ℚ) / 100)
  have hbhigh := halfEven_le_add_half ((m'.units : ℚ) / 100)
  rw [← hu] at hblow
  rw [← hu'] at hbhigh
  have hscale : (SCALE : ℚ) = 10000000000 := by norm_num [SCALE, DEC_SCALE]
  -- the equity itself is at most the scale times the exact product
  have hequity : (((equity.units * pct'.units : ℤ) : ℚ) / SCALE) ≤
      SCALE * (((equity.units * pct.units : ℤ) : ℚ) / SCALE) := by
    rw [hscale]
    have hq : (equity.units : ℚ) * pct'.units ≤ equity.units * (SCALE * pct.units) := by
      have : equity.units * pct'.units ≤ equity.units * (SCALE * pct.units) := by
        apply Int.mul_le_mul_of_nonneg_left _ he.le
        nlinarith [Dec.SCALE_pos]
      exact_mod_cast this
    rw [hscale] at hq
    push_cast
    linarith
  have hbq : (1 : ℚ) ≤ b.units := by exact_mod_cast hb
  rw [hscale] at hlow hhigh hequity
  generalize (((equity.units * pct.units : ℤ) : ℚ) / 10000000000) = exact at hlow hequity
  generalize (((equity.units * pct'.units : ℤ) : ℚ) / 10000000000) = exact' at hhigh hequity
  have hle : (b'.units : ℚ) ≤ 2 * SCALE * b.units := by
    rw [hscale]
    linarith
  exact_mod_cast hle

/-! ## Sizing under a larger percentage -/

theorem budget_growth {input input' : SizingInput} {pct pct' budget budget' : Dec} {k : ℤ}
    (hmax : input'.maxMonetaryRisk = input.maxMonetaryRisk) (hextra : input'.extraCaps = input.extraCaps)
    (hb : IsLeast {b | b ∈ budgetTerms input pct} budget)
    (hb' : IsLeast {b | b ∈ budgetTerms input' pct'} budget') (hle : pct ≤ pct') (hk : 1 ≤ k)
    (hpos : 0 < budget.units) (hgrow : pct'.units ≤ k * pct.units) :
    budget ≤ budget' ∧ budget'.units ≤ k * budget.units := by
  unfold budgetTerms at hb hb'
  rw [hmax, hextra] at hb'
  constructor
  · rcases List.mem_cons.mp hb'.1 with heq | hmem
    · rw [heq]
      exact (hb.2 List.mem_cons_self).trans hle
    · exact hb.2 (List.mem_cons_of_mem _ hmem)
  · rcases List.mem_cons.mp hb.1 with heq | hmem
    · have : budget'.units ≤ pct'.units := hb'.2 List.mem_cons_self
      rw [heq]
      exact this.trans hgrow
    · have : budget'.units ≤ budget.units := hb'.2 (List.mem_cons_of_mem _ hmem)
      nlinarith

theorem exists_raw_of_growth {budget budget' vpu rawQty step qty : Dec} (hb : 0 < budget.units)
    (hv : 0 < vpu.units) (hraw : budget.div vpu .down = .ok (some rawQty))
    (hqty : rawQty.floorToStep step = .ok (some qty)) (hq : 0 < qty.units)
    (hqmax : qty.units ≤ 100 * SCALE) (hb' : 0 < budget'.units)
    (hgrow : budget'.units ≤ 2 * SCALE * budget.units) :
    ∃ raw', budget'.div vpu .down = .ok (some raw') := by
  apply Dec.exists_div_down_ok hb'.le hv
  have hX := Dec.div_down_ok hb.le hraw
  have hlt := raw_lt_of_floor hqty hq
  have hbig : budget.units * SCALE < (rawQty.units + 1) * vpu.units := by
    rw [hX]
    exact Int.lt_ediv_add_one_mul_self _ hv
  have hraw200 : (rawQty.units + 1) * vpu.units ≤ 200 * SCALE * vpu.units :=
    Int.mul_le_mul_of_nonneg_right (by linarith) hv.le
  have hgrown : budget'.units * SCALE ≤ 400 * SCALE * SCALE * vpu.units := by
    have := Int.mul_le_mul_of_nonneg_right hgrow Dec.SCALE_pos.le
    nlinarith [Dec.SCALE_pos]
  have hdiv : budget'.units * SCALE / vpu.units ≤ 400 * SCALE * SCALE := by
    apply Int.ediv_le_of_le_mul hv
    exact hgrown
  have hrange : 400 * SCALE * SCALE ≤ (MAX_ABS : ℤ) := by norm_num [SCALE, DEC_SCALE, MAX_ABS]
  exact hdiv.trans hrange

theorem pct_pos_of_percentOf {equity pct b : Dec} (he : 0 < equity.units)
    (h : percentOf equity pct = .ok (some b)) (hb : 0 < b.units) : 0 < pct.units := by
  obtain ⟨m, hm, hu⟩ := percentOf_eq_some.mp h
  rw [Dec.mul_ok] at hm
  by_contra hp
  have hs : (0 : ℚ) < SCALE := by exact_mod_cast Dec.SCALE_pos
  have hprod : ((equity.units * pct.units : ℤ) : ℚ) ≤ 0 := by
    exact_mod_cast Int.mul_nonpos_of_nonneg_of_nonpos he.le (not_lt.mp hp)
  have hm0 : m.units ≤ 0 := by
    rw [hm]
    apply Rounding.halfEven_le_of_le
    push_cast at hprod ⊢
    exact div_nonpos_of_nonpos_of_nonneg hprod hs.le
  have hm0q : (m.units : ℚ) ≤ 0 := by exact_mod_cast hm0
  have hb0 : b.units ≤ 0 := by
    rw [hu]
    apply Rounding.halfEven_le_of_le
    push_cast
    linarith
  omega

theorem error_of_bind {ε α β : Type} {x : Except ε α} {f : α → Except ε β} {v : α} {e : ε}
    (hx : x = .ok v) (h : x >>= f = .error e) : f v = .error e := by
  rw [hx] at h
  exact h

theorem error_of_require {α : Type} {p : Prop} [Decidable p] {code e : RiskRejectionCode}
    {f : Unit → Except RiskRejectionCode α} (hp : p) (h : require p code >>= f = .error e) :
    f () = .error e := error_of_bind (require_ok.mpr hp) h

/-- **A larger percentage gives a larger size, or one above the maximum.** -/
theorem sizePosition_larger {input : SizingInput} {pct : Dec} {s : SizingSuccess}
    (hs : sizePosition input = .ok s) (hle : input.riskPct ≤ pct) (hone : pct.units ≤ SCALE) :
    (∃ s', sizePosition { input with riskPct := pct } = .ok s' ∧ s.quantity ≤ s'.quantity ∧
        s.monetaryRisk ≤ s'.monetaryRisk) ∨
      sizePosition { input with riskPct := pct } = .error POSITION_SIZE_EXCEEDS_MAXIMUM := by
  obtain ⟨spec, difference, pctT, cappedT, budgetT, vpu, rawT, step, minQ, specMax, platformMax, hequity,
    hprices, hdiff, -, hdist, hspec, hvalid, hpctT, hcappedT, hbudgetT, hbposT, hvpu, hvpos, hrawT, hstep, hminQ,
    hspecMax, hplatform, hfloorT, hqposT, hqminT, hqmaxT, hriskT, -⟩ := exists_sizedBy hs
  rw [Dec.isPositive_iff] at hequity hbposT hvpos hqposT
  have hleastT := budget_isLeast hcappedT hbudgetT
  have hpctTpos : 0 < pctT.units := lt_of_lt_of_le hbposT (hleastT.2 List.mem_cons_self)
  have hp : 0 < input.riskPct.units := pct_pos_of_percentOf hequity hpctT hpctTpos
  obtain ⟨pctF, hpctF, hpctFe⟩ := exists_percentOf_ok hequity.le (hp.le.trans hle) hone
  have hpctle : pctT ≤ pctF := percentOf_mono hequity.le hp.le hle hpctT hpctF
  have hpctgrow := percentOf_le_mul hequity hp hone hpctTpos hpctT hpctF
  -- what holds of any budget the larger percentage leads to
  have hbudget : ∀ {capped budget : Dec}, applyMonetaryCap pctF input.maxMonetaryRisk = .ok capped →
      applyExtraCaps capped input.extraCaps = .ok budget →
      budgetT ≤ budget ∧ budget.units ≤ 2 * SCALE * budgetT.units ∧ budget ≤ pctF := by
    intro capped budget hc hb
    have hleast : IsLeast {b | b ∈ budgetTerms { input with riskPct := pct } pctF} budget :=
      @budget_isLeast { input with riskPct := pct } pctF capped budget hc hb
    obtain ⟨h1, h2⟩ := budget_growth rfl rfl hleastT hleast hpctle (by decide) hbposT hpctgrow
    exact ⟨h1, h2, hleast.2 List.mem_cons_self⟩
  have hcapspos : ∀ d ∈ input.maxMonetaryRisk.toList ++ input.extraCaps, 0 < d.units := fun d hd =>
    lt_of_lt_of_le hbposT (hleastT.2 (List.mem_cons_of_mem _ hd))
  have hqty : ∀ {budget raw qty : Dec}, budgetT ≤ budget → budget.div vpu .down = .ok (some raw) →
      raw.floorToStep step = .ok (some qty) → s.quantity ≤ qty := by
    intro budget raw qty hbb hraw hfloor
    have hrawle : rawT.units ≤ raw.units := by
      rw [Dec.div_down_ok hbposT.le hrawT, Dec.div_down_ok (hbposT.le.trans hbb) hraw]
      exact Int.ediv_le_ediv hvpos (Int.mul_le_mul_of_nonneg_right hbb Dec.SCALE_pos.le)
    obtain ⟨hsteppos, hqT⟩ := Dec.floorToStep_ok hfloorT
    rw [Dec.le_def, hqT, (Dec.floorToStep_ok hfloor).2]
    exact Int.mul_le_mul_of_nonneg_right (Int.ediv_le_ediv hsteppos hrawle) hsteppos.le
  cases hF : sizePosition { input with riskPct := pct } with
  | ok s' =>
    refine .inl ⟨s', rfl, ?_⟩
    obtain ⟨specF, differenceF, pctF', cappedF, budgetF, vpuF, rawF, stepF, minQF, specMaxF, platformMaxF, -, -,
      hdiffF, -, -, hspecF, -, hpctF', hcappedF, hbudgetF, -, hvpuF, -, hrawF, hstepF, -, -, -, hfloorF, -, -, -,
      hriskF, -⟩ := exists_sizedBy hF
    cases hdiff.symm.trans hdiffF
    cases hspec.symm.trans hspecF
    cases hpctF.symm.trans hpctF'
    cases hvpu.symm.trans hvpuF
    cases hstep.symm.trans hstepF
    have hle := hqty (hbudget hcappedF hbudgetF).1 hrawF hfloorF
    rw [monetaryRiskFor_eq_some] at hriskT hriskF
    exact ⟨hle, Dec.mul_mono hvpos.le hqposT.le hle le_rfl hriskT hriskF⟩
  | error e =>
    refine .inr ?_
    unfold sizePosition at hF
    -- the steps before the budget read nothing but what the first run read
    replace hF := error_of_require (Dec.isPositive_iff.mpr hequity) hF
    replace hF := error_of_require hprices hF
    replace hF := error_of_bind (liftOverflow_ok.mpr hdiff) hF
    replace hF := error_of_require hdist hF
    replace hF := error_of_bind (orFail_ok.mpr hspec) hF
    replace hF := error_of_require hvalid hF
    replace hF := error_of_bind (liftOverflow_ok.mpr hpctF) hF
    replace hF := error_of_bind (orFail_ok.mpr rfl) hF
    rcases bind_eq_error_iff.mp hF with hno | ⟨cappedF, hcappedF, hF⟩
    · obtain ⟨d, hd, hneg⟩ := applyMonetaryCap_error hno
      have hd : input.maxMonetaryRisk = some d := hd
      have := hcapspos d (List.mem_append_left _ (Option.mem_toList.mpr hd))
      omega
    rcases bind_eq_error_iff.mp hF with hno | ⟨budgetF, hbudgetF, hF⟩
    · obtain ⟨d, hd, hneg⟩ := applyExtraCaps_error hno
      have := hcapspos d (List.mem_append_right _ hd)
      omega
    obtain ⟨hbb, hgrow, hbpct⟩ := hbudget hcappedF hbudgetF
    have hbposF : 0 < budgetF.units := lt_of_lt_of_le hbposT hbb
    replace hF := error_of_require (Dec.isPositive_iff.mpr hbposF) hF
    replace hF := error_of_bind (orFail_ok.mpr hvpu) hF
    replace hF := error_of_require (Dec.isPositive_iff.mpr hvpos) hF
    have hq100 : s.quantity.units ≤ 100 * SCALE := by
      have hmax : Dec.fromNumber PLATFORM_RISK_CEILINGS.maxPositionSize = some Dec.hundred := by
        decide +kernel
      cases hplatform.symm.trans hmax
      exact hqmaxT.trans (min_le_right _ _)
    obtain ⟨rawF, hrawF⟩ := exists_raw_of_growth hbposT hvpos hrawT hfloorT hqposT hq100 hbposF hgrow
    replace hF := error_of_bind (liftOverflow_ok.mpr hrawF) hF
    replace hF := error_of_bind (orFail_ok.mpr rfl) hF
    replace hF := error_of_bind (orFail_ok.mpr hstep) hF
    replace hF := error_of_bind (orFail_ok.mpr hminQ) hF
    replace hF := error_of_bind (orFail_ok.mpr hspecMax) hF
    replace hF := error_of_bind (orFail_ok.mpr hplatform) hF
    have hraw0 : 0 ≤ rawF.units := by
      rw [Dec.div_down_ok hbposF.le hrawF]
      exact Int.ediv_nonneg (Int.mul_nonneg hbposF.le Dec.SCALE_pos.le) hvpos.le
    obtain ⟨qtyF, hfloorF⟩ := Dec.exists_floorToStep_ok hraw0 (Dec.floorToStep_ok hfloorT).1
    have hqq := hqty hbb hrawF hfloorF
    have hqposF : 0 < qtyF.units := lt_of_lt_of_le hqposT hqq
    replace hF := error_of_bind (liftOverflow_ok.mpr hfloorF) hF
    replace hF := error_of_bind (orFail_ok.mpr rfl) hF
    replace hF := error_of_require (Dec.isPositive_iff.mpr hqposF) hF
    replace hF := error_of_require (hqminT.trans hqq) hF
    rcases bind_eq_error_iff.mp hF with hmax | ⟨_, -, hF⟩
    · rw [(require_error.mp hmax).2]
    -- the floored quantity is inside the budget, and the budget inside the equity
    have hfits : qtyF.units * vpu.units ≤ budgetF.units * SCALE := by
      obtain ⟨k, hk⟩ := floored_multiple hfloorF
      rw [hk, fits_iff hbposF hvpos hrawF hfloorF k, hk]
    obtain ⟨riskF, hmulF, hriskle⟩ := Dec.exists_mul_ok hqposF.le hvpos.le hfits
    have hrisk0 : 0 ≤ riskF.units := Dec.mul_nonneg hqposF.le hvpos.le hmulF
    replace hF := error_of_bind (orFail_ok.mpr (monetaryRiskFor_eq_some.mpr hmulF)) hF
    replace hF := error_of_require hriskle hF
    have hinside : riskF.units * SCALE ≤ SCALE * input.equity.units := by
      have : riskF.units ≤ input.equity.units := hriskle.trans (hbpct.trans hpctFe)
      nlinarith [Dec.SCALE_pos]
    obtain ⟨fractionF, hfracF, hfrac0, hfrac1⟩ :=
      Dec.exists_div_ok (c := ⟨SCALE, by decide⟩) hrisk0 hequity hinside
    replace hF := error_of_bind (liftOverflow_ok.mpr hfracF) hF
    replace hF := error_of_bind (orFail_ok.mpr rfl) hF
    have hwhole : fractionF.units * Dec.hundred.units ≤ Dec.hundred.units * SCALE := by
      rw [mul_comm]
      exact Int.mul_le_mul_of_nonneg_left hfrac1 (by decide)
    obtain ⟨d, hd, -⟩ := Dec.exists_mul_ok hfrac0 (by decide) hwhole
    cases error_of_bind (liftOverflow_ok.mpr hd) hF

/-! ## Exposure sums inside the decimal range -/

theorem valuePerUnit_nonneg {spec : InstrumentRiskSpec} {entry distance vpu : Dec}
    (hd : 0 ≤ distance.units) (h : valuePerUnit spec entry distance = some vpu) : 0 ≤ vpu.units := by
  simp only [valuePerUnit, bind, Option.bind_eq_some_iff, guard] at h
  obtain ⟨contract, -, _, hcontract, product, hproduct, h⟩ := h
  have hpos : 0 < contract.units := by
    split at hcontract
    · rename_i hp
      exact Dec.isPositive_iff.mp hp
    · cases hcontract
  have hproduct0 : 0 ≤ product.units := by
    cases hm : contract.mul distance with
    | error e =>
      rw [hm] at hproduct
      cases hproduct
    | ok q =>
      rw [hm] at hproduct
      cases hproduct
      exact Dec.mul_nonneg hpos.le hd hm
  cases hmode : spec.pnlMode with
  | quote_linear =>
    rw [hmode] at h
    cases h
    exact hproduct0
  | base_linear =>
    rw [hmode] at h
    simp only [Option.bind_eq_some_iff] at h
    obtain ⟨_, hentry, q, hq, h⟩ := h
    cases h
    have hentrypos : 0 < entry.units := by
      split at hentry
      · rename_i hp
        exact Dec.isPositive_iff.mp hp
      · cases hentry
    cases hdiv : product.div entry with
    | error e =>
      rw [hdiv] at hq
      cases hq
    | ok q =>
      rw [hdiv] at hq
      cases hq
      obtain ⟨d, hd, hu⟩ := (Dec.div_ok hentrypos.ne').mp hdiv
      cases hd
      rw [hu]
      apply Rounding.halfEven_nonneg
      have hn : (0 : ℚ) ≤ ((product.units * SCALE : ℤ) : ℚ) := by
        exact_mod_cast Int.mul_nonneg hproduct0 Dec.SCALE_pos.le
      exact div_nonneg hn (by exact_mod_cast hentrypos.le)

theorem openRiskUnits_nonneg (p : OpenPositionSnapshot) : 0 ≤ openRiskUnits p := by
  unfold openRiskUnits
  split
  · rename_i r hr
    unfold openRiskOf at hr
    split at hr
    · split at hr
      · rename_i spec stopLoss _ _ hpos
        simp only [Bool.and_eq_true, Dec.isPositive_iff] at hpos
        simp only [Except.bind_ok_iff] at hr
        obtain ⟨difference, -, hr⟩ := hr
        split at hr
        · have hsome := Except.ok.inj hr
          obtain ⟨vpu, hvpu, hrisk⟩ := Option.bind_eq_some_iff.mp hsome
          rw [monetaryRiskFor_eq_some] at hrisk
          exact Dec.mul_nonneg hpos.1.le (valuePerUnit_nonneg (abs_nonneg _) hvpu) hrisk
        · cases hr
      · cases hr
    · cases hr
  · exact le_rfl

theorem sum_filter_nonneg {α : Type} (sel : α → Bool) {f : α → ℤ} {l : List α}
    (h : ∀ a ∈ l, 0 ≤ f a) : 0 ≤ ((l.filter sel).map f).sum := by
  apply List.sum_nonneg
  intro x hx
  obtain ⟨a, ha, rfl⟩ := List.mem_map.mp hx
  exact h a (List.mem_filter.mp ha).1

theorem sum_filter_le {α : Type} (sel : α → Bool) {f : α → ℤ} {l : List α} (h : ∀ a ∈ l, 0 ≤ f a) :
    ((l.filter sel).map f).sum ≤ (l.map f).sum := by
  induction l with
  | nil => simp
  | cons a l ih =>
    have ha := h a List.mem_cons_self
    have hl := ih (fun b hb => h b (List.mem_cons_of_mem _ hb))
    rw [List.filter_cons, List.map_cons, List.sum_cons]
    split
    · rw [List.map_cons, List.sum_cons]
      omega
    · omega

theorem exists_foldlM_addOpenRisk_ok (sel : OpenPositionSnapshot → Bool)
    {ps : List OpenPositionSnapshot} (hcomp : ∀ p ∈ ps, Computable p) :
    ∀ acc : Dec × Bool, 0 ≤ acc.1.units →
      acc.1.units + ((ps.filter sel).map openRiskUnits).sum ≤ MAX_ABS →
      ∃ acc', ps.foldlM (addOpenRisk sel) acc = .ok acc' := by
  induction ps with
  | nil => exact fun acc _ _ => ⟨acc, rfl⟩
  | cons p ps ih =>
    intro acc h0 hle
    obtain ⟨r, hr⟩ := hcomp p List.mem_cons_self
    have hps := fun q hq => hcomp q (List.mem_cons_of_mem p hq)
    have hrisk : openRiskUnits p = r.units := by simp [openRiskUnits, hr]
    have hr0 := openRiskUnits_nonneg p
    have hrest : 0 ≤ ((ps.filter sel).map openRiskUnits).sum :=
      sum_filter_nonneg sel (fun q _ => openRiskUnits_nonneg q)
    simp only [List.foldlM_cons, Except.bind_ok_iff]
    by_cases hsel : sel p = true
    · rw [List.filter_cons_of_pos hsel, List.map_cons, List.sum_cons] at hle
      obtain ⟨sum, hsum⟩ : ∃ sum, acc.1.add r = .ok sum := Dec.exists_ofUnits_ok (by omega)
      have hunits := Dec.add_ok.mp hsum
      obtain ⟨acc', hacc'⟩ := ih hps (sum, acc.2) (by dsimp only; omega) (by dsimp only; omega)
      refine ⟨acc', (sum, acc.2), ?_, hacc'⟩
      rw [addOpenRisk, if_pos hsel, hr]
      show (acc.1.add r >>= fun sum => pure (sum, acc.2)) = .ok (sum, acc.2)
      rw [hsum]
      rfl
    · rw [List.filter_cons_of_neg hsel] at hle
      obtain ⟨acc', hacc'⟩ := ih hps acc h0 hle
      refine ⟨acc', acc, ?_, hacc'⟩
      rw [addOpenRisk, if_neg hsel]
      rfl

theorem exists_foldlM_addReservation_ok (sel : ReservationSnapshot → Bool)
    {rs : List ReservationSnapshot} (hres : ∀ r ∈ rs, 0 ≤ r.monetaryRisk.units) :
    ∀ acc : Dec, 0 ≤ acc.units →
      acc.units + ((rs.filter sel).map fun r => r.monetaryRisk.units).sum ≤ MAX_ABS →
      ∃ acc', rs.foldlM (addReservation sel) acc = .ok acc' := by
  induction rs with
  | nil => exact fun acc _ _ => ⟨acc, rfl⟩
  | cons r rs ih =>
    intro acc h0 hle
    have hr0 := hres r List.mem_cons_self
    have hrs := fun q hq => hres q (List.mem_cons_of_mem r hq)
    have hrest : 0 ≤ ((rs.filter sel).map fun r => r.monetaryRisk.units).sum := sum_filter_nonneg sel hrs
    simp only [List.foldlM_cons, Except.bind_ok_iff]
    by_cases hsel : sel r = true
    · rw [List.filter_cons_of_pos hsel, List.map_cons, List.sum_cons] at hle
      obtain ⟨sum, hsum⟩ : ∃ sum, acc.add r.monetaryRisk = .ok sum := Dec.exists_ofUnits_ok (by omega)
      have hunits := Dec.add_ok.mp hsum
      obtain ⟨acc', hacc'⟩ := ih hrs sum (by omega) (by omega)
      refine ⟨acc', sum, ?_, hacc'⟩
      rw [addReservation, if_pos hsel]
      exact hsum
    · rw [List.filter_cons_of_neg hsel] at hle
      obtain ⟨acc', hacc'⟩ := ih hrs acc h0 hle
      refine ⟨acc', acc, ?_, hacc'⟩
      rw [addReservation, if_neg hsel]
      rfl

theorem exposureUnits_le {input : RiskEngineInput} (selP : OpenPositionSnapshot → Bool)
    (selR : ReservationSnapshot → Bool) (hres : ∀ r ∈ input.reservations, 0 ≤ r.monetaryRisk.units) :
    0 ≤ exposureUnits input selP selR ∧
      exposureUnits input selP selR ≤ exposureUnits input (fun _ => true) (fun _ => true) := by
  have hp : ∀ p ∈ input.openPositions, 0 ≤ openRiskUnits p := fun p _ => openRiskUnits_nonneg p
  unfold exposureUnits
  have h1 := sum_filter_nonneg selP hp
  have h2 := sum_filter_nonneg selR hres
  have h3 := sum_filter_le selP hp
  have h4 := sum_filter_le selR hres
  simp only [List.filter_true]
  omega

theorem exists_sumRisk_ok {input : RiskEngineInput} {start : Dec} (selP : OpenPositionSnapshot → Bool)
    (selR : ReservationSnapshot → Bool) (hcomp : ∀ p ∈ input.openPositions, Computable p)
    (hres : ∀ r ∈ input.reservations, 0 ≤ r.monetaryRisk.units) (h0 : 0 ≤ start.units)
    (hle : start.units + exposureUnits input selP selR ≤ MAX_ABS) :
    ∃ t, sumRisk start selP selR input.openPositions input.reservations = .ok (t, false) := by
  have hres0 : 0 ≤ ((input.reservations.filter selR).map fun r => r.monetaryRisk.units).sum :=
    sum_filter_nonneg selR hres
  have hpos0 : 0 ≤ ((input.openPositions.filter selP).map openRiskUnits).sum :=
    sum_filter_nonneg selP (fun p _ => openRiskUnits_nonneg p)
  unfold exposureUnits at hle
  obtain ⟨acc, hacc⟩ := exists_foldlM_addOpenRisk_ok selP hcomp (start, false) h0 (by dsimp only; omega)
  obtain ⟨hu, hf⟩ := foldlM_addOpenRisk_ok hacc
  dsimp only at hu
  have hflag : acc.2 = false := hf.mpr ⟨rfl, fun p hp _ => hcomp p hp⟩
  obtain ⟨t, ht⟩ := exists_foldlM_addReservation_ok selR hres acc.1
    (by omega) (by omega)
  refine ⟨t, ?_⟩
  simp only [sumRisk, Except.bind_ok_iff]
  exact ⟨acc, hacc, t, ht, by rw [hflag]; rfl⟩

/-! ## The policy with and without the override -/

/-- The input with the strategy override removed. -/
def RiskEngineInput.withoutOverride (input : RiskEngineInput) : RiskEngineInput :=
  { input with strategyOverride := none }

theorem applyPlatformCeilings_riskPct (raw : RawRiskPolicy) :
    ∃ q : ℚ, (applyPlatformCeilings raw).riskPctPerTrade = .fin q ∧ 0 < q ∧ q ≤ 1 := by
  show ∃ q : ℚ, capPct raw.riskPctPerTrade 1 (.fin (1 / 2)) = .fin q ∧ 0 < q ∧ q ≤ 1
  unfold capPct
  split
  · rename_i hpos
    cases hraw : raw.riskPctPerTrade with
    | fin q =>
      rw [hraw, isPositiveFinite_fin, decide_eq_true_eq] at hpos
      exact ⟨min q 1, JsNumber.min_fin q 1, lt_min hpos one_pos, min_le_right q 1⟩
    | nan => simp [hraw, isPositiveFinite, JsNumber.isFinite] at hpos
    | posInf => simp [hraw, isPositiveFinite, JsNumber.isFinite] at hpos
    | negInf => simp [hraw, isPositiveFinite, JsNumber.isFinite] at hpos
  · exact ⟨min (1 / 2) 1, JsNumber.min_fin _ 1, by norm_num, by norm_num⟩

theorem applyPlatformCeilings_minRr (raw : RawRiskPolicy) :
    ∃ m : ℚ, (applyPlatformCeilings raw).minRr = .fin m := by
  show ∃ m : ℚ, (if raw.minRr.isFinite then raw.minRr.max (.fin DEFAULT_MIN_RR)
    else .fin DEFAULT_MIN_RR) = .fin m
  split
  · rename_i hfin
    cases hraw : raw.minRr with
    | fin q => exact ⟨max q DEFAULT_MIN_RR, JsNumber.max_fin q _⟩
    | nan => simp [hraw, JsNumber.isFinite] at hfin
    | posInf => simp [hraw, JsNumber.isFinite] at hfin
    | negInf => simp [hraw, JsNumber.isFinite] at hfin
  · exact ⟨_, rfl⟩

theorem overrideMinRr_fin {policy : EffectiveRiskPolicy} {m : ℚ} (hm : policy.minRr = .fin m)
    (minRr : Option JsNumber) :
    ∃ m' : ℚ, (match minRr with
      | some x => if x.isFinite && JsNumber.lt policy.minRr x then x else policy.minRr
      | none => policy.minRr) = .fin m' ∧ m ≤ m' := by
  cases minRr with
  | none => exact ⟨m, hm, le_rfl⟩
  | some x =>
    dsimp only
    split
    · rename_i hx
      rw [hm, Bool.and_eq_true] at hx
      cases x with
      | fin x => exact ⟨x, rfl, (of_decide_eq_true hx.2).le⟩
      | nan => cases hx.1
      | posInf => cases hx.1
      | negInf => cases hx.1
    · exact ⟨m, hm, le_rfl⟩

theorem overrideRiskPct_fin {policy : EffectiveRiskPolicy} {q : ℚ} (hq : policy.riskPctPerTrade = .fin q)
    (hpos : 0 < q) (maxRiskPct : Option JsNumber) :
    ∃ q' : ℚ, (match maxRiskPct with
      | some x => if isPositiveFinite x then policy.riskPctPerTrade.min x else policy.riskPctPerTrade
      | none => policy.riskPctPerTrade) = .fin q' ∧ 0 < q' ∧ q' ≤ q := by
  cases maxRiskPct with
  | none => exact ⟨q, hq, hpos, le_rfl⟩
  | some x =>
    dsimp only
    split
    · rename_i hx
      cases x with
      | fin x =>
        rw [isPositiveFinite_fin, decide_eq_true_eq] at hx
        exact ⟨min q x, by rw [hq, JsNumber.min_fin], lt_min hpos hx, min_le_left q x⟩
      | nan => cases hx
      | posInf => cases hx
      | negInf => cases hx
    · exact ⟨q, hq, hpos, le_rfl⟩

/-- **What an override does to a policy**: a lower risk percentage, a higher minimum reward:risk. -/
theorem applyStrategyOverride_tightens {policy : EffectiveRiskPolicy} {q m : ℚ}
    (hq : policy.riskPctPerTrade = .fin q) (hpos : 0 < q) (hm : policy.minRr = .fin m)
    (override : Option StrategyRiskOverride) :
    ∃ q' m' : ℚ, (applyStrategyOverride policy override).1 =
      { policy with minRr := .fin m', riskPctPerTrade := .fin q' } ∧ 0 < q' ∧ q' ≤ q ∧ m ≤ m' := by
  have hsame : policy = { policy with minRr := .fin m, riskPctPerTrade := .fin q } := by
    rw [← hq, ← hm]
  unfold applyStrategyOverride
  cases override with
  | none => exact ⟨q, m, hsame, hpos, le_rfl, le_rfl⟩
  | some o =>
    dsimp only
    split
    · obtain ⟨m', hm', hmle⟩ := overrideMinRr_fin hm o.minRr
      obtain ⟨q', hq', hqpos, hqle⟩ := overrideRiskPct_fin hq hpos o.maxRiskPct
      refine ⟨q', m', ?_, hqpos, hqle, hmle⟩
      exact congrArg₂ (fun minRr riskPct => { policy with
        minRr := minRr, riskPctPerTrade := riskPct }) hm' hq'
    · exact ⟨q, m, hsame, hpos, le_rfl, le_rfl⟩

theorem fromNumber_mono {q q' : ℚ} {d' : Dec} (h0 : 0 ≤ q) (hle : q ≤ q')
    (h : Dec.fromNumber (.fin q') = some d') :
    ∃ d, Dec.fromNumber (.fin q) = some d ∧ 0 ≤ d.units ∧ d ≤ d' := by
  have hmono : JsNumber.toFixedUnits DEC_SCALE q ≤ JsNumber.toFixedUnits DEC_SCALE q' :=
    Rounding.halfAway_mono (mul_le_mul_of_nonneg_right hle (by positivity))
  have hnonneg : 0 ≤ JsNumber.toFixedUnits DEC_SCALE q := by
    have := Rounding.halfAway_mono (mul_nonneg h0 (by positivity : (0 : ℚ) ≤ 10 ^ DEC_SCALE))
    have hzero : Rounding.halfAway (0 : ℚ) = 0 := by
      simpa using Rounding.halfAway_intCast (α := ℚ) 0
    rwa [hzero] at this
  have hunits := Dec.fromNumber_eq_some h
  simp only [Dec.fromNumber] at h ⊢
  split at h
  · rename_i hlt
    have hlt' : (JsNumber.toFixedUnits DEC_SCALE q).natAbs < MAX_ABS := by omega
    refine ⟨⟨_, hlt'.le⟩, dif_pos hlt', hnonneg, ?_⟩
    rw [Dec.le_def, hunits]
    exact hmono
  · cases h

/-! ## The checks before sizing -/

theorem strategyMin_fin (strategyMin : Option JsNumber) :
    ∃ x : ℚ, (match strategyMin with
      | some m => if m.isFinite then m else .fin PLATFORM_RISK_CEILINGS.minRr
      | none => .fin PLATFORM_RISK_CEILINGS.minRr) = JsNumber.fin x := by
  cases strategyMin with
  | none => exact ⟨_, rfl⟩
  | some m =>
    cases m with
    | fin x => exact ⟨x, rfl⟩
    | nan => exact ⟨_, rfl⟩
    | posInf => exact ⟨_, rfl⟩
    | negInf => exact ⟨_, rfl⟩

theorem effectiveMinRr_fin (strategyMin : Option JsNumber) :
    ∃ k : ℚ, PLATFORM_RISK_CEILINGS.minRr ≤ k ∧
      ∀ m : ℚ, effectiveMinRr (.fin m) strategyMin = .fin (max m k) := by
  obtain ⟨x, hx⟩ := strategyMin_fin strategyMin
  refine ⟨max PLATFORM_RISK_CEILINGS.minRr x, le_max_left _ _, fun m => ?_⟩
  have heq : effectiveMinRr (.fin m) strategyMin =
      ((JsNumber.fin PLATFORM_RISK_CEILINGS.minRr).max (.fin m)).max (.fin x) := by
    rw [← hx]
    rfl
  rw [heq, JsNumber.max_fin, JsNumber.max_fin, max_comm _ m, max_assoc]

theorem calculateRr_lower {input : RrInput} {s : RrSuccess} {a b : ℚ} (h : calculateRr input = .ok s)
    (ha : input.minRr = .fin a) (hb : PLATFORM_RISK_CEILINGS.minRr ≤ b) (hle : b ≤ a) :
    ∃ s', calculateRr { input with minRr := .fin b } = .ok s' := by
  simp only [calculateRr, Except.bind_ok_iff, require_ok, orFail_ok, liftOverflow_ok] at h ⊢
  obtain ⟨stopLoss, hsl, takeProfit, htp, entry, hentry, sl, hsl', tp, htp', _, hpositive, distances, hdist,
    _, hrisk, _, hreward, _, hdiv, rr, rfl, _, hrr, min, hmin, _, -, _, hminle, -⟩ := h
  have hfloor0 : (0 : ℚ) ≤ PLATFORM_RISK_CEILINGS.minRr := by
    norm_num [PLATFORM_RISK_CEILINGS, DEFAULT_MIN_RR]
  rw [ha] at hmin
  obtain ⟨d, hd, -, hdle⟩ := fromNumber_mono (hfloor0.trans hb) hle hmin
  obtain ⟨floor, hfloor, -, hfloorle⟩ := fromNumber_mono hfloor0 hb hd
  have hpos : 0 < floor.units := by
    have hread : (Dec.fromNumber (.fin PLATFORM_RISK_CEILINGS.minRr)).any Dec.isPositive = true := by
      decide +kernel
    rw [hfloor] at hread
    exact Dec.isPositive_iff.mp hread
  exact ⟨_, stopLoss, hsl, takeProfit, htp, entry, hentry, sl, hsl', tp, htp', (), hpositive, distances,
    hdist, (), hrisk, (), hreward, _, hdiv, rr, rfl, (), hrr, d, hd, (),
    Dec.isPositive_iff.mpr (lt_of_lt_of_le hpos hfloorle), (), hdle.trans hminle, rfl⟩

theorem failureCode_eq_nil {α : Type} {x : Except RiskRejectionCode α} :
    failureCode x = [] ↔ ∃ a, x = .ok a := by
  cases x with
  | ok a => exact ⟨fun _ => ⟨a, rfl⟩, fun _ => rfl⟩
  | error e =>
    constructor
    · intro h
      cases h
    · rintro ⟨a, ha⟩
      cases ha

theorem failureCode_rr_withoutOverride {input : RiskEngineInput} {m m' : ℚ}
    (hm : input.policy.minRr = .fin m) (hm' : input.tightened.minRr = .fin m') (hle : m ≤ m')
    (h : failureCode (calculateRr input.rrInput) = []) :
    failureCode (calculateRr input.withoutOverride.rrInput) = [] := by
  obtain ⟨s, hs⟩ := failureCode_eq_nil.mp h
  obtain ⟨k, hk, heff⟩ := effectiveMinRr_fin input.strategyMinRr
  have htight : input.rrInput.minRr = .fin (max m' k) := by
    show effectiveMinRr input.tightened.minRr input.strategyMinRr = _
    rw [hm', heff]
  have hfree : input.withoutOverride.rrInput.minRr = .fin (max m k) := by
    show effectiveMinRr input.policy.minRr input.strategyMinRr = _
    rw [hm, heff]
  obtain ⟨s', hs'⟩ := calculateRr_lower hs htight (hk.trans (le_max_right m k)) (max_le_max_right k hle)
  refine failureCode_eq_nil.mpr ⟨s', ?_⟩
  rw [← hs']
  congr 1
  show input.withoutOverride.rrInput = { input.rrInput with minRr := .fin (max m k) }
  rw [← hfree]
  rfl

theorem exists_mapM_ok {ε α β : Type} {f : α → Except ε β} {l : List α}
    (h : ∀ a ∈ l, ∃ b, f a = .ok b) : ∃ r, l.mapM f = .ok r := by
  induction l with
  | nil => exact ⟨[], rfl⟩
  | cons a l ih =>
    obtain ⟨b, hb⟩ := h a List.mem_cons_self
    obtain ⟨r, hr⟩ := ih (fun a' ha' => h a' (List.mem_cons_of_mem _ ha'))
    refine ⟨b :: r, ?_⟩
    rw [List.mapM_cons]
    simp only [Except.bind_ok_iff]
    exact ⟨b, hb, r, hr, rfl⟩

theorem correlationViolations_free {input : RiskEngineInput} {policy tightened : EffectiveRiskPolicy}
    {risk : Dec} (risk' : Dec) (hcap : policy.maxCorrelationGroupExposurePct = tightened.maxCorrelationGroupExposurePct)
    (hreq : policy.correlationRequired = tightened.correlationRequired)
    (h : correlationViolations input tightened risk = .ok [])
    (hcomp : ∀ p ∈ input.openPositions, Computable p)
    (hres : ∀ r ∈ input.reservations, 0 ≤ r.monetaryRisk.units) (h0 : 0 ≤ risk'.units)
    (hle : risk'.units + exposureUnits input (fun _ => true) (fun _ => true) ≤ MAX_ABS) :
    ∃ codes, correlationViolations input policy risk' = .ok codes ∧
      ∀ code ∈ codes, code = CORRELATION_EXPOSURE_LIMIT := by
  simp only [correlationViolations, Except.bind_ok_iff] at h
  obtain ⟨groupCap, hgroupCap, perGroup, hmap, hnil⟩ := h
  obtain ⟨hmeta, hflat⟩ := List.append_eq_nil_iff.mp (Except.ok.inj hnil)
  have hgroup : ∀ gid ∈ input.candidateGroupIds,
      ∃ codes, groupViolations input policy risk' groupCap gid = .ok codes ∧
        ∀ code ∈ codes, code = CORRELATION_EXPOSURE_LIMIT := by
    intro gid hgid
    obtain ⟨codes, hcodes, hmem⟩ := Except.mapM_ok_mem hmap gid hgid
    obtain rfl : codes = [] := List.flatten_eq_nil_iff.mp hflat codes hmem
    unfold groupViolations at hcodes ⊢
    cases hfind : input.correlationGroups.find? (fun g => g.id == gid) with
    | none =>
      rw [hfind] at hcodes
      refine ⟨[], ?_, fun code hcode => by cases hcode⟩
      rw [hreq]
      exact hcodes
    | some group =>
      rw [hfind] at hcodes
      simp only [Except.bind_ok_iff] at hcodes
      obtain ⟨-, -, cap, hcap', -⟩ := hcodes
      have hpart := exposureUnits_le (fun p => group.members.contains p.symbol)
        (fun r => group.members.contains r.symbol) hres
      obtain ⟨t, ht⟩ := exists_sumRisk_ok (fun p => group.members.contains p.symbol)
        (fun r => group.members.contains r.symbol) hcomp hres h0 (by omega)
      refine ⟨pushIf (cap < t) CORRELATION_EXPOSURE_LIMIT, ?_, ?_⟩
      · simp only [Except.bind_ok_iff]
        exact ⟨(t, false), ht, cap, hcap', rfl⟩
      · intro code hcode
        exact (mem_pushIf.mp hcode).2
  obtain ⟨perGroup', hmap'⟩ := exists_mapM_ok (fun gid hgid => (hgroup gid hgid).imp fun _ h => h.1)
  refine ⟨perGroup'.flatten, ?_, ?_⟩
  · simp only [correlationViolations, Except.bind_ok_iff]
    refine ⟨groupCap, by rw [hcap]; exact hgroupCap, perGroup', hmap', ?_⟩
    rw [hreq, hmeta, List.nil_append]
    rfl
  · intro code hcode
    obtain ⟨codes, hcodes, hmem⟩ := List.mem_flatten.mp hcode
    obtain ⟨gid, hgid, hok⟩ := Except.mapM_ok_of_mem hmap' codes hcodes
    obtain ⟨codes', hok', hall⟩ := hgroup gid hgid
    cases hok.symm.trans hok'
    exact hall code hmem

/-! ## The two verdicts -/

/-- What the verdict without the override may be, given the one under it. -/
def LooserVerdict (v v' : RiskEngineVerdict) : Prop :=
  (v'.outcome = .approved ∧ ∃ risk size risk' size', v.monetaryRisk = some risk ∧
      v.positionSize = some size ∧ v'.monetaryRisk = some risk' ∧ v'.positionSize = some size' ∧
      risk ≤ risk' ∧ size ≤ size') ∨
    (v'.outcome = .rejected ∧ ∀ code ∈ v'.violations,
      code = POSITION_SIZE_EXCEEDS_MAXIMUM ∨ code = CORRELATION_EXPOSURE_LIMIT)

theorem bind_of_ok {ε α β : Type} {x : Except ε α} {f : α → Except ε β} {v : α} (hx : x = .ok v) :
    x >>= f = f v := by
  rw [hx]
  rfl

theorem riskOrZero_inside {si : SizingInput} {sized : Except RiskRejectionCode SizingSuccess}
    (hsized : sizePosition si = sized) {cap remaining current risk : Dec}
    (hrem : cap.sub current = .ok remaining) (hmem : 0 ≤ remaining.units → remaining ∈ si.extraCaps)
    (hrisk : 0 ≤ risk.units) (hT : current.units + risk.units ≤ cap.units) :
    current.units + (riskOrZero sized).units ≤ cap.units := by
  rw [Dec.sub_ok] at hrem
  cases sized with
  | error e =>
    show current.units + Dec.zero.units ≤ cap.units
    rw [Dec.units_zero]
    omega
  | ok s =>
    have := (sizePosition_ok hsized).within_extra remaining (hmem (by omega))
    rw [Dec.le_def] at this
    show current.units + s.monetaryRisk.units ≤ cap.units
    omega

theorem riskOrZero_nonneg {si : SizingInput} {sized : Except RiskRejectionCode SizingSuccess}
    (hsized : sizePosition si = sized) : 0 ≤ (riskOrZero sized).units := by
  cases sized with
  | error e => exact le_rfl
  | ok s => exact (sizePosition_ok hsized).risk_pos.le

theorem evaluateOpen_larger {input : RiskEngineInput} {policy : EffectiveRiskPolicy} {m' q q' : ℚ}
    {base v : RiskEngineVerdict} {rr : Option Dec} {current : ExposureView} {dailyCap weeklyCap : Dec}
    (base' : RiskEngineVerdict) (rr' : Option Dec) (hq : policy.riskPctPerTrade = .fin q) (hq' : 0 < q') (hle : q' ≤ q)
    (hone : q ≤ 1) (hexp : ExposureComputed input current false)
    (hres : ∀ r ∈ input.reservations, 0 ≤ r.monetaryRisk.units)
    (h : evaluateOpen input { policy with minRr := .fin m', riskPctPerTrade := .fin q' } base rr current
      dailyCap weeklyCap [] = .ok v) (hv : v.outcome = .approved) :
    ∃ v', evaluateOpen input policy base' rr' current dailyCap weeklyCap [] = .ok v' ∧
      LooserVerdict v v' := by
  simp only [evaluateOpen, Except.bind_ok_iff] at h
  obtain ⟨remD, hremD, remW, hremW, totalCap, htotalCap, remT, hremT, instCap, hinstCap, remI, hremI,
    dirCap, hdirCap, remDir, hremDir, pT, hpT, pI, hpI, pD, hpD, corr, hcorr, h⟩ := h
  split at h
  · cases h
    cases hv
  rename_i hnil
  simp only [List.append_eq_nil_iff, pushIf_eq_nil, not_lt] at hnil
  obtain ⟨⟨⟨⟨⟨⟨-, -⟩, hslots⟩, htotal⟩, hinst⟩, hdir⟩, rfl⟩ := hnil
  split at h
  · cases h
    cases hv
  rename_i s hs
  cases h
  rw [hs] at hpT hpI hpD hcorr
  simp only [riskOrZero] at hpT hpI hpD hcorr
  rw [Dec.add_ok] at hpT hpI hpD
  rw [Dec.le_def] at htotal hinst hdir
  have hrisk0 := (sizePosition_ok hs).risk_pos.le
  -- the two percentages as decimals
  obtain ⟨one, hone', -, hone1⟩ : ∃ one, Dec.fromNumber (.fin 1) = some one ∧ 0 ≤ one.units ∧
      one.units ≤ SCALE := ⟨⟨SCALE, by decide⟩, by decide +kernel, by decide, le_rfl⟩
  obtain ⟨pctF, hpctF, -, hpctF1⟩ := fromNumber_mono (hq'.le.trans hle) hone hone'
  obtain ⟨pctT, hpctT, -, hpctle⟩ := fromNumber_mono hq'.le hle hpctF
  have hpctS : pctF.units ≤ SCALE := le_trans (Dec.le_def.mp hpctF1) hone1
  have hlarger := sizePosition_larger hs (show _ ≤ pctF by simpa [hpctT] using hpctle) hpctS
  obtain ⟨sized, hsized, hgood⟩ : ∃ sized, sizePosition {
      equity := input.account.equity
      riskPct := (Dec.fromNumber policy.riskPctPerTrade).getD Dec.zero
      maxMonetaryRisk := (policy.maxMonetaryRiskPerTrade.filter JsNumber.truthy).bind Dec.fromNumber
      extraCaps := sizingCaps [remD, remW, remT, remI, remDir]
      entry := (Dec.fromNumber input.candidate.entryPrice).getD Dec.zero
      stopLoss := (Dec.fromNumber input.candidate.stopLossPrice).getD Dec.zero
      spec := input.instrument } = sized ∧
      ((∃ s', sized = .ok s' ∧ s.quantity ≤ s'.quantity ∧ s.monetaryRisk ≤ s'.monetaryRisk) ∨
        sized = .error POSITION_SIZE_EXCEEDS_MAXIMUM) := by
    rw [hq, hpctF]
    exact ⟨_, rfl, hlarger⟩
  have hcand0 := riskOrZero_nonneg hsized
  have hinT := riskOrZero_inside hsized hremT (mem_sizingCaps (by simp)) hrisk0 (by omega)
  have hinI := riskOrZero_inside hsized hremI (mem_sizingCaps (by simp)) hrisk0 (by omega)
  have hinD := riskOrZero_inside hsized hremDir (mem_sizingCaps (by simp)) hrisk0 (by omega)
  have hexpT : 0 ≤ current.totalOpenRisk.units := by
    rw [hexp.total]
    exact (exposureUnits_le _ _ hres).1
  have hexpI : 0 ≤ current.instrumentOpenRisk.units := by
    rw [hexp.instrument]
    exact (exposureUnits_le _ _ hres).1
  have hexpD : 0 ≤ current.directionOpenRisk.units := by
    rw [hexp.direction]
    exact (exposureUnits_le _ _ hres).1
  obtain ⟨pT', hpT'⟩ : ∃ d, current.totalOpenRisk.add (riskOrZero sized) = .ok d :=
    Dec.exists_ofUnits_ok_of_le (by omega) hinT
  obtain ⟨pI', hpI'⟩ : ∃ d, current.instrumentOpenRisk.add (riskOrZero sized) = .ok d :=
    Dec.exists_ofUnits_ok_of_le (by omega) hinI
  obtain ⟨pD', hpD'⟩ : ∃ d, current.directionOpenRisk.add (riskOrZero sized) = .ok d :=
    Dec.exists_ofUnits_ok_of_le (by omega) hinD
  obtain ⟨codes, hcodes, hcorrelation⟩ := correlationViolations_free
    (riskOrZero sized) (rfl : policy.maxCorrelationGroupExposurePct = _) rfl hcorr (hexp.computable rfl) hres hcand0 (by
      rw [← hexp.total]
      have := totalCap.bounded
      omega)
  unfold evaluateOpen
  dsimp only
  rw [bind_of_ok hremD, bind_of_ok hremW, bind_of_ok htotalCap, bind_of_ok hremT, bind_of_ok hinstCap,
    bind_of_ok hremI, bind_of_ok hdirCap, bind_of_ok hremDir, hsized, bind_of_ok hpT', bind_of_ok hpI',
    bind_of_ok hpD', bind_of_ok hcodes]
  rw [Dec.add_ok] at hpT' hpI' hpD'
  -- no limit but the size and the groups can refuse
  have hnoSlots : pushIf (JsNumber.lt policy.maxSimultaneousPositions
      (.fin ((current.openPositions + current.reservedPositions : ℕ) + 1))) SIMULTANEOUS_POSITION_LIMIT =
      [] := pushIf_eq_nil.mpr hslots
  have hnoTotal : pushIf (totalCap < pT') TOTAL_OPEN_RISK_LIMIT = [] :=
    pushIf_eq_nil.mpr (not_lt.mpr (by rw [Dec.le_def]; omega))
  have hnoInst : pushIf (instCap < pI') INSTRUMENT_EXPOSURE_LIMIT = [] :=
    pushIf_eq_nil.mpr (not_lt.mpr (by rw [Dec.le_def]; omega))
  have hnoDir : pushIf (dirCap < pD') DIRECTION_EXPOSURE_LIMIT = [] :=
    pushIf_eq_nil.mpr (not_lt.mpr (by rw [Dec.le_def]; omega))
  rw [hnoSlots, hnoTotal, hnoInst, hnoDir]
  simp only [List.nil_append, List.append_nil]
  have hallowed : ∀ code ∈ failureCode sized ++ codes,
      code = POSITION_SIZE_EXCEEDS_MAXIMUM ∨ code = CORRELATION_EXPOSURE_LIMIT := by
    intro code hcode
    rcases List.mem_append.mp hcode with hsize | hgroup
    · rcases hgood with ⟨s', rfl, -⟩ | rfl
      · cases hsize
      · exact .inl (List.mem_singleton.mp hsize)
    · exact .inr (hcorrelation code hgroup)
  cases hviolations : failureCode sized ++ codes with
  | cons code rest =>
    rw [hviolations] at hallowed
    exact ⟨_, rfl, .inr ⟨rfl, fun c hc => hallowed c (by simpa [reject] using hc)⟩⟩
  | nil =>
    obtain ⟨hsize, -⟩ := List.append_eq_nil_iff.mp hviolations
    rcases hgood with ⟨s', rfl, hqty, hrisk⟩ | rfl
    · exact ⟨_, rfl, .inl ⟨rfl, _, _, _, _, congrArg (fun x => (Except.toOption x).map _) hs,
        congrArg (fun x => (Except.toOption x).map _) hs, rfl, rfl, hrisk, hqty⟩⟩
    · cases hsize

theorem correlationViolations_withoutOverride (input : RiskEngineInput) (policy : EffectiveRiskPolicy)
    (risk : Dec) : correlationViolations input.withoutOverride policy risk =
      correlationViolations input policy risk := by
  have hgroup : groupViolations input.withoutOverride policy risk =
      groupViolations input policy risk := by
    funext groupCap gid
    unfold groupViolations
    rfl
  unfold correlationViolations
  rw [hgroup]
  rfl

theorem evaluateOpen_withoutOverride (input : RiskEngineInput) (policy : EffectiveRiskPolicy)
    (base : RiskEngineVerdict) (rr : Option Dec) (current : ExposureView) (dailyCap weeklyCap : Dec)
    (earlier : List RiskRejectionCode) :
    evaluateOpen input.withoutOverride policy base rr current dailyCap weeklyCap earlier =
      evaluateOpen input policy base rr current dailyCap weeklyCap earlier := by
  unfold evaluateOpen
  simp only [correlationViolations_withoutOverride]
  rfl

/-- **Strategy overrides only tighten**: what is approved under the override is approved with a risk
and a size at least as large without it, or refused for the maximum size or a group's exposure. -/
theorem override_only_tightens {input : RiskEngineInput} {raw : RawRiskPolicy}
    (hpolicy : input.policy = applyPlatformCeilings raw)
    (hres : ∀ r ∈ input.reservations, 0 ≤ r.monetaryRisk.units)
    (hopen : input.candidate.action ≠ .close_position)
    (happroved : (evaluateRisk input).outcome = .approved) :
    LooserVerdict (evaluateRisk input) (evaluateRisk input.withoutOverride) := by
  obtain ⟨q, hq, hqpos, hqone⟩ := applyPlatformCeilings_riskPct raw
  obtain ⟨m, hm⟩ := applyPlatformCeilings_minRr raw
  rw [← hpolicy] at hq hm
  obtain ⟨q', m', htight, hq', hqle, hmle⟩ :=
    applyStrategyOverride_tightens hq hqpos hm input.strategyOverride
  have htight : input.tightened = { input.policy with minRr := .fin m', riskPctPerTrade := .fin q' } :=
    htight
  unfold evaluateRisk at happroved ⊢
  cases hinner : evaluateRiskInner input with
  | error e =>
    rw [hinner] at happroved
    cases happroved
  | ok v =>
    rw [hinner] at happroved
    simp only [evaluateRiskInner, Except.bind_ok_iff] at hinner
    obtain ⟨⟨current, flag⟩, hcur, dailyCap, hdaily, weeklyCap, hweekly, dd, hdd, h⟩ := hinner
    obtain ⟨s, -, -, hearlier, -⟩ := evaluateOpen_approved h happroved
    rw [hearlier] at h
    simp only [List.append_eq_nil_iff, pushIf_eq_nil, Bool.not_eq_true] at hearlier
    obtain ⟨⟨⟨hreq, rfl⟩, hloss⟩, rfl⟩ := hearlier
    -- the checks before the budgets pass without the override too
    have hrr : failureCode (calculateRr input.withoutOverride.rrInput) = [] :=
      failureCode_rr_withoutOverride hm (congrArg EffectiveRiskPolicy.minRr htight) hmle
        (requestViolations_nil hreq).2.2.2
    have hreq' : requestViolations input.withoutOverride input.policy false
        (calculateRr input.withoutOverride.rrInput) = [] := by
      have hblocked := (requestViolations_nil hreq).2.2.1
      have hrrT := (requestViolations_nil hreq).2.2.2
      rw [htight, hblocked] at hreq
      unfold requestViolations at hreq ⊢
      rw [hrrT] at hreq
      rw [hrr]
      exact hreq
    have hloss' : lossViolations input.withoutOverride input.policy dailyCap weeklyCap = [] := by
      rw [htight] at hloss
      exact hloss
    rw [htight] at h hdaily hweekly hdd
    obtain ⟨v', hv', hloose⟩ := evaluateOpen_larger
      (bareVerdict input.policy.policyVersion input.withoutOverride.rrInput.minRr)
      ((calculateRr input.withoutOverride.rrInput).toOption.map RrSuccess.rr)
      hq hq' hqle hqone (currentExposure_ok hcur) hres h happroved
    have hfree : evaluateRiskInner input.withoutOverride = .ok v' := by
      simp only [evaluateRiskInner, Except.bind_ok_iff]
      refine ⟨(current, false), hcur, dailyCap, hdaily, weeklyCap, hweekly, [], hdd, ?_⟩
      have hnone : requestViolations input.withoutOverride input.policy false
          (calculateRr input.withoutOverride.rrInput) ++
          pushIf (false = true) OPEN_POSITION_RISK_UNCOMPUTABLE ++
          lossViolations input.withoutOverride input.policy dailyCap weeklyCap ++ [] = [] := by
        rw [hreq', hloss', pushIf_eq_nil.mpr Bool.false_ne_true]
        rfl
      rw [← hnone] at hv'
      cases haction : input.candidate.action with
      | close_position => exact absurd haction hopen
      | open_long =>
        have haction' : input.withoutOverride.candidate.action = .open_long := haction
        rw [haction']
        exact (evaluateOpen_withoutOverride _ _ _ _ _ _ _ _).trans hv'
      | open_short =>
        have haction' : input.withoutOverride.candidate.action = .open_short := haction
        rw [haction']
        exact (evaluateOpen_withoutOverride _ _ _ _ _ _ _ _).trans hv'
    rw [hfree]
    exact hloose

/-- The argument of `applyPlatformCeilings` in `defaultEffectivePolicy`. -/
def defaultRawPolicy : RawRiskPolicy where
  enabled := DEFAULT_RISK_POLICY.enabled
  policyVersion := 1
  riskPctPerTrade := DEFAULT_RISK_POLICY.riskPctPerTrade
  maxMonetaryRiskPerTrade := DEFAULT_RISK_POLICY.maxMonetaryRiskPerTrade
  maxDailyLossPct := DEFAULT_RISK_POLICY.maxDailyLossPct
  maxWeeklyLossPct := DEFAULT_RISK_POLICY.maxWeeklyLossPct
  maxConsecutiveLosses := DEFAULT_RISK_POLICY.maxConsecutiveLosses
  maxSimultaneousPositions := DEFAULT_RISK_POLICY.maxSimultaneousPositions
  maxTotalOpenRiskPct := DEFAULT_RISK_POLICY.maxTotalOpenRiskPct
  maxExposurePerInstrumentPct := DEFAULT_RISK_POLICY.maxExposurePerInstrumentPct
  maxExposurePerDirectionPct := DEFAULT_RISK_POLICY.maxExposurePerDirectionPct
  minRr := DEFAULT_RISK_POLICY.minRr
  maxSpreadPips := DEFAULT_RISK_POLICY.maxSpreadPips
  maxSlippagePips := DEFAULT_RISK_POLICY.maxSlippagePips
  allowedSessions := DEFAULT_RISK_POLICY.allowedSessions
  correlationRequired := DEFAULT_RISK_POLICY.correlationRequired
  maxCorrelationGroupExposurePct := DEFAULT_RISK_POLICY.maxCorrelationGroupExposurePct
  paperEquity := .fin PLATFORM_RISK_CEILINGS.defaultPaperEquity
  dailyDrawdownWarningPct := some DEFAULT_RISK_POLICY.dailyDrawdownWarningPct
  dailyDrawdownLimitPct := some DEFAULT_RISK_POLICY.dailyDrawdownLimitPct
  weeklyDrawdownWarningPct := some DEFAULT_RISK_POLICY.weeklyDrawdownWarningPct
  weeklyDrawdownLimitPct := some DEFAULT_RISK_POLICY.weeklyDrawdownLimitPct
  maxDrawdownWarningPct := some DEFAULT_RISK_POLICY.maxDrawdownWarningPct
  maxDrawdownLimitPct := some DEFAULT_RISK_POLICY.maxDrawdownLimitPct

/-- `freshLongInput` under the default policy and an override to a quarter percent and 2.5:1. -/
def quarterPercentInput : RiskEngineInput :=
  { freshLongInput with
    policy := applyPlatformCeilings defaultRawPolicy
    strategyOverride := some ⟨true, false, some (.fin (5 / 2)), some (.fin (1 / 4))⟩ }

theorem override_only_tightens_quarter_percent :
    (evaluateRisk quarterPercentInput).monetaryRisk = some ⟨20 * SCALE, by decide⟩ ∧
      LooserVerdict (evaluateRisk quarterPercentInput)
        (evaluateRisk quarterPercentInput.withoutOverride) :=
  ⟨by decide +kernel, @override_only_tightens quarterPercentInput defaultRawPolicy rfl
    (fun r hr => by cases hr) (by decide) (by decide +kernel)⟩

end VeltrixEye
