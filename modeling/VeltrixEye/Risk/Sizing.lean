import VeltrixEye.Risk.Policy

/-!
# Reward:risk and position sizing (`risk/rr.ts`, `risk/sizing.ts`)

Both functions catch `DecimalOverflowError` and report it as `OVERFLOW`, so they are computed in
`Except RiskRejectionCode` with every decimal step lifted by `liftOverflow`.
-/

namespace VeltrixEye

open RiskRejectionCode

/-! ## Failure plumbing -/

/-- `catch (DecimalOverflowError) return fail('OVERFLOW')`. -/
def liftOverflow {α : Type} : Calc α → Except RiskRejectionCode α
  | .ok a => .ok a
  | .error _ => .error OVERFLOW

/-- `if (!p) return fail(code)`. -/
def require (p : Prop) [Decidable p] (code : RiskRejectionCode) : Except RiskRejectionCode Unit :=
  if p then .ok () else .error code

/-- `if (!x) return fail(code)` on a nullable value. -/
def orFail {α : Type} (x : Option α) (code : RiskRejectionCode) : Except RiskRejectionCode α :=
  match x with
  | some a => .ok a
  | none => .error code

@[simp] theorem liftOverflow_ok {α : Type} {x : Calc α} {a : α} :
    liftOverflow x = .ok a ↔ x = .ok a := by
  cases x <;> simp [liftOverflow]

@[simp] theorem require_ok {p : Prop} [Decidable p] {code : RiskRejectionCode} {u : Unit} :
    require p code = .ok u ↔ p := by
  unfold require
  split <;> simp_all

@[simp] theorem orFail_ok {α : Type} {x : Option α} {code : RiskRejectionCode} {a : α} :
    orFail x code = .ok a ↔ x = some a := by
  cases x <;> simp [orFail]

/-! ## Reward:risk -/

structure RrInput where
  direction : Direction
  entry : JsNumber
  stopLoss : Option JsNumber
  takeProfit : Option JsNumber
  minRr : JsNumber

structure RrSuccess where
  rr : Dec
  riskDistance : Dec
  rewardDistance : Dec
  minRr : Dec

/-- `effectiveMinRr`: the greatest of the platform floor, the policy and the strategy. -/
def effectiveMinRr (policyMin : JsNumber) (strategyMin : Option JsNumber) : JsNumber :=
  let floor : JsNumber := PLATFORM_RISK_CEILINGS.minRr
  let policy := if policyMin.isFinite then policyMin else floor
  let strategy := match strategyMin with
    | some m => if m.isFinite then m else floor
    | none => floor
  (floor.max policy).max strategy

/-- Side checks and distances: `(risk, reward)` for a direction. -/
def rrDistances (direction : Direction) (entry sl tp : Dec) : Except RiskRejectionCode (Dec × Dec) :=
  match direction with
  | .long => do
    require (sl < entry) SL_WRONG_SIDE
    require (entry < tp) TP_WRONG_SIDE
    let risk ← liftOverflow (entry.sub sl)
    let reward ← liftOverflow (tp.sub entry)
    return (risk, reward)
  | .short => do
    require (entry < sl) SL_WRONG_SIDE
    require (tp < entry) TP_WRONG_SIDE
    let risk ← liftOverflow (sl.sub entry)
    let reward ← liftOverflow (entry.sub tp)
    return (risk, reward)

def calculateRr (input : RrInput) : Except RiskRejectionCode RrSuccess := do
  let stopLoss ← orFail input.stopLoss MISSING_SL
  let takeProfit ← orFail input.takeProfit MISSING_TP
  let entry ← orFail (Dec.fromNumber input.entry) INVALID_PRICES
  let sl ← orFail (Dec.fromNumber stopLoss) INVALID_PRICES
  let tp ← orFail (Dec.fromNumber takeProfit) INVALID_PRICES
  require (entry.isPositive ∧ sl.isPositive ∧ tp.isPositive) INVALID_PRICES
  let (risk, reward) ← rrDistances input.direction entry sl tp
  require risk.isPositive ZERO_RISK_DISTANCE
  require reward.isPositive RR_INVALID
  let rr ← orFail (← liftOverflow (reward.div risk)) RR_INVALID
  require rr.isPositive RR_INVALID
  let min ← orFail (Dec.fromNumber input.minRr) RR_INVALID
  require min.isPositive RR_INVALID
  require (min ≤ rr) RR_BELOW_MINIMUM
  return { rr, riskDistance := risk, rewardDistance := reward, minRr := min }

/-! ## Sizing -/

structure SizingInput where
  equity : Dec
  riskPct : Dec
  maxMonetaryRisk : Option Dec
  extraCaps : List Dec
  entry : Dec
  stopLoss : Dec
  spec : Option InstrumentRiskSpec

structure SizingSuccess where
  quantity : Dec
  monetaryRisk : Dec
  riskPctOfEquity : Dec
  stopDistance : Dec
  deriving DecidableEq

/-- `valuePerUnit`: the money one unit of quantity loses over the stop distance. -/
def valuePerUnit (spec : InstrumentRiskSpec) (entry stopDistance : Dec) : Option Dec := do
  let contract ← Dec.fromNumber spec.contractSize
  guard contract.isPositive
  let product ← (contract.mul stopDistance).toOption
  match spec.pnlMode with
  | .quote_linear => return product
  | .base_linear =>
    guard entry.isPositive
    let q ← (product.div entry).toOption
    q

/-- `monetaryRiskFor`: `null` on overflow. -/
def monetaryRiskFor (quantity valuePer : Dec) : Option Dec := (quantity.mul valuePer).toOption

/-- `equity.mul(pct).div(DEC_HUNDRED)`. -/
def percentOf (equity pct : Dec) : Calc (Option Dec) := do
  let m ← equity.mul pct
  m.div Dec.hundred

def specIsValid (spec : InstrumentRiskSpec) : Bool :=
  JsNumber.lt 0 spec.contractSize && JsNumber.lt 0 spec.pipSize && JsNumber.lt 0 spec.minQuantity &&
    JsNumber.lt 0 spec.quantityStep && JsNumber.lt 0 spec.maxQuantity &&
    !JsNumber.lt spec.maxQuantity spec.minQuantity

/-- The configured monetary cap, when there is one. -/
def applyMonetaryCap (budget : Dec) : Option Dec → Except RiskRejectionCode Dec
  | none => .ok budget
  | some m => do
    require m.isPositive MONETARY_RISK_EXCEEDS_LIMIT
    return min budget m

/-- `for (const cap of input.extraCaps)`. -/
def applyExtraCaps : Dec → List Dec → Except RiskRejectionCode Dec
  | budget, [] => .ok budget
  | budget, cap :: caps =>
    if cap.isNegative then .error MONETARY_RISK_EXCEEDS_LIMIT else applyExtraCaps (min budget cap) caps

def sizePosition (input : SizingInput) : Except RiskRejectionCode SizingSuccess := do
  require input.equity.isPositive ZERO_OR_NEGATIVE_EQUITY
  require (input.entry.isPositive ∧ input.stopLoss.isPositive) INVALID_PRICES
  let difference ← liftOverflow (input.entry.sub input.stopLoss)
  let stopDistance := difference.abs
  require stopDistance.isPositive STOP_DISTANCE_NOT_POSITIVE
  let spec ← orFail input.spec MISSING_INSTRUMENT_METADATA
  require (specIsValid spec) INVALID_CONTRACT_SPEC
  let pctBudget ← orFail (← liftOverflow (percentOf input.equity input.riskPct)) OVERFLOW
  let capped ← applyMonetaryCap pctBudget input.maxMonetaryRisk
  let budget ← applyExtraCaps capped input.extraCaps
  require budget.isPositive MONETARY_RISK_EXCEEDS_LIMIT
  let vpu ← orFail (valuePerUnit spec input.entry stopDistance) POSITION_SIZE_UNCOMPUTABLE
  require vpu.isPositive POSITION_SIZE_UNCOMPUTABLE
  let rawQty ← orFail (← liftOverflow (budget.div vpu .down)) POSITION_SIZE_UNCOMPUTABLE
  let step ← orFail (Dec.fromNumber spec.quantityStep) INVALID_CONTRACT_SPEC
  let minQ ← orFail (Dec.fromNumber spec.minQuantity) INVALID_CONTRACT_SPEC
  let specMax ← orFail (Dec.fromNumber spec.maxQuantity) INVALID_CONTRACT_SPEC
  let platformMax ← orFail (Dec.fromNumber PLATFORM_RISK_CEILINGS.maxPositionSize) INVALID_CONTRACT_SPEC
  let qty ← orFail (← liftOverflow (rawQty.floorToStep step)) POSITION_SIZE_BELOW_MINIMUM
  require qty.isPositive POSITION_SIZE_BELOW_MINIMUM
  require (minQ ≤ qty) POSITION_SIZE_BELOW_MINIMUM
  require (qty ≤ min specMax platformMax) POSITION_SIZE_EXCEEDS_MAXIMUM
  let risk ← orFail (monetaryRiskFor qty vpu) OVERFLOW
  require (risk ≤ budget) MONETARY_RISK_EXCEEDS_LIMIT
  let fraction ← orFail (← liftOverflow (risk.div input.equity)) OVERFLOW
  let riskPctOfEquity ← liftOverflow (fraction.mul Dec.hundred)
  return { quantity := qty, monetaryRisk := risk, riskPctOfEquity, stopDistance }

/-! ## What a computed size satisfies -/

theorem applyMonetaryCap_ok {budget b : Dec} {m : Option Dec} (h : applyMonetaryCap budget m = .ok b) :
    b ≤ budget ∧ ∀ d, m = some d → b ≤ d := by
  cases m with
  | none =>
    cases h
    exact ⟨le_rfl, fun d hd => by cases hd⟩
  | some m =>
    simp only [applyMonetaryCap, Except.bind_ok_iff] at h
    obtain ⟨_, -, h⟩ := h
    cases h
    refine ⟨min_le_left _ _, fun d hd => ?_⟩
    cases hd
    exact min_le_right _ _

theorem applyExtraCaps_ok {budget b : Dec} {caps : List Dec} (h : applyExtraCaps budget caps = .ok b) :
    b ≤ budget ∧ ∀ cap ∈ caps, b ≤ cap := by
  induction caps generalizing budget with
  | nil =>
    cases h
    exact ⟨le_rfl, fun cap hc => by cases hc⟩
  | cons cap caps ih =>
    unfold applyExtraCaps at h
    split at h
    · cases h
    obtain ⟨hle, hcaps⟩ := ih h
    refine ⟨hle.trans (min_le_left _ _), fun c hc => ?_⟩
    rcases List.mem_cons.mp hc with rfl | hc
    · exact hle.trans (min_le_right _ _)
    · exact hcaps c hc

theorem monetaryRiskFor_eq_some {q v r : Dec} : monetaryRiskFor q v = some r ↔ q.mul v = .ok r := by
  unfold monetaryRiskFor
  cases q.mul v <;> simp [Except.toOption]

theorem raw_lt_of_floor {rawQty step qty : Dec} (hqty : rawQty.floorToStep step = .ok (some qty))
    (hq : 0 < qty.units) : rawQty.units < 2 * qty.units := by
  obtain ⟨hstep, hqs⟩ := Dec.floorToStep_ok hqty
  have hdm := Int.mul_ediv_add_emod rawQty.units step.units
  have hlt := Int.emod_lt_of_pos rawQty.units hstep
  have hk : 0 < rawQty.units / step.units := by
    by_contra hk
    have : rawQty.units / step.units * step.units ≤ 0 :=
      Int.mul_nonpos_of_nonpos_of_nonneg (by omega) hstep.le
    omega
  have : step.units ≤ rawQty.units / step.units * step.units := by nlinarith
  rw [hqs]
  linarith [Int.mul_comm step.units (rawQty.units / step.units)]

/-- Flooring a positive budget onto the step keeps more than half of it, so the rounded risk of a
    positive quantity stays positive. -/
theorem monetaryRisk_pos_of_floor {budget vpu rawQty step qty risk : Dec} (hb : 0 < budget.units)
    (hv : 0 < vpu.units) (hraw : budget.div vpu .down = .ok (some rawQty))
    (hqty : rawQty.floorToStep step = .ok (some qty)) (hq : 0 < qty.units)
    (hrisk : monetaryRiskFor qty vpu = some risk) : 0 < risk.units := by
  have hX := Dec.div_down_ok hb.le hraw
  rw [monetaryRiskFor_eq_some, Dec.mul_ok] at hrisk
  have hmul := raw_lt_of_floor hqty hq
  have hbig : budget.units * SCALE < 2 * qty.units * vpu.units := by
    have hlt := Int.lt_ediv_add_one_mul_self (budget.units * SCALE) hv
    rw [← hX] at hlt
    have : (rawQty.units + 1) * vpu.units ≤ 2 * qty.units * vpu.units :=
      Int.mul_le_mul_of_nonneg_right (by omega) hv.le
    omega
  rw [hrisk]
  apply Rounding.halfEven_pos
  have hs : (0 : ℚ) < SCALE := by exact_mod_cast Dec.SCALE_pos
  rw [lt_div_iff₀ hs]
  have h1 : SCALE < 2 * (qty.units * vpu.units) := by
    have : SCALE ≤ budget.units * SCALE := by nlinarith [Dec.SCALE_pos]
    linarith
  have h2 : (SCALE : ℚ) < 2 * ((qty.units * vpu.units : ℤ) : ℚ) := by exact_mod_cast h1
  linarith

/-- **What a computed size satisfies.** -/
structure Sized (input : SizingInput) (s : SizingSuccess) : Prop where
  entry_pos : 0 < input.entry.units
  stop_pos : 0 < input.stopLoss.units
  equity_pos : 0 < input.equity.units
  within_pct : ∃ b, percentOf input.equity input.riskPct = .ok (some b) ∧ s.monetaryRisk ≤ b
  within_monetary : ∀ m, input.maxMonetaryRisk = some m → s.monetaryRisk ≤ m
  within_extra : ∀ cap ∈ input.extraCaps, s.monetaryRisk ≤ cap
  risk_pos : 0 < s.monetaryRisk.units
  quantity_pos : 0 < s.quantity.units
  stopDistance : s.stopDistance.units = |input.entry.units - input.stopLoss.units|
  distance_pos : 0 < s.stopDistance.units
  risk_eq : ∃ spec vpu, input.spec = some spec ∧
    valuePerUnit spec input.entry s.stopDistance = some vpu ∧
    monetaryRiskFor s.quantity vpu = some s.monetaryRisk
  on_step : ∃ spec step, input.spec = some spec ∧ Dec.fromNumber spec.quantityStep = some step ∧
    step.units ∣ s.quantity.units

/-- What a computation that succeeds has checked of its intermediate values. -/
structure SizedBy (input : SizingInput) (s : SizingSuccess) (spec : InstrumentRiskSpec)
    (difference pctBudget capped budget vpu rawQty step minQ specMax platformMax : Dec) : Prop where
  equity : input.equity.isPositive
  prices : input.entry.isPositive ∧ input.stopLoss.isPositive
  difference_eq : input.entry.sub input.stopLoss = .ok difference
  stopDistance_eq : s.stopDistance = difference.abs
  distance : difference.abs.isPositive
  spec_eq : input.spec = some spec
  valid : specIsValid spec
  pctBudget_eq : percentOf input.equity input.riskPct = .ok (some pctBudget)
  capped_eq : applyMonetaryCap pctBudget input.maxMonetaryRisk = .ok capped
  budget_eq : applyExtraCaps capped input.extraCaps = .ok budget
  budget_pos : budget.isPositive
  vpu_eq : valuePerUnit spec input.entry difference.abs = some vpu
  vpu_pos : vpu.isPositive
  rawQty_eq : budget.div vpu .down = .ok (some rawQty)
  step_eq : Dec.fromNumber spec.quantityStep = some step
  minQ_eq : Dec.fromNumber spec.minQuantity = some minQ
  specMax_eq : Dec.fromNumber spec.maxQuantity = some specMax
  platformMax_eq : Dec.fromNumber PLATFORM_RISK_CEILINGS.maxPositionSize = some platformMax
  quantity_eq : rawQty.floorToStep step = .ok (some s.quantity)
  quantity_pos : s.quantity.isPositive
  min_le : minQ ≤ s.quantity
  le_max : s.quantity ≤ min specMax platformMax
  risk_eq : monetaryRiskFor s.quantity vpu = some s.monetaryRisk
  risk_le : s.monetaryRisk ≤ budget

theorem exists_sizedBy {input : SizingInput} {s : SizingSuccess} (h : sizePosition input = .ok s) :
    ∃ spec difference pctBudget capped budget vpu rawQty step minQ specMax platformMax,
      SizedBy input s spec difference pctBudget capped budget vpu rawQty step minQ specMax platformMax := by
  simp only [sizePosition, Except.bind_ok_iff, require_ok, orFail_ok, liftOverflow_ok] at h
  obtain ⟨_, hequity, _, hprices, _, hdiff, _, hdist, _, hspec, _, hvalid, _, hpct, _, rfl, _, hcapped, _,
    hbudget, _, hbpos, _, hvpu, _, hvpos, _, hraw, _, rfl, _, hstep, _, hmin, _, hmax, _, hplatform, _,
    hfloor, _, rfl, _, hqpos, _, hqmin, _, hqmax, _, hrisk, _, hle, _, -, _, -, _, -, h⟩ := h
  cases h
  exact ⟨_, _, _, _, _, _, _, _, _, _, _, hequity, hprices, hdiff, rfl, hdist, hspec, hvalid, hpct, hcapped,
    hbudget, hbpos, hvpu, hvpos, hraw, hstep, hmin, hmax, hplatform, hfloor, hqpos, hqmin, hqmax, hrisk, hle⟩

theorem sizePosition_ok {input : SizingInput} {s : SizingSuccess} (h : sizePosition input = .ok s) :
    Sized input s := by
  obtain ⟨spec, difference, pctBudget, capped, budget, vpu, rawQty, step, minQ, specMax, platformMax, hequity,
    hprices, hdiff, hstop, hdist, hspec, -, hpct, hcapped, hbudget, hbpos, hvpu, hvpos, hraw, hstep, -, -, -,
    hfloor, hqpos, -, -, hrisk, hle⟩ := exists_sizedBy h
  rw [← hstop] at hdist hvpu
  obtain ⟨hb1, hm⟩ := applyMonetaryCap_ok hcapped
  obtain ⟨hb2, hx⟩ := applyExtraCaps_ok hbudget
  rw [Dec.isPositive_iff] at hequity hdist hbpos hvpos hqpos
  rw [Dec.isPositive_iff, Dec.isPositive_iff] at hprices
  exact {
    entry_pos := hprices.1
    stop_pos := hprices.2
    equity_pos := hequity
    within_pct := ⟨pctBudget, hpct, hle.trans (hb2.trans hb1)⟩
    within_monetary := fun m e => hle.trans (hb2.trans (hm m e))
    within_extra := fun cap hc => hle.trans (hx cap hc)
    risk_pos := monetaryRisk_pos_of_floor hbpos hvpos hraw hfloor hqpos hrisk
    quantity_pos := hqpos
    stopDistance := by rw [hstop, Dec.units_abs, Dec.sub_ok.mp hdiff]
    distance_pos := hdist
    risk_eq := ⟨spec, vpu, hspec, hvpu, hrisk⟩
    on_step := ⟨spec, step, hspec, hstep, (Dec.floorToStep_ok hfloor).2 ▸ dvd_mul_left _ _⟩ }

end VeltrixEye
