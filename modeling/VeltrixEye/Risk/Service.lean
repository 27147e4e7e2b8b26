import VeltrixEye.Risk.EngineSafety
import VeltrixEye.Risk.Ledger

/-!
# The evaluation inside the risk service (`risk/service.ts`)

`RiskEngineService.evaluate` reads the policy row into a DTO, rebuilds the policy field by field
for `applyPlatformCeilings`, adds what it loaded for the profile and calls the engine.  The rebuild
names no drawdown field.
-/

namespace VeltrixEye

open RiskRejectionCode

/-! ## The policy row -/

/-- The two thresholds of one breaker, inside the table's CHECKs. -/
structure DrawdownColumns (ceiling : ℚ) where
  warning : Numeric 8 4
  limit : Numeric 8 4
  warning_pos : 0 < warning.toRat
  warning_le : warning.toRat ≤ limit.toRat
  limit_le : limit.toRat ≤ ceiling

/-- `risk_policies`, the columns `evaluate` reads. -/
structure PolicyRow where
  enabled : Bool
  policyVersion : ℤ
  riskPctPerTrade : Numeric 8 4
  maxMonetaryRiskPerTrade : Option (Numeric 24 10)
  maxDailyLossPct : Numeric 8 4
  maxWeeklyLossPct : Numeric 8 4
  maxConsecutiveLosses : ℤ
  maxSimultaneousPositions : ℤ
  maxTotalOpenRiskPct : Numeric 8 4
  maxExposurePerInstrumentPct : Numeric 8 4
  maxExposurePerDirectionPct : Numeric 8 4
  minRr : Numeric 8 4
  maxSpreadPips : Option (Numeric 12 4)
  maxSlippagePips : Option (Numeric 12 4)
  allowedSessions : Option (List RiskSessionWindow)
  correlationRequired : Bool
  maxCorrelationGroupExposurePct : Numeric 8 4
  paperEquity : PaperEquity
  dailyDrawdown : DrawdownColumns PLATFORM_RISK_CEILINGS.maxDailyDrawdownPct
  weeklyDrawdown : DrawdownColumns PLATFORM_RISK_CEILINGS.maxWeeklyDrawdownPct
  maxDrawdown : DrawdownColumns PLATFORM_RISK_CEILINGS.maxMaxDrawdownPct

/-- `Number(column)`. -/
def numberOf {p s : ℕ} (x : Numeric p s) : JsNumber := .fin x.toRat

/-- `policyFromRow`.  The DTO has the fields of `EffectiveRiskPolicy`. -/
def policyFromRow (row : PolicyRow) : EffectiveRiskPolicy where
  enabled := row.enabled
  policyVersion := row.policyVersion
  riskPctPerTrade := numberOf row.riskPctPerTrade
  maxMonetaryRiskPerTrade := row.maxMonetaryRiskPerTrade.map numberOf
  maxDailyLossPct := numberOf row.maxDailyLossPct
  maxWeeklyLossPct := numberOf row.maxWeeklyLossPct
  maxConsecutiveLosses := .fin row.maxConsecutiveLosses
  maxSimultaneousPositions := .fin row.maxSimultaneousPositions
  maxTotalOpenRiskPct := numberOf row.maxTotalOpenRiskPct
  maxExposurePerInstrumentPct := numberOf row.maxExposurePerInstrumentPct
  maxExposurePerDirectionPct := numberOf row.maxExposurePerDirectionPct
  minRr := numberOf row.minRr
  maxSpreadPips := row.maxSpreadPips.map numberOf
  maxSlippagePips := row.maxSlippagePips.map numberOf
  allowedSessions := row.allowedSessions
  correlationRequired := row.correlationRequired
  maxCorrelationGroupExposurePct := numberOf row.maxCorrelationGroupExposurePct
  paperEquity := numberOf row.paperEquity.value
  dailyDrawdownWarningPct := numberOf row.dailyDrawdown.warning
  dailyDrawdownLimitPct := numberOf row.dailyDrawdown.limit
  weeklyDrawdownWarningPct := numberOf row.weeklyDrawdown.warning
  weeklyDrawdownLimitPct := numberOf row.weeklyDrawdown.limit
  maxDrawdownWarningPct := numberOf row.maxDrawdown.warning
  maxDrawdownLimitPct := numberOf row.maxDrawdown.limit

/-- `toNumber(digits)`: half-even to `digits` decimals. -/
def Dec.toNumber (a : Dec) (digits : ℕ) : ℚ :=
  Rounding.halfEven ((a.units : ℚ) / 10 ^ (DEC_SCALE - digits)) / 10 ^ digits

/-- The object literal `evaluate` passes to `applyPlatformCeilings`. -/
def rebuiltPolicy (policy : EffectiveRiskPolicy) (equity : Dec) : RawRiskPolicy where
  enabled := policy.enabled
  policyVersion := policy.policyVersion
  riskPctPerTrade := policy.riskPctPerTrade
  maxMonetaryRiskPerTrade := policy.maxMonetaryRiskPerTrade
  maxDailyLossPct := policy.maxDailyLossPct
  maxWeeklyLossPct := policy.maxWeeklyLossPct
  maxConsecutiveLosses := policy.maxConsecutiveLosses
  maxSimultaneousPositions := policy.maxSimultaneousPositions
  maxTotalOpenRiskPct := policy.maxTotalOpenRiskPct
  maxExposurePerInstrumentPct := policy.maxExposurePerInstrumentPct
  maxExposurePerDirectionPct := policy.maxExposurePerDirectionPct
  minRr := policy.minRr
  maxSpreadPips := policy.maxSpreadPips
  maxSlippagePips := policy.maxSlippagePips
  allowedSessions := policy.allowedSessions
  correlationRequired := policy.correlationRequired
  maxCorrelationGroupExposurePct := policy.maxCorrelationGroupExposurePct
  paperEquity := .fin (equity.toNumber 4)
  -- the literal names none of the optional drawdown fields
  dailyDrawdownWarningPct := none
  dailyDrawdownLimitPct := none
  weeklyDrawdownWarningPct := none
  weeklyDrawdownLimitPct := none
  maxDrawdownWarningPct := none
  maxDrawdownLimitPct := none

/-! ## The evaluation -/

/-- What `evaluate` has loaded besides the policy row. -/
structure EvaluateContext where
  strategyOverride : Option StrategyRiskOverride
  strategyMinRr : Option JsNumber
  account : AccountRow
  closed : List (Option (Numeric 24 10))
  openPositions : List OpenPositionSnapshot
  reservations : List ReservationSnapshot
  instrument : Option InstrumentRiskSpec
  correlationGroups : List CorrelationGroupSnapshot
  candidateGroupIds : List String
  killSwitchActive : Bool
  candidate : RiskCandidate
  nowMs : ℤ

/-- The sizing equity: the tracked baseline once the account is initialised. -/
def evaluationEquity (row : PolicyRow) (account : AccountRow) : Dec :=
  let policyEquity := (Dec.fromUnknown row.paperEquity.value).getD dec10000
  if account.equityInitialized then
    match Dec.fromUnknown account.initialEquity with
    | some tracked => if tracked.isPositive then tracked else policyEquity
    | none => policyEquity
  else policyEquity

/-- The argument of `evaluateRisk`, for a given drawdown input. -/
def engineInput (row : PolicyRow) (ctx : EvaluateContext) (drawdown : Option DrawdownInput) :
    RiskEngineInput :=
  let equity := evaluationEquity row ctx.account
  { policy := applyPlatformCeilings (rebuiltPolicy (policyFromRow row) equity)
    strategyOverride := ctx.strategyOverride
    strategyMinRr := ctx.strategyMinRr
    account := {
      equity
      dailyRealizedPl := (Dec.fromUnknown ctx.account.dailyRealizedPl).getD Dec.zero
      weeklyRealizedPl := (Dec.fromUnknown ctx.account.weeklyRealizedPl).getD Dec.zero
      consecutiveLosses := .fin ctx.account.consecutiveLosses }
    openPositions := ctx.openPositions
    reservations := ctx.reservations
    instrument := ctx.instrument
    correlationGroups := ctx.correlationGroups
    candidateGroupIds := ctx.candidateGroupIds
    killSwitchActive := ctx.killSwitchActive
    candidate := ctx.candidate
    evaluatedAtMs := .fin ctx.nowMs
    drawdown }

/-- The verdict computed inside `evaluate`. -/
def evaluateVerdict (row : PolicyRow) (ctx : EvaluateContext) : RiskEngineVerdict :=
  let equity := evaluationEquity row ctx.account
  evaluateRisk (engineInput row ctx (loadDrawdownInput ctx.account equity ctx.nowMs ctx.closed))

/-! ## The breakers by kind -/

inductive DrawdownKind where
  | daily
  | weekly
  | maximum

namespace DrawdownKind

def warningCode : DrawdownKind → RiskRejectionCode
  | daily => DAILY_DRAWDOWN_WARNING
  | weekly => WEEKLY_DRAWDOWN_WARNING
  | maximum => MAX_DRAWDOWN_WARNING

def limitCode : DrawdownKind → RiskRejectionCode
  | daily => DAILY_DRAWDOWN_LIMIT
  | weekly => WEEKLY_DRAWDOWN_LIMIT
  | maximum => MAX_DRAWDOWN_LIMIT

def baseline (dd : DrawdownInput) : DrawdownKind → Dec
  | daily => dd.dailyHighValue
  | weekly => dd.weeklyOpenValue
  | maximum => dd.peakEquity

def rowWarning (row : PolicyRow) : DrawdownKind → ℚ
  | daily => row.dailyDrawdown.warning.toRat
  | weekly => row.weeklyDrawdown.warning.toRat
  | maximum => row.maxDrawdown.warning.toRat

def rowLimit (row : PolicyRow) : DrawdownKind → ℚ
  | daily => row.dailyDrawdown.limit.toRat
  | weekly => row.weeklyDrawdown.limit.toRat
  | maximum => row.maxDrawdown.limit.toRat

/-- The thresholds of `DEFAULT_RISK_POLICY`. -/
def defaultWarning : DrawdownKind → ℚ
  | daily => 2
  | weekly => 4
  | maximum => 8

def defaultLimit : DrawdownKind → ℚ
  | daily => 3
  | weekly => 6
  | maximum => 10

end DrawdownKind

/-- The six drawdown codes. -/
def isDrawdownCode : RiskRejectionCode → Bool
  | DAILY_DRAWDOWN_WARNING | DAILY_DRAWDOWN_LIMIT | WEEKLY_DRAWDOWN_WARNING | WEEKLY_DRAWDOWN_LIMIT
  | MAX_DRAWDOWN_WARNING | MAX_DRAWDOWN_LIMIT => true
  | _ => false

/-! ## Which codes come from where -/

/-- A failure that is never reported under a drawdown code. -/
def NoDrawdown {α : Type} (x : Except RiskRejectionCode α) : Prop :=
  ∀ c, x = .error c → isDrawdownCode c = false

theorem NoDrawdown.ok {α : Type} (a : α) : NoDrawdown (.ok a) := fun _ h => by cases h

theorem NoDrawdown.bind {α β : Type} {x : Except RiskRejectionCode α} {f : α → Except RiskRejectionCode β}
    (hx : NoDrawdown x) (hf : ∀ a, NoDrawdown (f a)) : NoDrawdown (x >>= f) := by
  intro c h
  cases x with
  | error e =>
    cases h
    exact hx _ rfl
  | ok a => exact hf a c h

theorem NoDrawdown.require {p : Prop} [Decidable p] {code : RiskRejectionCode}
    (h : isDrawdownCode code = false) : NoDrawdown (require p code) := by
  intro c hc
  unfold VeltrixEye.require at hc
  split at hc
  · cases hc
  · cases hc
    exact h

theorem NoDrawdown.orFail {α : Type} {x : Option α} {code : RiskRejectionCode}
    (h : isDrawdownCode code = false) : NoDrawdown (orFail x code) := by
  intro c hc
  cases x with
  | none =>
    cases hc
    exact h
  | some a => cases hc

theorem NoDrawdown.liftOverflow {α : Type} (x : Calc α) : NoDrawdown (liftOverflow x) := by
  intro c hc
  cases x with
  | error e =>
    cases hc
    rfl
  | ok a => cases hc

theorem noDrawdown_rrDistances (direction : Direction) (entry sl tp : Dec) :
    NoDrawdown (rrDistances direction entry sl tp) := by
  cases direction
  all_goals
    refine .bind (.require rfl) fun _ => ?_
    refine .bind (.require rfl) fun _ => ?_
    refine .bind (.liftOverflow _) fun _ => ?_
    refine .bind (.liftOverflow _) fun _ => ?_
    exact .ok _

theorem noDrawdown_calculateRr (input : RrInput) : NoDrawdown (calculateRr input) := by
  unfold calculateRr
  refine .bind (.orFail rfl) fun _ => ?_
  refine .bind (.orFail rfl) fun _ => ?_
  refine .bind (.orFail rfl) fun _ => ?_
  refine .bind (.orFail rfl) fun _ => ?_
  refine .bind (.orFail rfl) fun _ => ?_
  refine .bind (.require rfl) fun _ => ?_
  refine .bind (noDrawdown_rrDistances _ _ _ _) fun d => ?_
  refine .bind (.require rfl) fun _ => ?_
  refine .bind (.require rfl) fun _ => ?_
  refine .bind (.liftOverflow _) fun _ => ?_
  refine .bind (.orFail rfl) fun _ => ?_
  refine .bind (.require rfl) fun _ => ?_
  refine .bind (.orFail rfl) fun _ => ?_
  refine .bind (.require rfl) fun _ => ?_
  refine .bind (.require rfl) fun _ => ?_
  exact .ok _

theorem noDrawdown_applyMonetaryCap (budget : Dec) (m : Option Dec) :
    NoDrawdown (applyMonetaryCap budget m) := by
  cases m with
  | none => exact .ok _
  | some m => exact NoDrawdown.bind (.require rfl) fun _ => .ok _

theorem noDrawdown_applyExtraCaps (budget : Dec) (caps : List Dec) :
    NoDrawdown (applyExtraCaps budget caps) := by
  induction caps generalizing budget with
  | nil => exact .ok _
  | cons cap caps ih =>
    unfold applyExtraCaps
    split
    · intro c hc
      cases hc
      rfl
    · exact ih _

theorem noDrawdown_sizePosition (input : SizingInput) : NoDrawdown (sizePosition input) := by
  unfold sizePosition
  refine .bind (.require rfl) fun _ => ?_
  refine .bind (.require rfl) fun _ => ?_
  refine .bind (.liftOverflow _) fun _ => ?_
  refine .bind (.require rfl) fun _ => ?_
  refine .bind (.orFail rfl) fun _ => ?_
  refine .bind (.require rfl) fun _ => ?_
  refine .bind (.liftOverflow _) fun _ => ?_
  refine .bind (.orFail rfl) fun _ => ?_
  refine .bind (noDrawdown_applyMonetaryCap _ _) fun _ => ?_
  refine .bind (noDrawdown_applyExtraCaps _ _) fun _ => ?_
  refine .bind (.require rfl) fun _ => ?_
  refine .bind (.orFail rfl) fun _ => ?_
  refine .bind (.require rfl) fun _ => ?_
  refine .bind (.liftOverflow _) fun _ => ?_
  refine .bind (.orFail rfl) fun _ => ?_
  refine .bind (.orFail rfl) fun _ => ?_
  refine .bind (.orFail rfl) fun _ => ?_
  refine .bind (.orFail rfl) fun _ => ?_
  refine .bind (.orFail rfl) fun _ => ?_
  refine .bind (.liftOverflow _) fun _ => ?_
  refine .bind (.orFail rfl) fun _ => ?_
  refine .bind (.require rfl) fun _ => ?_
  refine .bind (.require rfl) fun _ => ?_
  refine .bind (.require rfl) fun _ => ?_
  refine .bind (.orFail rfl) fun _ => ?_
  refine .bind (.require rfl) fun _ => ?_
  refine .bind (.liftOverflow _) fun _ => ?_
  refine .bind (.orFail rfl) fun _ => ?_
  refine .bind (.liftOverflow _) fun _ => ?_
  exact .ok _

section Sources

variable {c : RiskRejectionCode} (hc : isDrawdownCode c = true)

include hc

theorem not_mem_failureCode {α : Type} {x : Except RiskRejectionCode α} (hx : NoDrawdown x) :
    c ∉ failureCode x := by
  intro h
  cases x with
  | ok a => cases h
  | error e =>
    rw [failureCode, List.mem_singleton] at h
    rw [h, hx e rfl] at hc
    cases hc

theorem ne_of_isDrawdownCode (code : RiskRejectionCode) (h : isDrawdownCode code = false) : c ≠ code := by
  rintro rfl
  rw [h] at hc
  cases hc

theorem not_mem_pushIf {p : Prop} [Decidable p] {code : RiskRejectionCode}
    (h : isDrawdownCode code = false) : c ∉ pushIf p code := by
  rw [mem_pushIf]
  exact fun hp => ne_of_isDrawdownCode hc code h hp.2

theorem not_mem_requestViolations (input : RiskEngineInput) :
    c ∉ requestViolations input input.tightened input.blocked (calculateRr input.rrInput) := by
  unfold requestViolations
  simp only [List.mem_append, not_or]
  exact ⟨⟨⟨⟨⟨⟨⟨⟨⟨⟨⟨⟨not_mem_pushIf hc rfl, not_mem_pushIf hc rfl⟩, not_mem_pushIf hc rfl⟩,
    not_mem_pushIf hc rfl⟩, not_mem_pushIf hc rfl⟩, not_mem_pushIf hc rfl⟩, not_mem_pushIf hc rfl⟩,
    not_mem_failureCode hc (noDrawdown_calculateRr _)⟩, not_mem_pushIf hc rfl⟩, not_mem_pushIf hc rfl⟩,
    not_mem_pushIf hc rfl⟩, not_mem_pushIf hc rfl⟩, not_mem_pushIf hc rfl⟩

theorem not_mem_lossViolations (input : RiskEngineInput) (dailyCap weeklyCap : Dec) :
    c ∉ lossViolations input input.tightened dailyCap weeklyCap := by
  unfold lossViolations
  simp only [List.mem_append, not_or]
  exact ⟨⟨not_mem_pushIf hc rfl, not_mem_pushIf hc rfl⟩, not_mem_pushIf hc rfl⟩

theorem not_mem_groupViolations {input : RiskEngineInput} {risk groupCap : Dec} {gid : String}
    {codes : List RiskRejectionCode}
    (h : groupViolations input input.tightened risk groupCap gid = .ok codes) : c ∉ codes := by
  unfold groupViolations at h
  split at h
  · cases h
    exact not_mem_pushIf hc rfl
  · simp only [Except.bind_ok_iff] at h
    obtain ⟨sum, -, cap, -, h⟩ := h
    cases h
    simp only [List.mem_append, not_or]
    exact ⟨not_mem_pushIf hc rfl, not_mem_pushIf hc rfl⟩

theorem not_mem_correlationViolations {input : RiskEngineInput} {risk : Dec}
    {codes : List RiskRejectionCode}
    (h : correlationViolations input input.tightened risk = .ok codes) : c ∉ codes := by
  simp only [correlationViolations, Except.bind_ok_iff] at h
  obtain ⟨groupCap, -, perGroup, hmap, h⟩ := h
  cases h
  simp only [List.mem_append, List.mem_flatten, not_or, not_exists, not_and]
  refine ⟨not_mem_pushIf hc rfl, fun codes hcodes => ?_⟩
  obtain ⟨gid, -, hgid⟩ := Except.mapM_ok_of_mem hmap codes hcodes
  exact not_mem_groupViolations hc hgid

end Sources

/-! ## What a verdict reports -/

theorem mem_reject {c code : RiskRejectionCode} {vs rest : List RiskRejectionCode}
    {extra : RiskEngineVerdict} (h : vs = code :: rest) :
    c ∈ (reject code vs extra).violations ↔ c ∈ vs := by
  simp [reject, h]

theorem mem_evaluateOpen {c : RiskRejectionCode} (hc : isDrawdownCode c = true)
    {input : RiskEngineInput} {v : RiskEngineVerdict} {minRr : JsNumber} {pv : ℤ} {rr : Option Dec}
    {current : ExposureView} {dailyCap weeklyCap : Dec} {earlier : List RiskRejectionCode}
    (h : evaluateOpen input input.tightened (bareVerdict pv minRr) rr current dailyCap weeklyCap earlier =
      .ok v) :
    (c ∈ v.violations ↔ c ∈ earlier) ∧ (earlier ≠ [] → v.outcome = .rejected) := by
  simp only [evaluateOpen, Except.bind_ok_iff] at h
  obtain ⟨remD, -, remW, -, totalCap, -, remT, -, instCap, -, remI, -, dirCap, -, remDir, -, pT, -, pI, -,
    pD, -, corr, hcorr, h⟩ := h
  split at h
  · rename_i code vs hvs
    cases h
    refine ⟨?_, fun _ => rfl⟩
    rw [mem_reject hvs]
    have hne := ne_of_isDrawdownCode hc
    simp only [List.mem_append, not_mem_failureCode hc (noDrawdown_sizePosition _),
      not_mem_correlationViolations hc hcorr, mem_pushIf, hne SIMULTANEOUS_POSITION_LIMIT rfl,
      hne TOTAL_OPEN_RISK_LIMIT rfl, hne INSTRUMENT_EXPOSURE_LIMIT rfl, hne DIRECTION_EXPOSURE_LIMIT rfl,
      and_false, or_false]
  · rename_i hnil
    simp only [List.append_eq_nil_iff] at hnil
    obtain ⟨⟨⟨⟨⟨⟨rfl, hsized⟩, -⟩, -⟩, -⟩, -⟩, -⟩ := hnil
    split at h
    · rename_i code hs
      rw [hs] at hsized
      cases hsized
    · cases h
      exact ⟨Iff.rfl, fun h => absurd rfl h⟩

/-- **Drawdown codes of a verdict.**  An evaluation that does not overflow reports exactly the
    drawdown codes the breakers raised, and rejects when there is one. -/
theorem mem_drawdown_violations {c : RiskRejectionCode} (hc : isDrawdownCode c = true)
    {input : RiskEngineInput} {v : RiskEngineVerdict} (h : evaluateRiskInner input = .ok v) :
    ∃ dd, drawdownViolations input.drawdown input.tightened = .ok dd ∧
      (c ∈ v.violations ↔ c ∈ dd) ∧ (c ∈ dd → v.outcome = .rejected) := by
  simp only [evaluateRiskInner, Except.bind_ok_iff] at h
  obtain ⟨⟨current, flag⟩, -, dailyCap, -, weeklyCap, -, dd, hdd, h⟩ := h
  refine ⟨dd, hdd, ?_⟩
  have hmem : c ∈ requestViolations input input.tightened input.blocked (calculateRr input.rrInput) ++
      pushIf (flag = true) OPEN_POSITION_RISK_UNCOMPUTABLE ++
      lossViolations input input.tightened dailyCap weeklyCap ++ dd ↔ c ∈ dd := by
    simp only [List.mem_append, not_mem_requestViolations hc, mem_pushIf,
      ne_of_isDrawdownCode hc OPEN_POSITION_RISK_UNCOMPUTABLE rfl, not_mem_lossViolations hc, and_false,
      false_or]
  split at h
  · obtain rfl := Except.ok.inj h
    unfold closeVerdict
    split
    · rename_i code vs hvs
      rw [mem_reject hvs, hmem]
      exact ⟨Iff.rfl, fun _ => rfl⟩
    · rename_i hnil
      rw [hnil] at hmem
      exact ⟨hmem, fun h => absurd (hmem.mpr h) List.not_mem_nil⟩
  · obtain ⟨hiff, hrej⟩ := mem_evaluateOpen hc h
    exact ⟨hiff.trans hmem, fun hd => hrej (List.ne_nil_of_mem (hmem.mpr hd))⟩

theorem mem_breaker (pct : Dec) {w l : Dec} {warningPct limitPct : JsNumber}
    {warning limit : RiskRejectionCode} (hw : Dec.fromNumber warningPct = some w)
    (hl : Dec.fromNumber limitPct = some l) (hwpos : 0 < w.units) (hlpos : 0 < l.units)
    (hne : warning ≠ limit) :
    (limit ∈ breaker pct warningPct limitPct warning limit ↔ l ≤ pct) ∧
    (warning ∈ breaker pct warningPct limitPct warning limit ↔ w ≤ pct ∧ ¬ l ≤ pct) := by
  unfold breaker
  simp only [hw, hl, Option.getD_some, Dec.isPositive_iff, hwpos, hlpos, and_true]
  split_ifs with h1 h2
  · simp [h1, hne]
  · simp [h1, h2, hne.symm]
  · simp [h1, h2]

/-! ## The thresholds that reach the engine -/

/-- **Whatever the row says, the engine reads the defaults.** -/
theorem evaluated_thresholds (row : PolicyRow) (ctx : EvaluateContext) (dd : Option DrawdownInput) :
    let t := (engineInput row ctx dd).tightened
    t.dailyDrawdownWarningPct = .fin 2 ∧ t.dailyDrawdownLimitPct = .fin 3 ∧
    t.weeklyDrawdownWarningPct = .fin 4 ∧ t.weeklyDrawdownLimitPct = .fin 6 ∧
    t.maxDrawdownWarningPct = .fin 8 ∧ t.maxDrawdownLimitPct = .fin 10 := by
  intro t
  obtain ⟨m, r, ht⟩ := applyStrategyOverride_drawdown (engineInput row ctx dd).policy
    (engineInput row ctx dd).strategyOverride
  have ht' : t = { (engineInput row ctx dd).policy with minRr := m, riskPctPerTrade := r } := ht
  rw [ht']
  exact applyPlatformCeilings_drawdown_none
    (rebuiltPolicy (policyFromRow row) (evaluationEquity row ctx.account))
    ⟨rfl, rfl⟩ ⟨rfl, rfl⟩ ⟨rfl, rfl⟩

theorem Dec.toRat_le {a b : Dec} : a.toRat ≤ b.toRat ↔ a ≤ b := by
  rw [← not_lt, Dec.toRat_lt, ← Dec.lt_def, not_lt]

theorem fromNumber_nat {n : ℕ} (hn : 0 < n) (hn17 : n ≤ 10 ^ 17) :
    ∃ d, Dec.fromNumber (.fin n) = some d ∧ 0 < d.units ∧ d.toRat = n := by
  have hu : JsNumber.toFixedUnits DEC_SCALE (n : ℚ) = n * SCALE := by
    unfold JsNumber.toFixedUnits
    have : (n : ℚ) * 10 ^ DEC_SCALE = ((n * SCALE : ℤ) : ℚ) := by
      push_cast
      norm_num [SCALE]
    rw [this, Rounding.halfAway_intCast]
  have hS : SCALE = 10000000000 := by decide
  have hlt : (JsNumber.toFixedUnits DEC_SCALE (n : ℚ)).natAbs < MAX_ABS := by
    rw [hu, hS, MAX_ABS]
    omega
  refine ⟨⟨_, hlt.le⟩, ?_, ?_, ?_⟩
  · unfold Dec.fromNumber
    simp only
    rw [dif_pos hlt]
  · change 0 < JsNumber.toFixedUnits DEC_SCALE (n : ℚ)
    rw [hu, hS]
    omega
  · simp only [Dec.toRat, hu]
    push_cast
    exact mul_div_cancel_right₀ _ (by norm_num [SCALE, DEC_SCALE])

theorem mem_breaker_nat (pct : Dec) {w l : ℕ} (hw : 0 < w ∧ w ≤ 10 ^ 17) (hl : 0 < l ∧ l ≤ 10 ^ 17)
    {warning limit : RiskRejectionCode} (hne : warning ≠ limit) :
    (limit ∈ breaker pct (.fin w) (.fin l) warning limit ↔ (l : ℚ) ≤ pct.toRat) ∧
    (warning ∈ breaker pct (.fin w) (.fin l) warning limit ↔
      (w : ℚ) ≤ pct.toRat ∧ pct.toRat < l) := by
  obtain ⟨wd, hwd, hwpos, hwq⟩ := fromNumber_nat hw.1 hw.2
  obtain ⟨ld, hld, hlpos, hlq⟩ := fromNumber_nat hl.1 hl.2
  obtain ⟨h1, h2⟩ := mem_breaker pct hwd hld hwpos hlpos hne
  refine ⟨h1.trans ?_, h2.trans ?_⟩
  · rw [← hlq, Dec.toRat_le]
  · rw [← hlq, ← hwq, Dec.toRat_le, ← not_le, Dec.toRat_le]

theorem not_mem_breaker {pct : Dec} {wp lp : JsNumber} {c warning limit : RiskRejectionCode}
    (hw : c ≠ warning) (hl : c ≠ limit) : c ∉ breaker pct wp lp warning limit := by
  unfold breaker
  simp only
  split_ifs <;> simp [hw, hl]

theorem mem_drawdownViolations {row : PolicyRow} {ctx : EvaluateContext} {dd : DrawdownInput}
    {codes : List RiskRejectionCode} (hok : (dd.initialized && dd.currentAccountValue.isPositive &&
      dd.consistent) = true)
    (h : drawdownViolations (some dd) (engineInput row ctx (some dd)).tightened = .ok codes)
    (k : DrawdownKind) {pct : Dec}
    (hpct : drawdownPctFrom dd.currentAccountValue (k.baseline dd) = .ok pct) :
    (k.limitCode ∈ codes ↔ k.defaultLimit ≤ pct.toRat) ∧
    (k.warningCode ∈ codes ↔ k.defaultWarning ≤ pct.toRat ∧ pct.toRat < k.defaultLimit) := by
  simp only [drawdownViolations, hok, if_true, Except.bind_ok_iff] at h
  obtain ⟨d, hd, w, hw, m, hm, h⟩ := h
  obtain ⟨e1, e2, e3, e4, e5, e6⟩ := evaluated_thresholds row ctx (some dd)
  rw [e1, e2, e3, e4, e5, e6] at h
  cases h
  cases k with
  | daily =>
    rw [DrawdownKind.baseline, hd] at hpct
    cases hpct
    have := mem_breaker_nat pct (w := 2) (l := 3) ⟨by decide, by decide⟩ ⟨by decide, by decide⟩
      (by decide : DAILY_DRAWDOWN_WARNING ≠ DAILY_DRAWDOWN_LIMIT)
    simpa [DrawdownKind.limitCode, DrawdownKind.warningCode, DrawdownKind.defaultLimit,
      DrawdownKind.defaultWarning, not_mem_breaker] using this
  | weekly =>
    rw [DrawdownKind.baseline, hw] at hpct
    cases hpct
    have := mem_breaker_nat pct (w := 4) (l := 6) ⟨by decide, by decide⟩ ⟨by decide, by decide⟩
      (by decide : WEEKLY_DRAWDOWN_WARNING ≠ WEEKLY_DRAWDOWN_LIMIT)
    simpa [DrawdownKind.limitCode, DrawdownKind.warningCode, DrawdownKind.defaultLimit,
      DrawdownKind.defaultWarning, not_mem_breaker] using this
  | maximum =>
    rw [DrawdownKind.baseline, hm] at hpct
    cases hpct
    have := mem_breaker_nat pct (w := 8) (l := 10) ⟨by decide, by decide⟩ ⟨by decide, by decide⟩
      (by decide : MAX_DRAWDOWN_WARNING ≠ MAX_DRAWDOWN_LIMIT)
    simpa [DrawdownKind.limitCode, DrawdownKind.warningCode, DrawdownKind.defaultLimit,
      DrawdownKind.defaultWarning, not_mem_breaker] using this

/-! ## The row's thresholds -/

/-- The verdict enforces the row's own thresholds: at or above a limit it rejects with that
    limit's code, below a warning it reports no code of that kind. -/
def RowEnforced (row : PolicyRow) (ctx : EvaluateContext) (dd : DrawdownInput) : Prop :=
  ∀ (k : DrawdownKind) (pct : Dec),
    drawdownPctFrom dd.currentAccountValue (k.baseline dd) = .ok pct →
    (k.rowLimit row ≤ pct.toRat →
      (evaluateRisk (engineInput row ctx (some dd))).outcome = .rejected ∧
      k.limitCode ∈ (evaluateRisk (engineInput row ctx (some dd))).violations) ∧
    (pct.toRat < k.rowWarning row →
      k.limitCode ∉ (evaluateRisk (engineInput row ctx (some dd))).violations ∧
      k.warningCode ∉ (evaluateRisk (engineInput row ctx (some dd))).violations)

/-- Some sum or product of the evaluation leaves the decimal range. -/
def Overflows (input : RiskEngineInput) : Prop := ∀ v, evaluateRiskInner input ≠ .ok v

theorem isDrawdownCode_limitCode (k : DrawdownKind) : isDrawdownCode k.limitCode = true := by
  cases k <;> rfl

theorem isDrawdownCode_warningCode (k : DrawdownKind) : isDrawdownCode k.warningCode = true := by
  cases k <;> rfl

theorem violations_of_overflow {input : RiskEngineInput} (h : Overflows input) {c : RiskRejectionCode}
    (hc : isDrawdownCode c = true) : c ∉ (evaluateRisk input).violations := by
  unfold evaluateRisk
  cases hinner : evaluateRiskInner input with
  | ok v => exact absurd hinner (h v)
  | error e =>
    simp only
    rw [mem_reject rfl, List.mem_singleton]
    exact ne_of_isDrawdownCode hc OVERFLOW rfl

/-- **When the stored thresholds are enforced.**  For every policy row, everything else the
    evaluation loads and every drawdown input the engine accepts: the row's thresholds are enforced
    exactly when no drawdown percentage lies between a row's threshold and the default that stands
    in for it, and no evaluation that must report a limit overflows. -/
theorem row_thresholds_enforced_iff (row : PolicyRow) (ctx : EvaluateContext) (dd : DrawdownInput)
    (hinit : dd.initialized = true) (hpos : dd.currentAccountValue.isPositive = true)
    (hcons : dd.consistent = true) :
    RowEnforced row ctx dd ↔
      ∀ (k : DrawdownKind) (pct : Dec),
        drawdownPctFrom dd.currentAccountValue (k.baseline dd) = .ok pct →
        (k.rowLimit row ≤ pct.toRat →
          k.defaultLimit ≤ pct.toRat ∧ ¬ Overflows (engineInput row ctx (some dd))) ∧
        (pct.toRat < k.rowWarning row →
          pct.toRat < k.defaultWarning ∨ Overflows (engineInput row ctx (some dd))) := by
  have hok : (dd.initialized && dd.currentAccountValue.isPositive && dd.consistent) = true := by
    rw [hinit, hpos, hcons]
    rfl
  unfold RowEnforced
  refine forall_congr' fun k => forall_congr' fun pct => imp_congr_right fun hpct => ?_
  by_cases hover : Overflows (engineInput row ctx (some dd))
  · have hl := violations_of_overflow hover (isDrawdownCode_limitCode k)
    have hw := violations_of_overflow hover (isDrawdownCode_warningCode k)
    simp only [hl, hw, hover, and_false, not_true_eq_false, not_false_eq_true, and_self, or_true]
  · simp only [Overflows, not_forall, ne_eq, not_not] at hover
    obtain ⟨v, hv⟩ := hover
    have hverdict : evaluateRisk (engineInput row ctx (some dd)) = v := by
      unfold evaluateRisk
      rw [hv]
    have hnot : ¬ Overflows (engineInput row ctx (some dd)) := fun h => h v hv
    obtain ⟨codes, hcodes, hlmem, hlrej⟩ := mem_drawdown_violations (isDrawdownCode_limitCode k) hv
    obtain ⟨codes', hcodes', hwmem, -⟩ := mem_drawdown_violations (isDrawdownCode_warningCode k) hv
    rw [hcodes] at hcodes'
    cases hcodes'
    obtain ⟨hlimit, hwarn⟩ := mem_drawdownViolations hok hcodes k hpct
    have hle : k.defaultWarning ≤ k.defaultLimit := by
      cases k <;> norm_num [DrawdownKind.defaultWarning, DrawdownKind.defaultLimit]
    rw [hverdict]
    refine and_congr ?_ ?_
    · refine imp_congr_right fun _ => ?_
      rw [hlmem, hlimit]
      refine ⟨fun h => ⟨h.2, hnot⟩, fun h => ⟨hlrej (hlimit.mpr h.1), h.1⟩⟩
    · refine imp_congr_right fun _ => ?_
      rw [hlmem, hwmem, hlimit, hwarn]
      constructor
      · rintro ⟨h1, h2⟩
        left
        by_contra h3
        exact h2 ⟨not_lt.mp h3, not_le.mp h1⟩
      · rintro (h | h)
        · exact ⟨not_le.mpr (h.trans_le hle), fun h2 => absurd h2.1 (not_le.mpr h)⟩
        · exact absurd h hnot

/-! ## A concrete row -/

/-- The default policy row. -/
def defaultRow : PolicyRow where
  enabled := true
  policyVersion := 1
  riskPctPerTrade := ⟨5000, by decide⟩
  maxMonetaryRiskPerTrade := some ⟨5000000000000, by decide⟩
  maxDailyLossPct := ⟨30000, by decide⟩
  maxWeeklyLossPct := ⟨60000, by decide⟩
  maxConsecutiveLosses := 3
  maxSimultaneousPositions := 3
  maxTotalOpenRiskPct := ⟨30000, by decide⟩
  maxExposurePerInstrumentPct := ⟨10000, by decide⟩
  maxExposurePerDirectionPct := ⟨20000, by decide⟩
  minRr := ⟨20000, by decide⟩
  maxSpreadPips := none
  maxSlippagePips := none
  allowedSessions := none
  correlationRequired := false
  maxCorrelationGroupExposurePct := ⟨20000, by decide⟩
  paperEquity := equity10000
  dailyDrawdown := ⟨⟨20000, by decide⟩, ⟨30000, by decide⟩, by decide +kernel, by decide +kernel,
    by decide +kernel⟩
  weeklyDrawdown := ⟨⟨40000, by decide⟩, ⟨60000, by decide⟩, by decide +kernel, by decide +kernel,
    by decide +kernel⟩
  maxDrawdown := ⟨⟨80000, by decide⟩, ⟨100000, by decide⟩, by decide +kernel, by decide +kernel,
    by decide +kernel⟩

/-- The user tightened the daily breaker to a warning at `0.5 %` and a hard stop at `1 %`. -/
def strictRow : PolicyRow :=
  { defaultRow with
    dailyDrawdown := ⟨⟨5000, by decide⟩, ⟨10000, by decide⟩, by decide +kernel, by decide +kernel,
      by decide +kernel⟩ }

/-- A `10000` account after one loss of `150`: a drawdown of `1.5 %` from every baseline. -/
def lossAccount : AccountRow where
  dailyWindowStart := 19675
  weeklyWindowStart := 19674
  dailyRealizedPl := ⟨-1500000000000, by decide⟩
  weeklyRealizedPl := ⟨-1500000000000, by decide⟩
  consecutiveLosses := 1
  initialEquity := ⟨100000000, by decide⟩
  peakEquity := ⟨100000000, by decide⟩
  currentDrawdownPct := ⟨1500000, by decide⟩
  dailyHighValue := ⟨100000000, by decide⟩
  dailyDrawdownPct := ⟨1500000, by decide⟩
  weeklyOpenValue := ⟨100000000, by decide⟩
  weeklyDrawdownPct := ⟨1500000, by decide⟩
  cumulativeRealizedPl := ⟨-1500000, by decide⟩
  equityInitialized := true
  updatedAt := 1700000000000

def lossContext : EvaluateContext where
  strategyOverride := none
  strategyMinRr := none
  account := lossAccount
  closed := [some ⟨-1500000000000, by decide⟩]
  openPositions := []
  reservations := []
  instrument := some eurusdSpec
  correlationGroups := []
  candidateGroupIds := []
  killSwitchActive := false
  candidate := freshLongInput.candidate
  nowMs := 1700000000000

def dec9850 : Dec := ⟨9850 * SCALE, by decide⟩

def lossDrawdown : DrawdownInput := ⟨dec9850, dec10000, dec10000, dec10000, true⟩

theorem lossDrawdown_pct (k : DrawdownKind) :
    drawdownPctFrom lossDrawdown.currentAccountValue (k.baseline lossDrawdown) =
      .ok ⟨15000000000, by decide⟩ := by
  cases k <;> decide

/-- The account is `1.5 %` below its daily high, the row stops at `1 %`, and the trade is
    approved. -/
theorem stored_daily_limit_is_ignored :
    loadDrawdownInput lossAccount (evaluationEquity strictRow lossAccount) lossContext.nowMs
        lossContext.closed = some lossDrawdown ∧
      (evaluateVerdict strictRow lossContext).outcome = .approved ∧
      ¬ RowEnforced strictRow lossContext lossDrawdown := by
  refine ⟨by decide +kernel, by decide +kernel, fun h => ?_⟩
  have hlimit : DrawdownKind.rowLimit strictRow .daily ≤ (⟨15000000000, by decide⟩ : Dec).toRat := by
    decide +kernel
  have hrej := ((h .daily _ (lossDrawdown_pct .daily)).1 hlimit).1
  revert hrej
  decide +kernel

/-- The default row is enforced on the same account. -/
theorem default_row_is_enforced : RowEnforced defaultRow lossContext lossDrawdown := by
  rw [row_thresholds_enforced_iff defaultRow lossContext lossDrawdown rfl (by decide) (by decide)]
  intro k pct hpct
  rw [lossDrawdown_pct] at hpct
  cases hpct
  cases k
  · exact ⟨fun h => absurd h (by decide +kernel), fun _ => .inl (by decide +kernel)⟩
  · exact ⟨fun h => absurd h (by decide +kernel), fun _ => .inl (by decide +kernel)⟩
  · exact ⟨fun h => absurd h (by decide +kernel), fun _ => .inl (by decide +kernel)⟩

end VeltrixEye
