import VeltrixEye.Lib.Numerals
import VeltrixEye.Risk.Contracts

/-!
# Effective risk policy (`risk/policy.ts`)

`applyPlatformCeilings` clamps a stored policy into the platform envelope; the six drawdown
thresholds are optional there and fall back to `DEFAULT_RISK_POLICY`.  `applyStrategyOverride`
only tightens.
-/

namespace VeltrixEye

structure EffectiveRiskPolicy where
  enabled : Bool
  policyVersion : ℤ
  riskPctPerTrade : JsNumber
  maxMonetaryRiskPerTrade : Option JsNumber
  maxDailyLossPct : JsNumber
  maxWeeklyLossPct : JsNumber
  maxConsecutiveLosses : JsNumber
  maxSimultaneousPositions : JsNumber
  maxTotalOpenRiskPct : JsNumber
  maxExposurePerInstrumentPct : JsNumber
  maxExposurePerDirectionPct : JsNumber
  minRr : JsNumber
  maxSpreadPips : Option JsNumber
  maxSlippagePips : Option JsNumber
  allowedSessions : Option (List RiskSessionWindow)
  correlationRequired : Bool
  maxCorrelationGroupExposurePct : JsNumber
  paperEquity : JsNumber
  dailyDrawdownWarningPct : JsNumber
  dailyDrawdownLimitPct : JsNumber
  weeklyDrawdownWarningPct : JsNumber
  weeklyDrawdownLimitPct : JsNumber
  maxDrawdownWarningPct : JsNumber
  maxDrawdownLimitPct : JsNumber

structure StrategyRiskOverride where
  enabled : Bool
  blocked : Bool
  minRr : Option JsNumber
  maxRiskPct : Option JsNumber

/-- The argument of `applyPlatformCeilings`. -/
structure RawRiskPolicy where
  enabled : Bool
  policyVersion : ℤ
  riskPctPerTrade : JsNumber
  maxMonetaryRiskPerTrade : Option JsNumber
  maxDailyLossPct : JsNumber
  maxWeeklyLossPct : JsNumber
  maxConsecutiveLosses : JsNumber
  maxSimultaneousPositions : JsNumber
  maxTotalOpenRiskPct : JsNumber
  maxExposurePerInstrumentPct : JsNumber
  maxExposurePerDirectionPct : JsNumber
  minRr : JsNumber
  maxSpreadPips : Option JsNumber
  maxSlippagePips : Option JsNumber
  allowedSessions : Option (List RiskSessionWindow)
  correlationRequired : Bool
  maxCorrelationGroupExposurePct : JsNumber
  paperEquity : JsNumber
  dailyDrawdownWarningPct : Option JsNumber
  dailyDrawdownLimitPct : Option JsNumber
  weeklyDrawdownWarningPct : Option JsNumber
  weeklyDrawdownLimitPct : Option JsNumber
  maxDrawdownWarningPct : Option JsNumber
  maxDrawdownLimitPct : Option JsNumber

open Numerals in
/-- `DEFAULT_RISK_POLICY`; it carries no version and no paper equity of its own. -/
def DEFAULT_RISK_POLICY : EffectiveRiskPolicy where
  enabled := true
  policyVersion := 1
  riskPctPerTrade := .fin (1 / 2)
  maxMonetaryRiskPerTrade := some 500
  maxDailyLossPct := 3
  maxWeeklyLossPct := 6
  maxConsecutiveLosses := 3
  maxSimultaneousPositions := 3
  maxTotalOpenRiskPct := 3
  maxExposurePerInstrumentPct := 1
  maxExposurePerDirectionPct := 2
  minRr := .fin DEFAULT_MIN_RR
  maxSpreadPips := none
  maxSlippagePips := none
  allowedSessions := none
  correlationRequired := false
  maxCorrelationGroupExposurePct := 2
  paperEquity := .fin PLATFORM_RISK_CEILINGS.defaultPaperEquity
  dailyDrawdownWarningPct := 2
  dailyDrawdownLimitPct := 3
  weeklyDrawdownWarningPct := 4
  weeklyDrawdownLimitPct := 6
  maxDrawdownWarningPct := 8
  maxDrawdownLimitPct := 10

/-- `Number.isFinite(value) && value > 0`. -/
def isPositiveFinite (value : JsNumber) : Bool := value.isFinite && JsNumber.lt 0 value

def capPct (value : JsNumber) (ceiling : ℚ) (fallback : JsNumber) : JsNumber :=
  if isPositiveFinite value then value.min ceiling else fallback.min ceiling

def capInt (value : JsNumber) (ceiling : ℚ) (fallback : JsNumber) : JsNumber :=
  if value.isInteger && JsNumber.lt 0 value then value.min ceiling else fallback.min ceiling

def capDrawdown (value : JsNumber) (ceiling : ℚ) (fallback : JsNumber) : JsNumber :=
  if isPositiveFinite value then value.min ceiling else fallback

/-- The two thresholds of one breaker: absent values take the default, then each is capped, and a
    warning above its hard stop is lowered to it. -/
def drawdownThresholds (warn limit : Option JsNumber) (ceiling : ℚ)
    (defaultWarn defaultLimit : JsNumber) : JsNumber × JsNumber :=
  let limitPct := capDrawdown (limit.getD defaultLimit) ceiling defaultLimit
  let warningPct := capDrawdown (warn.getD defaultWarn) ceiling defaultWarn
  (if JsNumber.lt limitPct warningPct then limitPct else warningPct, limitPct)

def applyPlatformCeilings (raw : RawRiskPolicy) : EffectiveRiskPolicy :=
  let c := PLATFORM_RISK_CEILINGS
  let d := DEFAULT_RISK_POLICY
  let daily := drawdownThresholds raw.dailyDrawdownWarningPct raw.dailyDrawdownLimitPct
    c.maxDailyDrawdownPct d.dailyDrawdownWarningPct d.dailyDrawdownLimitPct
  let weekly := drawdownThresholds raw.weeklyDrawdownWarningPct raw.weeklyDrawdownLimitPct
    c.maxWeeklyDrawdownPct d.weeklyDrawdownWarningPct d.weeklyDrawdownLimitPct
  let maximum := drawdownThresholds raw.maxDrawdownWarningPct raw.maxDrawdownLimitPct
    c.maxMaxDrawdownPct d.maxDrawdownWarningPct d.maxDrawdownLimitPct
  { enabled := raw.enabled
    policyVersion := if 0 < raw.policyVersion then raw.policyVersion else 1
    riskPctPerTrade := capPct raw.riskPctPerTrade c.maxRiskPctPerTrade d.riskPctPerTrade
    maxMonetaryRiskPerTrade := raw.maxMonetaryRiskPerTrade.bind fun m =>
      if isPositiveFinite m then some (m.min c.maxMonetaryRiskPerTrade)
      else d.maxMonetaryRiskPerTrade
    maxDailyLossPct := capPct raw.maxDailyLossPct c.maxDailyLossPct d.maxDailyLossPct
    maxWeeklyLossPct := capPct raw.maxWeeklyLossPct c.maxWeeklyLossPct d.maxWeeklyLossPct
    maxConsecutiveLosses :=
      capInt raw.maxConsecutiveLosses c.maxConsecutiveLosses d.maxConsecutiveLosses
    maxSimultaneousPositions :=
      capInt raw.maxSimultaneousPositions c.maxSimultaneousPositions d.maxSimultaneousPositions
    maxTotalOpenRiskPct := capPct raw.maxTotalOpenRiskPct c.maxTotalOpenRiskPct d.maxTotalOpenRiskPct
    maxExposurePerInstrumentPct := capPct raw.maxExposurePerInstrumentPct
      c.maxExposurePerInstrumentPct d.maxExposurePerInstrumentPct
    maxExposurePerDirectionPct := capPct raw.maxExposurePerDirectionPct
      c.maxExposurePerDirectionPct d.maxExposurePerDirectionPct
    minRr := if raw.minRr.isFinite then raw.minRr.max c.minRr else c.minRr
    maxSpreadPips := raw.maxSpreadPips.filter isPositiveFinite
    maxSlippagePips := raw.maxSlippagePips.filter isPositiveFinite
    allowedSessions := raw.allowedSessions
    correlationRequired := raw.correlationRequired
    maxCorrelationGroupExposurePct := capPct raw.maxCorrelationGroupExposurePct
      c.maxTotalOpenRiskPct d.maxCorrelationGroupExposurePct
    paperEquity := if raw.paperEquity.isFinite
      then (raw.paperEquity.max c.minPaperEquity).min c.maxPaperEquity else c.defaultPaperEquity
    dailyDrawdownWarningPct := daily.1
    dailyDrawdownLimitPct := daily.2
    weeklyDrawdownWarningPct := weekly.1
    weeklyDrawdownLimitPct := weekly.2
    maxDrawdownWarningPct := maximum.1
    maxDrawdownLimitPct := maximum.2 }

/-- `applyStrategyOverride`: a higher `minRr` and a lower risk percentage, never the reverse. -/
def applyStrategyOverride (policy : EffectiveRiskPolicy) (override : Option StrategyRiskOverride) :
    EffectiveRiskPolicy × Bool :=
  match override with
  | none => (policy, false)
  | some o =>
    if o.enabled then
      let minRr := match o.minRr with
        | some m => if m.isFinite && JsNumber.lt policy.minRr m then m else policy.minRr
        | none => policy.minRr
      let riskPctPerTrade := match o.maxRiskPct with
        | some m => if isPositiveFinite m then policy.riskPctPerTrade.min m else policy.riskPctPerTrade
        | none => policy.riskPctPerTrade
      ({ policy with minRr, riskPctPerTrade }, o.blocked)
    else (policy, false)

/-! ## Facts -/

@[simp] theorem isPositiveFinite_fin (q : ℚ) : isPositiveFinite (.fin q) = decide (0 < q) := by
  change (true && JsNumber.lt (.fin 0) (.fin q)) = _
  simp

/-- **Dropped thresholds become the defaults.** -/
theorem applyPlatformCeilings_drawdown_none (raw : RawRiskPolicy)
    (hd : raw.dailyDrawdownWarningPct = none ∧ raw.dailyDrawdownLimitPct = none)
    (hw : raw.weeklyDrawdownWarningPct = none ∧ raw.weeklyDrawdownLimitPct = none)
    (hm : raw.maxDrawdownWarningPct = none ∧ raw.maxDrawdownLimitPct = none) :
    (applyPlatformCeilings raw).dailyDrawdownWarningPct = .fin 2 ∧
    (applyPlatformCeilings raw).dailyDrawdownLimitPct = .fin 3 ∧
    (applyPlatformCeilings raw).weeklyDrawdownWarningPct = .fin 4 ∧
    (applyPlatformCeilings raw).weeklyDrawdownLimitPct = .fin 6 ∧
    (applyPlatformCeilings raw).maxDrawdownWarningPct = .fin 8 ∧
    (applyPlatformCeilings raw).maxDrawdownLimitPct = .fin 10 := by
  simp only [applyPlatformCeilings, hd.1, hd.2, hw.1, hw.2, hm.1, hm.2]
  decide

theorem applyStrategyOverride_drawdown (policy : EffectiveRiskPolicy)
    (override : Option StrategyRiskOverride) :
    ∃ m r, (applyStrategyOverride policy override).1 =
      { policy with minRr := m, riskPctPerTrade := r } := by
  unfold applyStrategyOverride
  split
  · exact ⟨policy.minRr, policy.riskPctPerTrade, rfl⟩
  · split
    · exact ⟨_, _, rfl⟩
    · exact ⟨policy.minRr, policy.riskPctPerTrade, rfl⟩

end VeltrixEye
