import VeltrixEye.Risk.Account
import VeltrixEye.Risk.Sizing

/-!
# The risk engine (`risk/engine.ts`)

`evaluateRisk` is pure: policy, override, account, open positions, reservations, correlation
groups and candidate in, one verdict out.  Every check pushes a code onto `violations`; the
verdict is approved when none fired.  An overflow anywhere outside the guarded helpers rejects
with `OVERFLOW`.
-/

namespace VeltrixEye

open RiskRejectionCode

/-! ## Inputs and verdicts -/

structure OpenPositionSnapshot where
  symbol : String
  direction : Direction
  quantity : Dec
  entry : Dec
  stopLoss : Option Dec
  spec : Option InstrumentRiskSpec

structure CorrelationGroupSnapshot where
  id : String
  maxExposurePct : Option JsNumber
  members : List String

structure ReservationSnapshot where
  symbol : String
  direction : Direction
  monetaryRisk : Dec

inductive RiskAction where
  | open_long
  | open_short
  | close_position
  deriving DecidableEq

structure RiskCandidate where
  action : RiskAction
  symbol : String
  direction : Direction
  entryPrice : JsNumber
  stopLossPrice : JsNumber
  takeProfitPrice : JsNumber
  spreadPips : Option JsNumber
  slippagePips : Option JsNumber

structure RiskAccount where
  equity : Dec
  dailyRealizedPl : Dec
  weeklyRealizedPl : Dec
  consecutiveLosses : JsNumber

structure RiskEngineInput where
  policy : EffectiveRiskPolicy
  strategyOverride : Option StrategyRiskOverride
  strategyMinRr : Option JsNumber
  account : RiskAccount
  openPositions : List OpenPositionSnapshot
  reservations : List ReservationSnapshot
  instrument : Option InstrumentRiskSpec
  correlationGroups : List CorrelationGroupSnapshot
  candidateGroupIds : List String
  killSwitchActive : Bool
  candidate : RiskCandidate
  evaluatedAtMs : JsNumber
  drawdown : Option DrawdownInput

/-- The policy after the strategy override. -/
def RiskEngineInput.tightened (input : RiskEngineInput) : EffectiveRiskPolicy :=
  (applyStrategyOverride input.policy input.strategyOverride).1

def RiskEngineInput.blocked (input : RiskEngineInput) : Bool :=
  (applyStrategyOverride input.policy input.strategyOverride).2

/-- The candidate's levels under the effective minimum reward:risk. -/
def RiskEngineInput.rrInput (input : RiskEngineInput) : RrInput where
  direction := input.candidate.direction
  entry := input.candidate.entryPrice
  stopLoss := some input.candidate.stopLossPrice
  takeProfit := some input.candidate.takeProfitPrice
  minRr := effectiveMinRr input.tightened.minRr input.strategyMinRr

structure ExposureView where
  openPositions : ℕ
  reservedPositions : ℕ
  totalOpenRisk : Dec
  instrumentOpenRisk : Dec
  directionOpenRisk : Dec

inductive RiskOutcome where
  | approved
  | rejected
  deriving DecidableEq

structure RiskEngineVerdict where
  outcome : RiskOutcome
  rejectionCode : Option RiskRejectionCode
  reason : String
  violations : List RiskRejectionCode
  riskPct : Option Dec
  monetaryRisk : Option Dec
  positionSize : Option Dec
  rr : Option Dec
  effectiveMinRr : JsNumber
  currentExposure : ExposureView
  projectedExposure : ExposureView
  policyVersion : ℤ
  engineVersion : String
  exposureWithinLimits : Bool

def emptyExposure : ExposureView := ⟨0, 0, Dec.zero, Dec.zero, Dec.zero⟩

/-- `reject(code, violations, extra)` with `extra` given as the verdict whose outcome, code,
    reason and violations it overrides. -/
def reject (code : RiskRejectionCode) (violations : List RiskRejectionCode)
    (extra : RiskEngineVerdict) : RiskEngineVerdict :=
  let unique := orderedUnique (code :: violations)
  { extra with
    outcome := .rejected
    rejectionCode := some (unique.head?.getD code)
    reason := REASONS (unique.head?.getD code)
    violations := unique }

/-- The defaults `reject` fills in when `extra` is silent. -/
def bareVerdict (policyVersion : ℤ) (minRr : JsNumber) : RiskEngineVerdict where
  outcome := .rejected
  rejectionCode := none
  reason := ""
  violations := []
  riskPct := none
  monetaryRisk := none
  positionSize := none
  rr := none
  effectiveMinRr := minRr
  currentExposure := emptyExposure
  projectedExposure := emptyExposure
  policyVersion
  engineVersion := RISK_ENGINE_VERSION
  exposureWithinLimits := false

/-! ## Open risk -/

/-- `openRiskOf`: `null` when the position's risk cannot be computed. -/
def openRiskOf (position : OpenPositionSnapshot) : Calc (Option Dec) :=
  match position.spec, position.stopLoss with
  | some spec, some stopLoss =>
    if position.quantity.isPositive && position.entry.isPositive then do
      let difference ← position.entry.sub stopLoss
      let distance := difference.abs
      if distance.isPositive then
        return (valuePerUnit spec position.entry distance).bind (monetaryRiskFor position.quantity)
      else return none
    else return none
  | _, _ => return none

/-- One position of a risk sum: skipped, flagged, or added. -/
def addOpenRisk (sel : OpenPositionSnapshot → Bool) (acc : Dec × Bool) (p : OpenPositionSnapshot) :
    Calc (Dec × Bool) :=
  if sel p then do
    match ← openRiskOf p with
    | none => return (acc.1, true)
    | some r => do
      let sum ← acc.1.add r
      return (sum, acc.2)
  else return acc

def addReservation (sel : ReservationSnapshot → Bool) (acc : Dec) (r : ReservationSnapshot) :
    Calc Dec :=
  if sel r then acc.add r.monetaryRisk else return acc

/-- The loops behind `total`, `instrumentRisk`, `directionRisk` and a group's risk: the selected
    open positions, then the selected reservations.  The flag is `openRiskUncomputable`. -/
def sumRisk (start : Dec) (selP : OpenPositionSnapshot → Bool) (selR : ReservationSnapshot → Bool)
    (positions : List OpenPositionSnapshot) (reservations : List ReservationSnapshot) :
    Calc (Dec × Bool) := do
  let acc ← positions.foldlM (addOpenRisk selP) (start, false)
  let sum ← reservations.foldlM (addReservation selR) acc.1
  return (sum, acc.2)

/-- The current exposure and whether some position's risk was uncomputable. -/
def currentExposure (input : RiskEngineInput) : Calc (ExposureView × Bool) := do
  let c := input.candidate
  let total ← sumRisk Dec.zero (fun _ => true) (fun _ => true) input.openPositions input.reservations
  let instrument ← sumRisk Dec.zero (fun p => p.symbol == c.symbol) (fun r => r.symbol == c.symbol)
    input.openPositions input.reservations
  let direction ← sumRisk Dec.zero (fun p => p.direction == c.direction)
    (fun r => r.direction == c.direction) input.openPositions input.reservations
  return (⟨input.openPositions.length, input.reservations.length, total.1, instrument.1, direction.1⟩,
    total.2 || instrument.2 || direction.2)

/-- `pctOf`: the engine's rounded percentage of equity. -/
def pctOf (equity : Dec) (pct : JsNumber) : Calc Dec := do
  let p ← percentOf equity ((Dec.fromNumber pct).getD Dec.zero)
  return p.getD Dec.zero

/-- A realized loss as a magnitude. -/
def lossOf (realizedPl : Dec) : Dec := if realizedPl.isNegative then realizedPl.abs else Dec.zero

/-! ## Checks -/

/-- `if (!result.ok) violations.push(result.code)`. -/
def failureCode {α : Type} : Except RiskRejectionCode α → List RiskRejectionCode
  | .ok _ => []
  | .error code => [code]

/-- `sized.ok ? sized.monetaryRisk : DEC_ZERO`. -/
def riskOrZero : Except RiskRejectionCode SizingSuccess → Dec
  | .ok s => s.monetaryRisk
  | .error _ => Dec.zero

/-- A pip limit that a missing or non-finite measurement fails. -/
def exceedsPips (limit measured : Option JsNumber) : Bool :=
  match limit with
  | none => false
  | some max =>
    match measured with
    | none => true
    | some pips => !pips.isFinite || JsNumber.lt max pips

/-- The checks on the request itself, from the kill switch to the instrument. -/
def requestViolations (input : RiskEngineInput) (tightened : EffectiveRiskPolicy) (blocked : Bool)
    (rr : Except RiskRejectionCode RrSuccess) : List RiskRejectionCode :=
  let c := input.candidate
  let invalidPrice (x : JsNumber) : Bool := !(Dec.fromNumber x).any Dec.isPositive
  let sessionOk : Bool := match input.evaluatedAtMs with
    | .fin ms => decide (0 < ms) && sessionAllows tightened.allowedSessions ms
    | _ => false
  pushIf (input.killSwitchActive = true) KILL_SWITCH_ACTIVE ++
  pushIf (tightened.enabled = false) POLICY_DISABLED ++
  pushIf (blocked = true) STRATEGY_RESTRICTION ++
  pushIf (c.symbol.length = 0 ∨ 32 < c.symbol.length) INVALID_SYMBOL ++
  pushIf (invalidPrice c.entryPrice) INVALID_ENTRY ++
  pushIf (invalidPrice c.stopLossPrice) INVALID_STOP_LOSS ++
  pushIf (invalidPrice c.takeProfitPrice) INVALID_TAKE_PROFIT ++
  failureCode rr ++
  pushIf (¬ input.account.equity.isPositive) ZERO_OR_NEGATIVE_EQUITY ++
  pushIf (sessionOk = false) SESSION_NOT_ALLOWED ++
  pushIf (exceedsPips tightened.maxSpreadPips c.spreadPips) SPREAD_EXCEEDS_MAXIMUM ++
  pushIf (exceedsPips tightened.maxSlippagePips c.slippagePips) SLIPPAGE_EXCEEDS_MAXIMUM ++
  pushIf (input.instrument = none) MISSING_INSTRUMENT_METADATA

/-- A loss limit is tested only when its rounded cap is positive. -/
def lossViolations (input : RiskEngineInput) (tightened : EffectiveRiskPolicy)
    (dailyCap weeklyCap : Dec) : List RiskRejectionCode :=
  pushIf (dailyCap ≤ lossOf input.account.dailyRealizedPl ∧ dailyCap.isPositive) DAILY_LOSS_LIMIT ++
  pushIf (weeklyCap ≤ lossOf input.account.weeklyRealizedPl ∧ weeklyCap.isPositive) WEEKLY_LOSS_LIMIT ++
  pushIf (JsNumber.le tightened.maxConsecutiveLosses input.account.consecutiveLosses)
    CONSECUTIVE_LOSS_LIMIT

/-- The engine's drawdown percentage from a baseline. -/
def drawdownPctFrom (currentVal baseline : Dec) : Calc Dec :=
  if baseline ≤ Dec.zero then return Dec.zero
  else do
    let drop ← baseline.sub currentVal
    if drop ≤ Dec.zero then return Dec.zero
    else do
      let scaled ← drop.mul Dec.hundred
      let p ← scaled.div baseline
      return p.getD Dec.zero

/-- One breaker: the hard stop first, then the warning. -/
def breaker (pct : Dec) (warningPct limitPct : JsNumber) (warning limit : RiskRejectionCode) :
    List RiskRejectionCode :=
  let warn := (Dec.fromNumber warningPct).getD Dec.zero
  let stop := (Dec.fromNumber limitPct).getD Dec.zero
  if stop ≤ pct ∧ stop.isPositive then [limit]
  else if warn ≤ pct ∧ warn.isPositive then [warning]
  else []

/-- The complete equity ordering the engine asks for before it computes a drawdown. -/
def DrawdownInput.consistent (dd : DrawdownInput) : Bool :=
  dd.peakEquity.isPositive && dd.dailyHighValue.isPositive && dd.weeklyOpenValue.isPositive &&
    decide (dd.currentAccountValue ≤ dd.peakEquity) && decide (dd.currentAccountValue ≤ dd.dailyHighValue) &&
    decide (dd.weeklyOpenValue ≤ dd.peakEquity) && decide (dd.dailyHighValue ≤ dd.peakEquity)

def drawdownViolations (drawdown : Option DrawdownInput) (tightened : EffectiveRiskPolicy) :
    Calc (List RiskRejectionCode) :=
  match drawdown with
  | none => return [EQUITY_DATA_UNAVAILABLE]
  | some dd =>
    if dd.initialized && dd.currentAccountValue.isPositive && dd.consistent then do
      let dailyDdPct ← drawdownPctFrom dd.currentAccountValue dd.dailyHighValue
      let weeklyDdPct ← drawdownPctFrom dd.currentAccountValue dd.weeklyOpenValue
      let maxDdPct ← drawdownPctFrom dd.currentAccountValue dd.peakEquity
      return breaker dailyDdPct tightened.dailyDrawdownWarningPct tightened.dailyDrawdownLimitPct
          DAILY_DRAWDOWN_WARNING DAILY_DRAWDOWN_LIMIT ++
        breaker weeklyDdPct tightened.weeklyDrawdownWarningPct tightened.weeklyDrawdownLimitPct
          WEEKLY_DRAWDOWN_WARNING WEEKLY_DRAWDOWN_LIMIT ++
        breaker maxDdPct tightened.maxDrawdownWarningPct tightened.maxDrawdownLimitPct
          MAX_DRAWDOWN_WARNING MAX_DRAWDOWN_LIMIT
    else return [EQUITY_DATA_UNAVAILABLE]

/-- A group's own cap if it has one, else the policy's. -/
def groupCapOf (equity groupCap : Dec) (group : CorrelationGroupSnapshot) : Calc Dec :=
  match group.maxExposurePct with
  | some pct => pctOf equity pct
  | none => .ok groupCap

/-- One candidate group: unresolved ids matter only when correlation data is required. -/
def groupViolations (input : RiskEngineInput) (tightened : EffectiveRiskPolicy) (candidateRisk groupCap : Dec)
    (gid : String) : Calc (List RiskRejectionCode) :=
  match input.correlationGroups.find? fun g => g.id == gid with
  | none => return pushIf (tightened.correlationRequired = true) CORRELATION_METADATA_UNAVAILABLE
  | some group => do
    let risk ← sumRisk candidateRisk (fun p => group.members.contains p.symbol)
      (fun r => group.members.contains r.symbol) input.openPositions input.reservations
    let cap ← groupCapOf input.account.equity groupCap group
    return pushIf (risk.2 = true) OPEN_POSITION_RISK_UNCOMPUTABLE ++
      pushIf (cap < risk.1) CORRELATION_EXPOSURE_LIMIT

def correlationViolations (input : RiskEngineInput) (tightened : EffectiveRiskPolicy)
    (candidateRisk : Dec) : Calc (List RiskRejectionCode) := do
  let groupCap ← pctOf input.account.equity tightened.maxCorrelationGroupExposurePct
  let perGroup ← input.candidateGroupIds.mapM (groupViolations input tightened candidateRisk groupCap)
  return pushIf (tightened.correlationRequired = true ∧ input.candidateGroupIds = [])
    CORRELATION_METADATA_UNAVAILABLE ++ perGroup.flatten

/-! ## Verdicts -/

/-- The close branch: no new risk, every earlier violation still refuses. -/
def closeVerdict (base : RiskEngineVerdict) (rr : Option Dec) (current : ExposureView)
    (violations : List RiskRejectionCode) : RiskEngineVerdict :=
  let exposureCodes := [SIMULTANEOUS_POSITION_LIMIT, TOTAL_OPEN_RISK_LIMIT,
    INSTRUMENT_EXPOSURE_LIMIT, DIRECTION_EXPOSURE_LIMIT, CORRELATION_EXPOSURE_LIMIT,
    OPEN_POSITION_RISK_UNCOMPUTABLE]
  match violations with
  | v :: _ => reject v violations { base with
      rr
      currentExposure := current
      projectedExposure := current
      exposureWithinLimits := !violations.any exposureCodes.contains }
  | [] => { base with
      outcome := .approved
      reason := "risk checks passed (close does not add exposure)"
      riskPct := some Dec.zero
      monetaryRisk := some Dec.zero
      positionSize := some Dec.zero
      rr
      currentExposure := current
      projectedExposure := current
      exposureWithinLimits := true }

/-- The remaining budgets offered to the sizer.  A negative one is filtered out before it could
    be treated as a zero cap. -/
def sizingCaps (remaining : List Dec) : List Dec :=
  (remaining.filter fun x => decide (Dec.zero ≤ x)).map fun x => if x.isNegative then Dec.zero else x

/-- The open branch, from the remaining budgets to the verdict. -/
def evaluateOpen (input : RiskEngineInput) (tightened : EffectiveRiskPolicy) (base : RiskEngineVerdict)
    (rr : Option Dec) (current : ExposureView) (dailyCap weeklyCap : Dec)
    (earlier : List RiskRejectionCode) : Calc RiskEngineVerdict := do
  let equity := input.account.equity
  let c := input.candidate
  let remainingDaily ← dailyCap.sub (lossOf input.account.dailyRealizedPl)
  let remainingWeekly ← weeklyCap.sub (lossOf input.account.weeklyRealizedPl)
  let totalCap ← pctOf equity tightened.maxTotalOpenRiskPct
  let remainingTotal ← totalCap.sub current.totalOpenRisk
  let instCap ← pctOf equity tightened.maxExposurePerInstrumentPct
  let remainingInst ← instCap.sub current.instrumentOpenRisk
  let dirCap ← pctOf equity tightened.maxExposurePerDirectionPct
  let remainingDir ← dirCap.sub current.directionOpenRisk
  let sized := sizePosition {
    equity
    riskPct := (Dec.fromNumber tightened.riskPctPerTrade).getD Dec.zero
    maxMonetaryRisk := (tightened.maxMonetaryRiskPerTrade.filter JsNumber.truthy).bind Dec.fromNumber
    extraCaps := sizingCaps [remainingDaily, remainingWeekly, remainingTotal, remainingInst, remainingDir]
    entry := (Dec.fromNumber c.entryPrice).getD Dec.zero
    stopLoss := (Dec.fromNumber c.stopLossPrice).getD Dec.zero
    spec := input.instrument }
  let candidateRisk := riskOrZero sized
  let projectedTotal ← current.totalOpenRisk.add candidateRisk
  let projectedInst ← current.instrumentOpenRisk.add candidateRisk
  let projectedDir ← current.directionOpenRisk.add candidateRisk
  let correlation ← correlationViolations input tightened candidateRisk
  let projected : ExposureView := ⟨current.openPositions + 1, current.reservedPositions,
    projectedTotal, projectedInst, projectedDir⟩
  let liveCount := current.openPositions + current.reservedPositions
  let violations := earlier ++
    failureCode sized ++
    pushIf (JsNumber.lt tightened.maxSimultaneousPositions (.fin (liveCount + 1)))
      SIMULTANEOUS_POSITION_LIMIT ++
    pushIf (totalCap < projectedTotal) TOTAL_OPEN_RISK_LIMIT ++
    pushIf (instCap < projectedInst) INSTRUMENT_EXPOSURE_LIMIT ++
    pushIf (dirCap < projectedDir) DIRECTION_EXPOSURE_LIMIT ++
    correlation
  let exposureCodes := [SIMULTANEOUS_POSITION_LIMIT, TOTAL_OPEN_RISK_LIMIT,
    INSTRUMENT_EXPOSURE_LIMIT, DIRECTION_EXPOSURE_LIMIT, CORRELATION_EXPOSURE_LIMIT,
    CORRELATION_METADATA_UNAVAILABLE, OPEN_POSITION_RISK_UNCOMPUTABLE]
  let outlook := { base with
    riskPct := sized.toOption.map SizingSuccess.riskPctOfEquity
    monetaryRisk := sized.toOption.map SizingSuccess.monetaryRisk
    positionSize := sized.toOption.map SizingSuccess.quantity
    rr
    currentExposure := current
    projectedExposure := projected
    exposureWithinLimits := !violations.any exposureCodes.contains }
  match violations with
  | v :: _ => return reject v violations outlook
  | [] =>
    match sized with
    | .error code => return reject code [code] { base with
        currentExposure := current, projectedExposure := projected }
    | .ok _ => return { outlook with outcome := .approved, reason := "risk checks passed" }

def evaluateRiskInner (input : RiskEngineInput) : Calc RiskEngineVerdict := do
  let tightened := input.tightened
  let base := bareVerdict tightened.policyVersion input.rrInput.minRr
  let rr := calculateRr input.rrInput
  let (current, openRiskUncomputable) ← currentExposure input
  let dailyCap ← pctOf input.account.equity tightened.maxDailyLossPct
  let weeklyCap ← pctOf input.account.equity tightened.maxWeeklyLossPct
  let drawdown ← drawdownViolations input.drawdown tightened
  let violations := requestViolations input tightened input.blocked rr ++
    pushIf (openRiskUncomputable = true) OPEN_POSITION_RISK_UNCOMPUTABLE ++
    lossViolations input tightened dailyCap weeklyCap ++ drawdown
  let rrValue := rr.toOption.map RrSuccess.rr
  match input.candidate.action with
  | .close_position => return closeVerdict base rrValue current violations
  | _ => evaluateOpen input tightened base rrValue current dailyCap weeklyCap violations

/-- `evaluateRisk`: an overflow fails closed. -/
def evaluateRisk (input : RiskEngineInput) : RiskEngineVerdict :=
  match evaluateRiskInner input with
  | .ok verdict => verdict
  | .error _ => reject OVERFLOW [OVERFLOW]
      (bareVerdict input.policy.policyVersion PLATFORM_RISK_CEILINGS.minRr)

end VeltrixEye
