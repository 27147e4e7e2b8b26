import VeltrixEye.Risk.Decimal

/-!
# Risk contracts (`contracts/src/risk-engine.ts`)

The platform ceilings, the default policy, the pinned rejection codes with their reasons, the
trading-session windows and the instrument specification.

Principal result: `mem_orderedUnique` — reporting in pinned order loses and invents nothing.
-/

namespace VeltrixEye

inductive Direction where
  | long
  | short
  deriving DecidableEq

/-! ## Platform envelope -/

structure PlatformRiskCeilings where
  maxRiskPctPerTrade : ℚ
  maxMonetaryRiskPerTrade : ℚ
  maxDailyLossPct : ℚ
  maxWeeklyLossPct : ℚ
  maxConsecutiveLosses : ℚ
  maxSimultaneousPositions : ℚ
  maxTotalOpenRiskPct : ℚ
  maxExposurePerInstrumentPct : ℚ
  maxExposurePerDirectionPct : ℚ
  maxPositionSize : ℚ
  minRr : ℚ
  minPaperEquity : ℚ
  maxPaperEquity : ℚ
  defaultPaperEquity : ℚ
  maxDailyDrawdownPct : ℚ
  maxWeeklyDrawdownPct : ℚ
  maxMaxDrawdownPct : ℚ

def DEFAULT_MIN_RR : ℚ := 2

def PLATFORM_RISK_CEILINGS : PlatformRiskCeilings where
  maxRiskPctPerTrade := 1
  maxMonetaryRiskPerTrade := 10000
  maxDailyLossPct := 5
  maxWeeklyLossPct := 10
  maxConsecutiveLosses := 5
  maxSimultaneousPositions := 5
  maxTotalOpenRiskPct := 5
  maxExposurePerInstrumentPct := 2
  maxExposurePerDirectionPct := 3
  maxPositionSize := 100
  minRr := DEFAULT_MIN_RR
  minPaperEquity := 100
  maxPaperEquity := 1000000
  defaultPaperEquity := 10000
  maxDailyDrawdownPct := 10
  maxWeeklyDrawdownPct := 15
  maxMaxDrawdownPct := 25

/-- `Dec.fromInt(PLATFORM_RISK_CEILINGS.defaultPaperEquity)`. -/
def dec10000 : Dec := ⟨10000 * SCALE, by decide⟩

def RISK_ENGINE_VERSION : String := "m8.2-risk-engine-1"

def RISK_RESERVATION_TTL_MS : ℤ := 60000

/-! ## Rejection codes -/

inductive RiskRejectionCode where
  | KILL_SWITCH_ACTIVE
  | POLICY_DISABLED
  | INVALID_DIRECTION
  | INVALID_SYMBOL
  | UNSUPPORTED_SYMBOL
  | INVALID_ENTRY
  | INVALID_STOP_LOSS
  | INVALID_TAKE_PROFIT
  | INVALID_PRICES
  | MISSING_SL
  | MISSING_TP
  | SL_WRONG_SIDE
  | TP_WRONG_SIDE
  | STOP_DISTANCE_NOT_POSITIVE
  | ZERO_RISK_DISTANCE
  | MISSING_INSTRUMENT_METADATA
  | INVALID_CONTRACT_SPEC
  | ZERO_OR_NEGATIVE_EQUITY
  | OVERFLOW
  | SESSION_NOT_ALLOWED
  | RR_INVALID
  | RR_BELOW_MINIMUM
  | SPREAD_EXCEEDS_MAXIMUM
  | SLIPPAGE_EXCEEDS_MAXIMUM
  | STRATEGY_RESTRICTION
  | DAILY_LOSS_LIMIT
  | WEEKLY_LOSS_LIMIT
  | CONSECUTIVE_LOSS_LIMIT
  | POSITION_SIZE_UNCOMPUTABLE
  | POSITION_SIZE_BELOW_MINIMUM
  | POSITION_SIZE_EXCEEDS_MAXIMUM
  | MONETARY_RISK_EXCEEDS_LIMIT
  | SIMULTANEOUS_POSITION_LIMIT
  | TOTAL_OPEN_RISK_LIMIT
  | INSTRUMENT_EXPOSURE_LIMIT
  | DIRECTION_EXPOSURE_LIMIT
  | CORRELATION_METADATA_UNAVAILABLE
  | CORRELATION_EXPOSURE_LIMIT
  | OPEN_POSITION_RISK_UNCOMPUTABLE
  | DAILY_DRAWDOWN_WARNING
  | DAILY_DRAWDOWN_LIMIT
  | WEEKLY_DRAWDOWN_WARNING
  | WEEKLY_DRAWDOWN_LIMIT
  | MAX_DRAWDOWN_WARNING
  | MAX_DRAWDOWN_LIMIT
  | EQUITY_DATA_UNAVAILABLE
  deriving DecidableEq

open RiskRejectionCode in
/-- `RISK_REJECTION_CODES`, in the pinned order. -/
def RISK_REJECTION_CODES : List RiskRejectionCode :=
  [KILL_SWITCH_ACTIVE, POLICY_DISABLED, INVALID_DIRECTION, INVALID_SYMBOL, UNSUPPORTED_SYMBOL,
   INVALID_ENTRY, INVALID_STOP_LOSS, INVALID_TAKE_PROFIT, INVALID_PRICES, MISSING_SL, MISSING_TP,
   SL_WRONG_SIDE, TP_WRONG_SIDE, STOP_DISTANCE_NOT_POSITIVE, ZERO_RISK_DISTANCE,
   MISSING_INSTRUMENT_METADATA, INVALID_CONTRACT_SPEC, ZERO_OR_NEGATIVE_EQUITY, OVERFLOW,
   SESSION_NOT_ALLOWED, RR_INVALID, RR_BELOW_MINIMUM, SPREAD_EXCEEDS_MAXIMUM,
   SLIPPAGE_EXCEEDS_MAXIMUM, STRATEGY_RESTRICTION, DAILY_LOSS_LIMIT, WEEKLY_LOSS_LIMIT,
   CONSECUTIVE_LOSS_LIMIT, POSITION_SIZE_UNCOMPUTABLE, POSITION_SIZE_BELOW_MINIMUM,
   POSITION_SIZE_EXCEEDS_MAXIMUM, MONETARY_RISK_EXCEEDS_LIMIT, SIMULTANEOUS_POSITION_LIMIT,
   TOTAL_OPEN_RISK_LIMIT, INSTRUMENT_EXPOSURE_LIMIT, DIRECTION_EXPOSURE_LIMIT,
   CORRELATION_METADATA_UNAVAILABLE, CORRELATION_EXPOSURE_LIMIT, OPEN_POSITION_RISK_UNCOMPUTABLE,
   DAILY_DRAWDOWN_WARNING, DAILY_DRAWDOWN_LIMIT, WEEKLY_DRAWDOWN_WARNING, WEEKLY_DRAWDOWN_LIMIT,
   MAX_DRAWDOWN_WARNING, MAX_DRAWDOWN_LIMIT, EQUITY_DATA_UNAVAILABLE]

open RiskRejectionCode in
def REASONS : RiskRejectionCode → String
  | KILL_SWITCH_ACTIVE => "an applicable kill switch is active"
  | POLICY_DISABLED => "risk policy is disabled"
  | INVALID_DIRECTION => "direction is not long or short"
  | INVALID_SYMBOL => "symbol is invalid"
  | UNSUPPORTED_SYMBOL => "symbol has no instrument risk specification"
  | INVALID_ENTRY => "entry price is not a positive finite number"
  | INVALID_STOP_LOSS => "stop-loss price is not a positive finite number"
  | INVALID_TAKE_PROFIT => "take-profit price is not a positive finite number"
  | INVALID_PRICES => "entry, stop loss or take profit is not a valid price"
  | MISSING_SL => "stop loss is required"
  | MISSING_TP => "take profit is required"
  | SL_WRONG_SIDE => "stop loss is on the wrong side of the entry for this direction"
  | TP_WRONG_SIDE => "take profit is on the wrong side of the entry for this direction"
  | STOP_DISTANCE_NOT_POSITIVE => "stop distance must be positive"
  | ZERO_RISK_DISTANCE => "risk distance is zero"
  | MISSING_INSTRUMENT_METADATA => "instrument risk metadata is unavailable"
  | INVALID_CONTRACT_SPEC => "instrument contract specification is invalid"
  | ZERO_OR_NEGATIVE_EQUITY => "account equity is zero or negative"
  | OVERFLOW => "numeric overflow in a risk calculation"
  | SESSION_NOT_ALLOWED => "the evaluation time is outside the allowed trading sessions"
  | RR_INVALID => "reward:risk could not be computed from the levels"
  | RR_BELOW_MINIMUM => "reward:risk is below the required minimum"
  | SPREAD_EXCEEDS_MAXIMUM => "spread exceeds the configured maximum"
  | SLIPPAGE_EXCEEDS_MAXIMUM => "slippage exceeds the configured maximum"
  | STRATEGY_RESTRICTION => "a strategy-specific risk restriction blocked this trade"
  | POSITION_SIZE_UNCOMPUTABLE => "position size could not be derived from the inputs"
  | POSITION_SIZE_BELOW_MINIMUM => "derived position size is below the instrument minimum"
  | POSITION_SIZE_EXCEEDS_MAXIMUM => "derived position size exceeds the platform or instrument maximum"
  | MONETARY_RISK_EXCEEDS_LIMIT => "monetary risk exceeds the permitted budget"
  | DAILY_LOSS_LIMIT => "the daily loss limit has been reached"
  | WEEKLY_LOSS_LIMIT => "the weekly loss limit has been reached"
  | CONSECUTIVE_LOSS_LIMIT => "the consecutive-loss limit has been reached"
  | SIMULTANEOUS_POSITION_LIMIT => "the simultaneous-position limit would be exceeded"
  | TOTAL_OPEN_RISK_LIMIT => "total open risk would exceed the policy limit"
  | INSTRUMENT_EXPOSURE_LIMIT => "instrument exposure would exceed the policy limit"
  | DIRECTION_EXPOSURE_LIMIT => "directional exposure would exceed the policy limit"
  | CORRELATION_METADATA_UNAVAILABLE => "correlation metadata is required but unavailable"
  | CORRELATION_EXPOSURE_LIMIT => "correlated-group exposure would exceed the policy limit"
  | OPEN_POSITION_RISK_UNCOMPUTABLE => "open-position risk could not be computed (fail-closed)"
  | DAILY_DRAWDOWN_WARNING => "daily drawdown warning threshold reached"
  | DAILY_DRAWDOWN_LIMIT => "daily drawdown hard-stop threshold reached — trading stopped"
  | WEEKLY_DRAWDOWN_WARNING => "weekly drawdown warning threshold reached"
  | WEEKLY_DRAWDOWN_LIMIT => "weekly drawdown hard-stop threshold reached — trading stopped"
  | MAX_DRAWDOWN_WARNING => "maximum drawdown warning threshold reached"
  | MAX_DRAWDOWN_LIMIT => "maximum drawdown hard-stop threshold reached — trading stopped"
  | EQUITY_DATA_UNAVAILABLE => "equity data is unavailable or inconsistent (fail-closed)"

/-- `orderedUnique`: the pinned codes that occur, each once. -/
def orderedUnique (codes : List RiskRejectionCode) : List RiskRejectionCode :=
  RISK_REJECTION_CODES.filter fun pinned => decide (pinned ∈ codes)

theorem mem_RISK_REJECTION_CODES (c : RiskRejectionCode) : c ∈ RISK_REJECTION_CODES := by
  cases c <;> decide

@[simp] theorem mem_orderedUnique {c : RiskRejectionCode} {codes : List RiskRejectionCode} :
    c ∈ orderedUnique codes ↔ c ∈ codes := by
  simp [orderedUnique, mem_RISK_REJECTION_CODES]

/-- `violations.push(code)` under a condition. -/
def pushIf (p : Prop) [Decidable p] (code : RiskRejectionCode) : List RiskRejectionCode :=
  if p then [code] else []

@[simp] theorem pushIf_eq_nil {p : Prop} [Decidable p] {code : RiskRejectionCode} :
    pushIf p code = [] ↔ ¬ p := by
  unfold pushIf
  split <;> simp_all

@[simp] theorem mem_pushIf {p : Prop} [Decidable p] {c code : RiskRejectionCode} :
    c ∈ pushIf p code ↔ p ∧ c = code := by
  unfold pushIf
  split <;> simp_all

/-! ## Trading sessions -/

inductive RiskSessionName where
  | asia
  | london
  | new_york
  | sydney
  deriving DecidableEq

inductive RiskSessionWindow where
  | named (name : RiskSessionName)
  | utc_hours (startHour endHour : ℤ)

/-- `SESSION_WINDOWS_UTC`; an end beyond 24 wraps midnight. -/
def SESSION_WINDOWS_UTC : RiskSessionName → ℤ × ℤ
  | .asia => (0, 9)
  | .london => (7, 16)
  | .new_york => (12, 21)
  | .sydney => (21, 30)

def hourInSession (hour : ℤ) (session : RiskSessionName) : Bool :=
  let (start, stop) := SESSION_WINDOWS_UTC session
  let h := (hour.tmod 24 + 24).tmod 24
  if stop ≤ 24 then start ≤ h ∧ h < stop else start ≤ h ∨ h < stop - 24

/-- The JavaScript `%` on finite numbers: the remainder takes the dividend's sign. -/
def jsRem (a b : ℚ) : ℚ := a - b * (if 0 ≤ a / b then ⌊a / b⌋ else ⌈a / b⌉ : ℤ)

def utcHourFromMs (ms : ℚ) : ℤ := ⌊jsRem (jsRem ms 86400000 + 86400000) 86400000 / 3600000⌋

/-- One window of `sessionAllows`. -/
def windowAllows (hour : ℤ) : RiskSessionWindow → Bool
  | .named name => hourInSession hour name
  | .utc_hours start stop =>
    if stop = start then false
    else if start < stop then start ≤ hour ∧ hour < stop
    else if stop = 24 then start ≤ hour
    else start ≤ hour ∨ hour < stop

def sessionAllows (windows : Option (List RiskSessionWindow)) (atMs : ℚ) : Bool :=
  match windows with
  | none => true
  | some ws => ws.any (windowAllows (utcHourFromMs atMs))

/-! ## Instruments -/

inductive InstrumentPnlMode where
  | quote_linear
  | base_linear
  deriving DecidableEq

structure InstrumentRiskSpec where
  contractSize : JsNumber
  pipSize : JsNumber
  pnlMode : InstrumentPnlMode
  minQuantity : JsNumber
  quantityStep : JsNumber
  maxQuantity : JsNumber
  deriving DecidableEq

end VeltrixEye
