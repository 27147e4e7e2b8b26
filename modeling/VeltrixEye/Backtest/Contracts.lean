import VeltrixEye.JsValue
import VeltrixEye.Execution.PaperMarket

/-!
# The backtest contract (`contracts/backtest.ts`, `contracts/timeframes.ts`)

Candles, the exit and cost policies with the parsing of their unparsed inputs, the simulated trade
and the run metrics.
-/

namespace VeltrixEye

def MAX_BACKTEST_STEPS : ℕ := 4500

def DEFAULT_MAX_HOLD_CANDLES : ℕ := 100

/-- `CANONICAL_MINUTES`. -/
def timeframeMinutes : Timeframe → ℤ
  | .m1 => 1
  | .m3 => 3
  | .m5 => 5
  | .m15 => 15
  | .m30 => 30
  | .h1 => 60
  | .h2 => 120
  | .h4 => 240
  | .h8 => 480
  | .h12 => 720
  | .d1 => 1440
  | .d3 => 4320
  | .w1 => 10080
  | .mo1 => 43200

/-- `CandleDto`: the open time in epoch milliseconds and the prices. -/
structure CandleDto where
  time : ℤ
  «open» : JsNumber
  high : JsNumber
  low : JsNumber
  close : JsNumber
  volume : Option JsNumber
  deriving DecidableEq

/-- `BacktestCandleSet`, `EvaluationCandleSet`. -/
structure CandleSet where
  htf_bias : List CandleDto
  setup : List CandleDto
  entry : List CandleDto

/-! ## Policies -/

inductive StopLossPolicy where
  | level
  | none
  deriving DecidableEq

inductive TakeProfitPolicy where
  | tp1
  | tp2
  | tp3
  | none
  deriving DecidableEq

/-- `BacktestExitPolicy`; `sameCandleRule` and `entryTiming` have one value each. -/
structure BacktestExitPolicy where
  stopLoss : StopLossPolicy
  takeProfit : TakeProfitPolicy
  maxHoldCandles : ℕ
  deriving DecidableEq

/-- `BacktestCostPolicy`, in pips. -/
structure BacktestCostPolicy where
  feePerSide : ℚ
  slippagePerSide : ℚ
  spread : ℚ
  riskPerTrade : Option ℚ
  deriving DecidableEq

/-- An enumerated field with a default. -/
def enumField {α : Type} (dflt : α) (values : List (String × α)) : JsValue → Option α
  | .undefined => some dflt
  | .string s => (values.find? (fun v => v.1 == s)).map (·.2)
  | _ => none

/-- `z.number().int().min(lo).max(hi).default(dflt)`. -/
def natField (lo hi dflt : ℕ) : JsValue → Option ℕ
  | .undefined => some dflt
  | .number (.fin q) =>
    if q.den = 1 ∧ (lo : ℤ) ≤ q.num ∧ q.num ≤ hi then some q.num.toNat else none
  | _ => none

/-- `z.number().min(0).finite().default(0)`. -/
def costField : JsValue → Option ℚ
  | .undefined => some 0
  | .number (.fin q) => if 0 ≤ q then some q else none
  | _ => none

/-- `z.number().positive().finite().max(1e12).optional()`. -/
def riskPerTradeField : JsValue → Option (Option ℚ)
  | .undefined => some none
  | .number (.fin q) => if 0 < q ∧ q ≤ 10 ^ 12 then some (some q) else none
  | _ => none

/-- A strict object's fields, when it has no other key. -/
def strictFields (known : List String) : JsValue → Option (List (String × JsValue))
  | .object fields => if (JsValue.keys fields).all known.contains then some fields else none
  | _ => none

/-- `backtestExitPolicySchema.safeParse(policy ?? {})`. -/
def parseExitPolicy (policy : JsValue) : Option BacktestExitPolicy := do
  let fields ← strictFields
    ["stopLoss", "takeProfit", "maxHoldCandles", "sameCandleRule", "entryTiming"]
    policy.orEmptyObject
  let stopLoss ← enumField .level [("level", .level), ("none", .none)]
    (JsValue.lookup fields "stopLoss")
  let takeProfit ← enumField .tp3
    [("tp1", .tp1), ("tp2", .tp2), ("tp3", .tp3), ("none", .none)]
    (JsValue.lookup fields "takeProfit")
  let maxHoldCandles ← natField 1 5000 DEFAULT_MAX_HOLD_CANDLES
    (JsValue.lookup fields "maxHoldCandles")
  let _ ← enumField () [("stop_first", ())] (JsValue.lookup fields "sameCandleRule")
  let _ ← enumField () [("signal_close", ())] (JsValue.lookup fields "entryTiming")
  return ⟨stopLoss, takeProfit, maxHoldCandles⟩

/-- `backtestCostPolicySchema.safeParse(policy ?? {})`. -/
def parseCostPolicy (policy : JsValue) : Option BacktestCostPolicy := do
  let fields ← strictFields ["feePerSide", "slippagePerSide", "spread", "riskPerTrade"]
    policy.orEmptyObject
  let feePerSide ← costField (JsValue.lookup fields "feePerSide")
  let slippagePerSide ← costField (JsValue.lookup fields "slippagePerSide")
  let spread ← costField (JsValue.lookup fields "spread")
  let riskPerTrade ← riskPerTradeField (JsValue.lookup fields "riskPerTrade")
  return ⟨feePerSide, slippagePerSide, spread, riskPerTrade⟩

/-! ## Results -/

/-- `BACKTEST_EXIT_REASONS`. -/
inductive BacktestExitReason where
  | stop_loss
  | take_profit_1
  | take_profit_2
  | take_profit_3
  | max_hold
  | range_end
  | no_levels
  deriving DecidableEq

/-- `SetupQualityScore`: the total and the grade. -/
structure SetupQualityScore where
  total : JsNumber
  grade : String

structure BacktestTrade where
  seq : ℕ
  direction : Direction
  signalAsOfMs : ℤ
  entryPrice : Option JsNumber
  stopLossPrice : Option JsNumber
  tp1Price : Option JsNumber
  tp2Price : Option JsNumber
  tp3Price : Option JsNumber
  qualityScore : JsNumber
  qualityGrade : String
  exitReason : BacktestExitReason
  exitPrice : Option JsNumber
  exitAsOfMs : Option ℤ
  pnlR : Option JsNumber
  pnlCurrency : Option JsNumber
  deriving DecidableEq

structure BacktestMetrics where
  stepsEvaluated : ℕ
  setupsDetected : ℕ
  tradesClosed : ℕ
  wins : ℕ
  losses : ℕ
  winRate : Option JsNumber
  expectancyR : Option JsNumber
  profitFactor : Option JsNumber
  maxDrawdownR : Option JsNumber
  avgWinR : Option JsNumber
  avgLossR : Option JsNumber
  totalR : JsNumber
  totalCurrency : Option JsNumber
  deriving DecidableEq

end VeltrixEye
