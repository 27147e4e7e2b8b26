import VeltrixEye.Backtest.Engine

/-!
# Conditions and configurations (`contracts/conditions.ts`, `contracts/risk.ts`, `contracts/strategies.ts`)

Labels, descriptions and positions are not modelled.
-/

namespace VeltrixEye

/-- `CONDITION_CLASSIFICATIONS`. -/
inductive ConditionClassification where
  | required
  | optional
  | confirmation
  | disqualifying
  deriving DecidableEq

def MAX_CANDLES_PER_REQUEST : ℕ := 5000

/-! ## Parameters -/

/-- `bullish | bearish | either`. -/
inductive PatternDirection where
  | bullish
  | bearish
  | either
  deriving DecidableEq

/-- `bullish | bearish`. -/
inductive PatternKind where
  | bullish
  | bearish
  deriving DecidableEq

inductive SweepSide where
  | above
  | below
  deriving DecidableEq

inductive BlockValidation where
  | mitigation
  | break
  deriving DecidableEq

/-- Where a supply or demand zone is located from: `swing_high` for supply, `swing_low` for demand. -/
inductive ZoneSource where
  | swing
  | order_block
  | consolidation
  deriving DecidableEq

/-- `SESSION_NAMES`: the names the risk engine's sessions have too. -/
abbrev SessionName := RiskSessionName

inductive SessionMode where
  | include
  | exclude
  deriving DecidableEq

inductive SessionTimezone where
  | utc
  | exchange
  deriving DecidableEq

inductive VolatilityMetric where
  | atr
  | body_range
  deriving DecidableEq

inductive AlignmentSource where
  | trend
  | «structure»
  | bias
  deriving DecidableEq

/-- The parsed parameters of a condition.  The fields of `news_filter` and `spread_filter` are
    validated and then read by nothing. -/
inductive ConditionParams where
  | liquidity_sweep (side : SweepSide) (lookbackCandles : ℕ) (minWickRatio : ℚ)
  | choch (direction : PatternDirection) (lookbackCandles : ℕ) (requireDisplacement : Bool)
  | bos (direction : PatternDirection) (lookbackCandles : ℕ)
  | break_retest (direction : PatternDirection) (maxRetestCandles : ℕ) (retestTolerancePct : ℚ)
  | order_block (kind : PatternKind) (validation : BlockValidation) (maxAgeCandles : ℕ)
  | fvg (kind : PatternKind) (minGapSizePct : Option ℚ) (requireMitigation : Bool)
  | support (minTouches lookbackCandles : ℕ)
  | resistance (minTouches lookbackCandles : ℕ)
  | supply (source : ZoneSource) (minTouches : ℕ)
  | demand (source : ZoneSource) (minTouches : ℕ)
  | rejection_candle (direction : PatternKind) (minWickBodyRatio : ℚ)
  | engulfing_candle (direction : PatternDirection) (minBodyRatio : Option ℚ)
  | displacement (direction : PatternDirection) (atrPeriod : ℕ) (minAtrMultiple : ℚ)
  | rr_requirement (minRr : ℚ)
  | session_requirement (sessions : List SessionName) (mode : SessionMode)
      (timezone : SessionTimezone)
  | news_filter
  | volatility_filter (metric : VolatilityMetric) (period : ℕ) (min : ℚ) (max : Option ℚ)
  | spread_filter
  | htf_alignment (direction : PatternDirection) (source : AlignmentSource)
  deriving DecidableEq

/-- The keys of `CONDITION_TYPE_REGISTRY`. -/
inductive ConditionType where
  | liquidity_sweep
  | choch
  | bos
  | break_retest
  | order_block
  | fvg
  | support
  | resistance
  | supply
  | demand
  | rejection_candle
  | engulfing_candle
  | displacement
  | rr_requirement
  | session_requirement
  | news_filter
  | volatility_filter
  | spread_filter
  | htf_alignment
  deriving DecidableEq

def CONDITION_TYPE_REGISTRY : List (String × ConditionType) :=
  [("liquidity_sweep", .liquidity_sweep), ("choch", .choch), ("bos", .bos),
    ("break_retest", .break_retest), ("order_block", .order_block), ("fvg", .fvg),
    ("support", .support), ("resistance", .resistance), ("supply", .supply), ("demand", .demand),
    ("rejection_candle", .rejection_candle), ("engulfing_candle", .engulfing_candle),
    ("displacement", .displacement), ("rr_requirement", .rr_requirement),
    ("session_requirement", .session_requirement), ("news_filter", .news_filter),
    ("volatility_filter", .volatility_filter), ("spread_filter", .spread_filter),
    ("htf_alignment", .htf_alignment)]

def getConditionType (type : String) : Option ConditionType :=
  (CONDITION_TYPE_REGISTRY.find? (fun entry => entry.1 == type)).map (·.2)

/-! ## Parameter schemas -/

/-- A bounded `z.number()` with a default. -/
def ratField (ok : ℚ → Bool) (dflt : ℚ) : JsValue → Option ℚ
  | .undefined => some dflt
  | .number (.fin q) => if ok q then some q else none
  | _ => none

/-- A bounded `z.number()` without a default. -/
def requiredRatField (ok : ℚ → Bool) : JsValue → Option ℚ
  | .number (.fin q) => if ok q then some q else none
  | _ => none

/-- A bounded `z.number().optional()`. -/
def optionalRatField (ok : ℚ → Bool) : JsValue → Option (Option ℚ)
  | .undefined => some none
  | .number (.fin q) => if ok q then some (some q) else none
  | _ => none

/-- `z.boolean().default(dflt)`. -/
def boolField (dflt : Bool) : JsValue → Option Bool
  | .undefined => some dflt
  | .bool b => some b
  | _ => none

def sessionNames : List (String × SessionName) :=
  [("asia", .asia), ("london", .london), ("new_york", .new_york), ("sydney", .sydney)]

/-- One element of the `sessions` array. -/
def sessionField : JsValue → Option SessionName
  | .string s => (sessionNames.find? (fun v => v.1 == s)).map (·.2)
  | _ => none

/-- `z.array(z.enum(..)).min(1).default([all four])`. -/
def sessionsField : JsValue → Option (List SessionName)
  | .undefined => some [.asia, .london, .new_york, .sydney]
  | .array items => if items.isEmpty then none else items.mapM sessionField
  | _ => none

def directionValues : List (String × PatternDirection) :=
  [("bullish", .bullish), ("bearish", .bearish), ("either", .either)]

def kindValues : List (String × PatternKind) := [("bullish", .bullish), ("bearish", .bearish)]

/-- `0 < q ≤ max`. -/
def positiveUpTo (max q : ℚ) : Bool := 0 < q && q ≤ max

/-- `min ≤ q ≤ max`. -/
def between (min max q : ℚ) : Bool := min ≤ q && q ≤ max

/-- The schema of a type, given the fields of a strict object that has only its keys. -/
def paramFields (type : ConditionType) (get : String → JsValue) : Option ConditionParams := do
  match type with
  | .liquidity_sweep =>
    let side ← enumField .above [("above", .above), ("below", .below)] (get "side")
    let lookbackCandles ← natField 1 1000 100 (get "lookbackCandles")
    let minWickRatio ← ratField (between 0 1) (3 / 10) (get "minWickRatio")
    return .liquidity_sweep side lookbackCandles minWickRatio
  | .choch =>
    let direction ← enumField .either directionValues (get "direction")
    let lookbackCandles ← natField 1 5000 200 (get "lookbackCandles")
    let requireDisplacement ← boolField false (get "requireDisplacement")
    return .choch direction lookbackCandles requireDisplacement
  | .bos =>
    let direction ← enumField .either directionValues (get "direction")
    let lookbackCandles ← natField 1 5000 200 (get "lookbackCandles")
    return .bos direction lookbackCandles
  | .break_retest =>
    let direction ← enumField .either directionValues (get "direction")
    let maxRetestCandles ← natField 1 100 24 (get "maxRetestCandles")
    let retestTolerancePct ← ratField (positiveUpTo 10) (1 / 10) (get "retestTolerancePct")
    return .break_retest direction maxRetestCandles retestTolerancePct
  | .order_block =>
    let kind ← enumField .bullish kindValues (get "kind")
    let validation ← enumField .mitigation [("mitigation", .mitigation), ("break", .break)]
      (get "validation")
    let maxAgeCandles ← natField 1 500 100 (get "maxAgeCandles")
    return .order_block kind validation maxAgeCandles
  | .fvg =>
    let kind ← enumField .bullish kindValues (get "kind")
    let minGapSizePct ← optionalRatField (positiveUpTo 10) (get "minGapSizePct")
    let requireMitigation ← boolField true (get "requireMitigation")
    return .fvg kind minGapSizePct requireMitigation
  | .support =>
    let minTouches ← natField 2 50 2 (get "minTouches")
    let lookbackCandles ← natField 1 5000 500 (get "lookbackCandles")
    return .support minTouches lookbackCandles
  | .resistance =>
    let minTouches ← natField 2 50 2 (get "minTouches")
    let lookbackCandles ← natField 1 5000 500 (get "lookbackCandles")
    return .resistance minTouches lookbackCandles
  | .supply =>
    let source ← enumField .swing
      [("swing_high", .swing), ("order_block", .order_block), ("consolidation", .consolidation)]
      (get "source")
    let minTouches ← natField 1 50 1 (get "minTouches")
    return .supply source minTouches
  | .demand =>
    let source ← enumField .swing
      [("swing_low", .swing), ("order_block", .order_block), ("consolidation", .consolidation)]
      (get "source")
    let minTouches ← natField 1 50 1 (get "minTouches")
    return .demand source minTouches
  | .rejection_candle =>
    let direction ← enumField .bullish kindValues (get "direction")
    let minWickBodyRatio ← ratField (positiveUpTo 20) 2 (get "minWickBodyRatio")
    return .rejection_candle direction minWickBodyRatio
  | .engulfing_candle =>
    let direction ← enumField .either directionValues (get "direction")
    let minBodyRatio ← optionalRatField (between 0 10) (get "minBodyRatio")
    return .engulfing_candle direction minBodyRatio
  | .displacement =>
    let direction ← enumField .either directionValues (get "direction")
    let atrPeriod ← natField 2 100 14 (get "atrPeriod")
    let minAtrMultiple ← ratField (positiveUpTo 100) (3 / 2) (get "minAtrMultiple")
    return .displacement direction atrPeriod minAtrMultiple
  | .rr_requirement =>
    let minRr ← ratField (positiveUpTo 100) 2 (get "minRr")
    return .rr_requirement minRr
  | .session_requirement =>
    let sessions ← sessionsField (get "sessions")
    let mode ← enumField .include [("include", .include), ("exclude", .exclude)] (get "mode")
    let timezone ← enumField .exchange [("utc", .utc), ("exchange", .exchange)] (get "timezone")
    return .session_requirement sessions mode timezone
  | .news_filter =>
    let _ ← enumField () [("low", ()), ("medium", ()), ("high", ())] (get "maxImportance")
    let _ ← natField 0 720 30 (get "beforeMinutes")
    let _ ← natField 0 720 30 (get "afterMinutes")
    return .news_filter
  | .volatility_filter =>
    let metric ← enumField .atr [("atr", .atr), ("body_range", .body_range)] (get "metric")
    let period ← natField 2 200 14 (get "period")
    let min ← ratField (between 0 1000000) 0 (get "min")
    let max ← optionalRatField (fun q => 0 < q) (get "max")
    -- the schema's own refinement: `max` must be greater than `min`
    if max.any (fun q => q ≤ min) then none else
    return .volatility_filter metric period min max
  | .spread_filter =>
    let _ ← requiredRatField (fun q => 0 < q) (get "max")
    let _ ← enumField () [("pips", ()), ("pct", ())] (get "unit")
    return .spread_filter
  | .htf_alignment =>
    let direction ← enumField .either directionValues (get "direction")
    let source ← enumField .structure
      [("trend", .trend), ("structure", .structure), ("bias", .bias)] (get "source")
    return .htf_alignment direction source

/-- The keys a type's strict schema knows, apart from the anchor offset. -/
def ConditionType.keys : ConditionType → List String
  | .liquidity_sweep => ["side", "lookbackCandles", "minWickRatio"]
  | .choch => ["direction", "lookbackCandles", "requireDisplacement"]
  | .bos => ["direction", "lookbackCandles"]
  | .break_retest => ["direction", "maxRetestCandles", "retestTolerancePct"]
  | .order_block => ["kind", "validation", "maxAgeCandles"]
  | .fvg => ["kind", "minGapSizePct", "requireMitigation"]
  | .support => ["minTouches", "lookbackCandles"]
  | .resistance => ["minTouches", "lookbackCandles"]
  | .supply => ["source", "minTouches"]
  | .demand => ["source", "minTouches"]
  | .rejection_candle => ["direction", "minWickBodyRatio"]
  | .engulfing_candle => ["direction", "minBodyRatio"]
  | .displacement => ["direction", "atrPeriod", "minAtrMultiple"]
  | .rr_requirement => ["minRr"]
  | .session_requirement => ["sessions", "mode", "timezone"]
  | .news_filter => ["maxImportance", "beforeMinutes", "afterMinutes"]
  | .volatility_filter => ["metric", "period", "min", "max"]
  | .spread_filter => ["max", "unit"]
  | .htf_alignment => ["direction", "source"]

/-- `def.paramSchema.safeParse(params)`. -/
def paramSchema (type : ConditionType) (params : List (String × JsValue)) :
    Option ConditionParams := do
  let fields ← strictFields ("anchorOffsetCandles" :: type.keys) (.object params)
  let parsed ← paramFields type (JsValue.lookup fields)
  let _ ← natField 0 MAX_CANDLES_PER_REQUEST 0 (JsValue.lookup fields "anchorOffsetCandles")
  return parsed

def parseParams (type : String) (params : List (String × JsValue)) : Option ConditionParams :=
  (getConditionType type).bind (fun type => paramSchema type params)

/-- The offset of a stored condition's anchor; anything but a positive integer reads as `0`. -/
def anchorOffsetOf (params : List (String × JsValue)) : ℕ :=
  match JsValue.lookup params "anchorOffsetCandles" with
  | .number (.fin q) => if q.den = 1 ∧ 0 < q.num then q.num.toNat else 0
  | _ => 0

/-! ## Configurations -/

/-- `StrategyCondition`. -/
structure StoredCondition where
  conditionType : String
  classification : ConditionClassification
  timeframeRole : ConditionTimeframeRole
  params : List (String × JsValue)

/-- What the replay reads of a condition. -/
def StoredCondition.view (c : StoredCondition) : StrategyCondition :=
  ⟨c.conditionType, c.timeframeRole⟩

/-- The role whose candles the condition reads. -/
def StoredCondition.role (c : StoredCondition) : TimeframeRole := conditionRole c.view

inductive GroupLogic where
  | and
  | or

/-- `StrategyRuleGroup`. -/
structure RuleGroup where
  name : String
  logic : GroupLogic
  conditions : List StoredCondition

structure SessionFilter where
  session : SessionName
  mode : SessionMode
  timezone : SessionTimezone

inductive StopLossMethod where
  | «structure»
  | fixed
  | atr
  deriving DecidableEq

inductive BufferUnit where
  | pips
  | pct
  deriving DecidableEq

/-- `RiskConfiguration` in full. -/
structure VersionRisk where
  minRr : ℚ
  stopLossMethod : StopLossMethod
  stopLossBuffer : ℚ
  stopLossBufferUnit : BufferUnit
  takeProfitMethod : TakeProfitMethod
  tp1Rr : ℚ
  tp2Rr : ℚ
  tp3Rr : ℚ
  minQualityScore : ℕ
  deriving DecidableEq

def VersionRisk.view (risk : VersionRisk) : RiskConfiguration :=
  ⟨.fin risk.minRr, risk.takeProfitMethod, some (.fin risk.minQualityScore)⟩

inductive MarketScope where
  | instruments (instruments : List Instrument)
  | all

/-- `StrategyVersionConfig` in full; the version-level filters are reported and never enforced. -/
structure VersionConfig where
  timeframes : Option StrategyTimeframes
  marketScope : Option MarketScope
  sessionFilters : List SessionFilter
  risk : Option VersionRisk
  ruleGroups : List RuleGroup

/-- What the replay reads of a configuration. -/
def VersionConfig.view (config : VersionConfig) : StrategyVersionConfig where
  timeframes := config.timeframes
  risk := config.risk.map VersionRisk.view
  ruleGroups := config.ruleGroups.map (fun group => group.conditions.map StoredCondition.view)

/-- Every condition of every group. -/
def VersionConfig.conditions (config : VersionConfig) : List StoredCondition :=
  config.ruleGroups.flatMap RuleGroup.conditions

/-- The timeframe of a role. -/
def StrategyTimeframes.of (timeframes : StrategyTimeframes) : TimeframeRole → Timeframe
  | .htf_bias => timeframes.htf_bias
  | .setup => timeframes.setup
  | .entry => timeframes.entry

/-- The candles of a role. -/
def CandleSet.of (candles : CandleSet) : TimeframeRole → List CandleDto
  | .htf_bias => candles.htf_bias
  | .setup => candles.setup
  | .entry => candles.entry

end VeltrixEye
