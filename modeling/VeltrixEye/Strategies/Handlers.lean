import VeltrixEye.Strategies.Indicators

/-!
# Condition handlers (`strategies/evaluation/handlers.ts`)

One handler for each registered condition type.  A handler reads the closed candles of one role, its
parsed parameters, the direction, the risk configuration and the candidate levels, and returns a
status; the detail texts are not modelled.
-/

namespace VeltrixEye

/-- `EVALUATION_OUTCOME_STATUSES`. -/
inductive EvaluationOutcomeStatus where
  | satisfied
  | unsatisfied
  | insufficient_data
  | unsupported
  deriving DecidableEq

/-- `CandidateLevels` in full. -/
structure CandidateTrade where
  entryPrice : JsNumber
  stopLossPrice : JsNumber
  riskDistance : JsNumber
  tp1Price : Option JsNumber
  tp2Price : Option JsNumber
  tp3Price : Option JsNumber
  achievableRr : Option JsNumber
  deriving DecidableEq

/-- What the replay reads of a candidate. -/
def CandidateTrade.view (c : CandidateTrade) : CandidateLevels :=
  ⟨c.entryPrice, c.stopLossPrice, c.tp1Price, c.tp2Price, c.tp3Price⟩

/-- `HandlerContext` without the parsed parameters. -/
structure HandlerContext where
  candles : CandleSet
  timeframeRole : ConditionTimeframeRole
  direction : Direction
  risk : VersionRisk
  candidate : Option CandidateTrade

def MIN_CANDLES : ℕ := 5

def ZONE_WINDOW : ℕ := 200

def SD_WINDOW : ℕ := 300

def DISPLACEMENT_ATR_MULT : ℚ := 3 / 2

def roleCandles (ctx : HandlerContext) : List CandleDto :=
  match ctx.timeframeRole with
  | .any => ctx.candles.setup
  | .role r => ctx.candles.of r

/-- Does a parameter match the evaluated direction? -/
def dirMatches (param : PatternDirection) (direction : Direction) : Bool :=
  match param with
  | .either => true
  | .bullish => direction = .long
  | .bearish => direction = .short

/-- The direction a bullish or bearish pattern is a context for. -/
def PatternKind.wanted : PatternKind → Direction
  | .bullish => .long
  | .bearish => .short

/-- `condition ? ok(..) : no(..)`. -/
def verdict (holds : Bool) : EvaluationOutcomeStatus := if holds then .satisfied else .unsatisfied

/-! ## Structure -/

/-- The wick through the window's extreme, closed back inside. -/
def sweepOf (side : SweepSide) (minWickRatio : ℚ) (ref : List CandleDto) (anchor : CandleDto) :
    Bool :=
  let a := candleAnatomy anchor
  match side with
  | .above =>
    let refHigh := maxOf (ref.map (·.high))
    JsNumber.lt refHigh anchor.high && JsNumber.lt anchor.close refHigh &&
      JsNumber.le (.fin minWickRatio) (JsNumber.div a.upperWick a.range)
  | .below =>
    let refLow := minOf (ref.map (·.low))
    JsNumber.lt anchor.low refLow && JsNumber.lt refLow anchor.close &&
      JsNumber.le (.fin minWickRatio) (JsNumber.div a.lowerWick a.range)

def liquiditySweep (side : SweepSide) (lookbackCandles : ℕ) (minWickRatio : ℚ)
    (ctx : HandlerContext) : EvaluationOutcomeStatus :=
  let wanted : Direction := if side = .above then .short else .long
  if ctx.direction ≠ wanted then .unsatisfied
  else
    let candles := roleCandles ctx
    if candles.length < MIN_CANDLES + 1 then .insufficient_data
    else
      let window := sliceLast lookbackCandles candles
      match window.getLast? with
      | none => .insufficient_data
      | some anchor =>
        if JsNumber.le (candleAnatomy anchor).range 0 then .unsatisfied
        else verdict (sweepOf side minWickRatio window.dropLast anchor)

/-- `choch` or `bos`. -/
inductive PivotBreak where
  | choch
  | bos

/-- Whether the anchor closes through the last swing high: against the bias for `choch`, with it for
    `bos`. -/
def bullishBreak (kind : PivotBreak) (bias : StructureBias) (lastHigh : Option Pivot)
    (anchor : CandleDto) : Bool :=
  bias = (match kind with
    | .choch => .bearish
    | .bos => .bullish) &&
    lastHigh.any (fun h => JsNumber.lt h.price anchor.close)

def bearishBreak (kind : PivotBreak) (bias : StructureBias) (lastLow : Option Pivot)
    (anchor : CandleDto) : Bool :=
  bias = (match kind with
    | .choch => .bullish
    | .bos => .bearish) &&
    lastLow.any (fun l => JsNumber.lt anchor.close l.price)

def pivotBreakEvent (kind : PivotBreak) (direction : PatternDirection) (lookbackCandles : ℕ)
    (requireDisplacement : Bool) (ctx : HandlerContext) : EvaluationOutcomeStatus :=
  let candles := roleCandles ctx
  if candles.length < MIN_CANDLES + 1 then .insufficient_data
  else
    let window := sliceLast lookbackCandles candles
    let bias := structureBias window
    if bias = .range then .insufficient_data
    else
      match window.getLast? with
      | none => .insufficient_data
      | some anchor =>
        let bullishEvent := bullishBreak kind bias
          (pivotHighs window PIVOT_HALF_WIDTH).getLast? anchor
        let bearishEvent := bearishBreak kind bias
          (pivotLows window PIVOT_HALF_WIDTH).getLast? anchor
        let event := if ctx.direction = .long then bullishEvent else bearishEvent
        let decided := verdict (event && dirMatches direction ctx.direction)
        if requireDisplacement && (bullishEvent || bearishEvent) then
          match atrWilder window 14 with
          | none => .insufficient_data
          | some atr =>
            if isDisplacement anchor atr DISPLACEMENT_ATR_MULT
              (if bullishEvent then .bullish else .bearish) then decided
            else .unsatisfied
        else decided

def choch (direction : PatternDirection) (lookbackCandles : ℕ) (requireDisplacement : Bool) :
    HandlerContext → EvaluationOutcomeStatus :=
  pivotBreakEvent .choch direction lookbackCandles requireDisplacement

/-- `bos` has no `requireDisplacement` parameter. -/
def bos (direction : PatternDirection) (lookbackCandles : ℕ) :
    HandlerContext → EvaluationOutcomeStatus :=
  pivotBreakEvent .bos direction lookbackCandles false

/-- The first candle after `start` that closed through the level. -/
def breakIndex (window : List CandleDto) (direction : Direction) (level : JsNumber) (start : ℕ) :
    Option ℕ :=
  (List.range' start (window.length - start)).find? fun b =>
    window[b]?.any fun c =>
      match direction with
      | .long => JsNumber.lt level c.close
      | .short => JsNumber.lt c.close level

/-- Whether the broken level was retested within `maxRetestCandles` candles and held. -/
def retested (window : List CandleDto) (direction : Direction) (level tol : JsNumber)
    (breakIdx maxRetestCandles : ℕ) : Bool :=
  let retestEnd := min (window.length - 1) (breakIdx + maxRetestCandles)
  (List.range' (breakIdx + 1) (retestEnd - breakIdx)).any fun r =>
    window[r]?.any fun c =>
      match direction with
      | .long => JsNumber.le c.low (JsNumber.add level tol) && JsNumber.lt level c.close
      | .short => JsNumber.le (JsNumber.sub level tol) c.high && JsNumber.lt c.close level

/-- The verdict of one pivot, when its level was broken and is held at the anchor. -/
def pivotRetest (window : List CandleDto) (direction : Direction) (anchor : CandleDto)
    (maxRetestCandles : ℕ) (retestTolerancePct : ℚ) (pivot : Pivot) : Option Bool :=
  let level := pivot.price
  let beyond := match direction with
    | .long => JsNumber.le anchor.close level
    | .short => JsNumber.le level anchor.close
  if beyond then none
  else
    (breakIndex window direction level (pivot.index + 1)).map fun breakIdx =>
      retested window direction level (levelTolerance level retestTolerancePct) breakIdx
        maxRetestCandles

def breakRetest (direction : PatternDirection) (maxRetestCandles : ℕ) (retestTolerancePct : ℚ)
    (ctx : HandlerContext) : EvaluationOutcomeStatus :=
  if !dirMatches direction ctx.direction then .unsatisfied
  else
    let candles := roleCandles ctx
    if candles.length < MIN_CANDLES + 2 then .insufficient_data
    else
      let window := sliceLast (maxRetestCandles + 40) candles
      match window.getLast? with
      | none => .insufficient_data
      | some anchor =>
        let pivots := match ctx.direction with
          | .long => pivotHighs window PIVOT_HALF_WIDTH
          | .short => pivotLows window PIVOT_HALF_WIDTH
        -- the most recent pivot whose level was broken decides
        match pivots.reverse.findSome?
          (pivotRetest window ctx.direction anchor maxRetestCandles retestTolerancePct) with
        | none => .unsatisfied
        | some held => verdict held

/-! ## Zones and levels -/

def orderBlock (kind : PatternKind) (validation : BlockValidation) (maxAgeCandles : ℕ)
    (ctx : HandlerContext) : EvaluationOutcomeStatus :=
  if ctx.direction ≠ kind.wanted then .unsatisfied
  else
    let candles := roleCandles ctx
    if candles.length < MIN_CANDLES then .insufficient_data
    else
      let window := sliceLast maxAgeCandles candles
      match findOrderBlock window kind maxAgeCandles with
      | none => .unsatisfied
      | some zone =>
        match window.getLast? with
        | none => .insufficient_data
        | some anchor =>
          let beyond (c : CandleDto) : Bool := match kind with
            | .bullish => JsNumber.lt zone.top c.close
            | .bearish => JsNumber.lt c.close zone.bottom
          let later := window.drop (zone.index + 2)
          match validation with
          | .mitigation => verdict (later.any (tradedInto zone) && beyond anchor)
          | .break => verdict (later.any beyond)

def fvg (kind : PatternKind) (minGapSizePct : Option ℚ) (requireMitigation : Bool)
    (ctx : HandlerContext) : EvaluationOutcomeStatus :=
  if ctx.direction ≠ kind.wanted then .unsatisfied
  else
    let candles := roleCandles ctx
    if candles.length < 3 then .insufficient_data
    else
      let window := sliceLast ZONE_WINDOW candles
      match findFvg window kind minGapSizePct with
      | none => .unsatisfied
      | some zone =>
        let mitigated := (window.drop (zone.index + 1)).any (tradedInto zone)
        if requireMitigation && !mitigated then .unsatisfied
        else
          match window.getLast? with
          | none => .insufficient_data
          | some anchor =>
            verdict (match kind with
              | .bullish => JsNumber.lt zone.bottom anchor.close
              | .bearish => JsNumber.lt anchor.close zone.top)

def support (minTouches lookbackCandles : ℕ) (ctx : HandlerContext) : EvaluationOutcomeStatus :=
  if ctx.direction ≠ .long then .unsatisfied
  else
    let candles := roleCandles ctx
    if candles.length < MIN_CANDLES + 5 then .insufficient_data
    else
      let window := sliceLast lookbackCandles candles
      match window.getLast? with
      | none => .insufficient_data
      | some anchor =>
        let level := minOf (window.map (·.low))
        let tol := levelTolerance level LEVEL_TOLERANCE_PCT
        verdict (minTouches ≤ countTouches window level .low &&
          JsNumber.le anchor.low (JsNumber.add level tol) && JsNumber.lt level anchor.close)

def resistance (minTouches lookbackCandles : ℕ) (ctx : HandlerContext) : EvaluationOutcomeStatus :=
  if ctx.direction ≠ .short then .unsatisfied
  else
    let candles := roleCandles ctx
    if candles.length < MIN_CANDLES + 5 then .insufficient_data
    else
      let window := sliceLast lookbackCandles candles
      match window.getLast? with
      | none => .insufficient_data
      | some anchor =>
        let level := maxOf (window.map (·.high))
        let tol := levelTolerance level LEVEL_TOLERANCE_PCT
        verdict (minTouches ≤ countTouches window level .high &&
          JsNumber.le (JsNumber.sub level tol) anchor.high && JsNumber.lt anchor.close level)

/-- The zone window of a supply or demand condition and its anchor. -/
def supplyIn (source : ZoneSource) (minTouches : ℕ) (window : List CandleDto) (anchor : CandleDto) :
    EvaluationOutcomeStatus :=
  match source with
  | .swing =>
    match lastPivotHighAbove window anchor.close with
    | none => .unsatisfied
    | some level =>
      let tol := levelTolerance level.price LEVEL_TOLERANCE_PCT
      verdict (minTouches ≤ countTouches window level.price .high &&
        JsNumber.le (JsNumber.sub level.price tol) anchor.high &&
        JsNumber.lt anchor.close level.price)
  | .order_block =>
    match findOrderBlock window .bearish SD_WINDOW with
    | none => .unsatisfied
    | some zone =>
      if JsNumber.le zone.top anchor.close then .unsatisfied
      else verdict (JsNumber.le zone.bottom anchor.high)
  | .consolidation =>
    match atrWilder (sliceLast 50 window) 14 with
    | none => .insufficient_data
    | some atr =>
      match ((consolidations window atr).filter
        (fun r => JsNumber.lt anchor.close r.bottom)).getLast? with
      | none => .unsatisfied
      | some overhead => verdict (JsNumber.le overhead.bottom anchor.high)

def demandIn (source : ZoneSource) (minTouches : ℕ) (window : List CandleDto) (anchor : CandleDto) :
    EvaluationOutcomeStatus :=
  match source with
  | .swing =>
    match lastPivotLowBelow window anchor.close with
    | none => .unsatisfied
    | some level =>
      let tol := levelTolerance level.price LEVEL_TOLERANCE_PCT
      verdict (minTouches ≤ countTouches window level.price .low &&
        JsNumber.le anchor.low (JsNumber.add level.price tol) &&
        JsNumber.lt level.price anchor.close)
  | .order_block =>
    match findOrderBlock window .bullish SD_WINDOW with
    | none => .unsatisfied
    | some zone =>
      if JsNumber.le anchor.close zone.bottom then .unsatisfied
      else verdict (JsNumber.le anchor.low zone.top)
  | .consolidation =>
    match atrWilder (sliceLast 50 window) 14 with
    | none => .insufficient_data
    | some atr =>
      match ((consolidations window atr).filter
        (fun r => JsNumber.lt r.top anchor.close)).getLast? with
      | none => .unsatisfied
      | some underneath => verdict (JsNumber.le anchor.low underneath.top)

def supply (source : ZoneSource) (minTouches : ℕ) (ctx : HandlerContext) :
    EvaluationOutcomeStatus :=
  if ctx.direction ≠ .short then .unsatisfied
  else
    let candles := roleCandles ctx
    if candles.length < MIN_CANDLES + 5 then .insufficient_data
    else
      let window := sliceLast SD_WINDOW candles
      match window.getLast? with
      | none => .insufficient_data
      | some anchor => supplyIn source minTouches window anchor

def demand (source : ZoneSource) (minTouches : ℕ) (ctx : HandlerContext) :
    EvaluationOutcomeStatus :=
  if ctx.direction ≠ .long then .unsatisfied
  else
    let candles := roleCandles ctx
    if candles.length < MIN_CANDLES + 5 then .insufficient_data
    else
      let window := sliceLast SD_WINDOW candles
      match window.getLast? with
      | none => .insufficient_data
      | some anchor => demandIn source minTouches window anchor

/-! ## Candle patterns -/

def rejectionCandle (direction : PatternKind) (minWickBodyRatio : ℚ) (ctx : HandlerContext) :
    EvaluationOutcomeStatus :=
  match (roleCandles ctx).getLast? with
  | none => .insufficient_data
  | some anchor =>
    if ctx.direction ≠ direction.wanted then .unsatisfied
    else
      let a := candleAnatomy anchor
      let denom := JsNumber.max a.body (JsNumber.mul a.range (.fin (1 / 10 ^ 9)))
      let wick := match direction with
        | .bullish => a.lowerWick
        | .bearish => a.upperWick
      verdict (JsNumber.le (.fin minWickBodyRatio) (JsNumber.div wick denom))

def engulfingCandle (direction : PatternDirection) (minBodyRatio : Option ℚ)
    (ctx : HandlerContext) : EvaluationOutcomeStatus :=
  match (roleCandles ctx).reverse with
  | anchor :: prev :: _ =>
    let event := match ctx.direction with
      | .long => isEngulfing prev anchor .bullish minBodyRatio
      | .short => isEngulfing prev anchor .bearish minBodyRatio
    verdict (event && dirMatches direction ctx.direction)
  | _ => .insufficient_data

/-- Whether the last candle is a displacement against the average true range of all of them. -/
def displaced (direction : PatternDirection) (atrPeriod : ℕ) (minAtrMultiple : ℚ)
    (candles : List CandleDto) : Option Bool := do
  let atr ← atrWilder candles atrPeriod
  let anchor ← candles.getLast?
  return isDisplacement anchor atr minAtrMultiple direction

def displacement (direction : PatternDirection) (atrPeriod : ℕ) (minAtrMultiple : ℚ)
    (ctx : HandlerContext) : EvaluationOutcomeStatus :=
  match displaced direction atrPeriod minAtrMultiple (roleCandles ctx) with
  | none => .insufficient_data
  | some event => verdict (event && dirMatches direction ctx.direction)

/-! ## Risk, time and market filters -/

def rrRequirement (minRr : ℚ) (ctx : HandlerContext) : EvaluationOutcomeStatus :=
  match ctx.candidate with
  | none => .insufficient_data
  | some c =>
    match ctx.risk.takeProfitMethod with
    | .rr => verdict (minRr ≤ ctx.risk.tp3Rr)
    | .structure =>
      match c.achievableRr with
      | none => .insufficient_data
      | some achievableRr => verdict (JsNumber.le (.fin minRr) achievableRr)
    | .manual => .unsupported

def sessionRequirement (sessions : List SessionName) (mode : SessionMode)
    (timezone : SessionTimezone) (ctx : HandlerContext) : EvaluationOutcomeStatus :=
  if timezone = .exchange then .unsupported
  else
    match (roleCandles ctx).getLast? with
    | none => .insufficient_data
    | some anchor =>
      let inAny := sessions.any (timeInSession anchor.time)
      verdict (if mode = .include then inAny else !inAny)

/-- There is no news calendar. -/
def newsFilter : EvaluationOutcomeStatus := .insufficient_data

/-- There is no spread feed. -/
def spreadFilter : EvaluationOutcomeStatus := .insufficient_data

/-- `value >= min && (max === undefined || value <= max)`. -/
def withinBand (value : JsNumber) (min : ℚ) (max : Option ℚ) : Bool :=
  JsNumber.le (.fin min) value && max.all (fun m => JsNumber.le value (.fin m))

/-- The metric of the volatility filter. -/
def volatilityOf (metric : VolatilityMetric) (period : ℕ) (candles : List CandleDto) :
    Option JsNumber :=
  match metric with
  | .atr => atrWilder candles period
  | .body_range =>
    if candles.length < period then none
    else
      let slice := sliceLast period candles
      some (JsNumber.div
        (slice.foldl (fun s c => JsNumber.add s (JsNumber.abs (JsNumber.sub c.close c.open))) 0)
        (.fin slice.length))

def volatilityFilter (metric : VolatilityMetric) (period : ℕ) (min : ℚ) (max : Option ℚ)
    (ctx : HandlerContext) : EvaluationOutcomeStatus :=
  match volatilityOf metric period (roleCandles ctx) with
  | none => .insufficient_data
  | some value => verdict (withinBand value min max)

/-- The role `any` means the bias role for `htf_alignment`. -/
def alignmentCandles (ctx : HandlerContext) : List CandleDto :=
  match ctx.timeframeRole with
  | .any => ctx.candles.htf_bias
  | .role _ => roleCandles ctx

def htfAlignment (direction : PatternDirection) (source : AlignmentSource) (ctx : HandlerContext) :
    EvaluationOutcomeStatus :=
  if !dirMatches direction ctx.direction then .unsatisfied
  else
    let window := sliceLast 100 (alignmentCandles ctx)
    match window.getLast? with
    | none => .insufficient_data
    | some anchor =>
      match source with
      | .trend =>
        match sma (window.map (·.close)) 20 with
        | none => .insufficient_data
        | some mean =>
          verdict (if ctx.direction = .long then JsNumber.lt mean anchor.close
            else JsNumber.lt anchor.close mean)
      | _ =>
        let bias := structureBias window
        if bias = .range then .insufficient_data
        else verdict (bias = (if ctx.direction = .long then .bullish else .bearish))

/-- `CONDITION_HANDLERS`. -/
def conditionHandler : ConditionParams → HandlerContext → EvaluationOutcomeStatus
  | .liquidity_sweep side lookbackCandles minWickRatio =>
    liquiditySweep side lookbackCandles minWickRatio
  | .choch direction lookbackCandles requireDisplacement =>
    choch direction lookbackCandles requireDisplacement
  | .bos direction lookbackCandles => bos direction lookbackCandles
  | .break_retest direction maxRetestCandles retestTolerancePct =>
    breakRetest direction maxRetestCandles retestTolerancePct
  | .order_block kind validation maxAgeCandles => orderBlock kind validation maxAgeCandles
  | .fvg kind minGapSizePct requireMitigation => fvg kind minGapSizePct requireMitigation
  | .support minTouches lookbackCandles => support minTouches lookbackCandles
  | .resistance minTouches lookbackCandles => resistance minTouches lookbackCandles
  | .supply source minTouches => supply source minTouches
  | .demand source minTouches => demand source minTouches
  | .rejection_candle direction minWickBodyRatio => rejectionCandle direction minWickBodyRatio
  | .engulfing_candle direction minBodyRatio => engulfingCandle direction minBodyRatio
  | .displacement direction atrPeriod minAtrMultiple =>
    displacement direction atrPeriod minAtrMultiple
  | .rr_requirement minRr => rrRequirement minRr
  | .session_requirement sessions mode timezone => sessionRequirement sessions mode timezone
  | .news_filter => fun _ => newsFilter
  | .volatility_filter metric period min max => volatilityFilter metric period min max
  | .spread_filter => fun _ => spreadFilter
  | .htf_alignment direction source => htfAlignment direction source

end VeltrixEye
