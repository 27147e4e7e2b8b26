import VeltrixEye.Lib.Numerals
import VeltrixEye.Lib.Series
import VeltrixEye.Backtest.Contracts

/-!
# The backtest replay engine (`backtest/engine.ts`, `setups/levels.ts`)

`runBacktest` replays the setup-timeframe closes in `[fromMs, toMs)` in ascending order.  At each
anchor three prefix pointers are advanced over the prepared candle series, the evaluation engine and
the scorer are called on the prefixes, and every passing direction becomes a simulated trade whose
exit is scanned candle by candle.

The evaluation engine and the scorer are parameters (`BacktestFunctions`): arbitrary, possibly
throwing functions of what they are passed.  The run's notes are not modelled.
-/

namespace VeltrixEye

/-! ## Levels -/

structure CandidateLevels where
  entryPrice : JsNumber
  stopLossPrice : JsNumber
  tp1Price : Option JsNumber
  tp2Price : Option JsNumber
  tp3Price : Option JsNumber

structure DetectionLevels where
  entryPrice : JsNumber
  stopLossPrice : Option JsNumber
  tp1Price : Option JsNumber
  tp2Price : Option JsNumber
  tp3Price : Option JsNumber

open Numerals in
def mirrorPrice (entryPrice price : JsNumber) : JsNumber :=
  JsNumber.sub (JsNumber.mul 2 entryPrice) price

/-- A long leg is kept when it is positive. -/
def positiveLeg (price : JsNumber) : Option JsNumber :=
  if JsNumber.lt 0 price then some price else none

/-- A short target: kept below the entry, else mirrored; dropped unless positive and below. -/
def mirrorTarget (entry tp : JsNumber) : Option JsNumber :=
  let oriented := if JsNumber.lt tp entry then tp else mirrorPrice entry tp
  if JsNumber.lt 0 oriented && JsNumber.lt oriented entry then some oriented else none

def detectionLevels (candidate : Option CandidateLevels) (direction : Direction) :
    Option DetectionLevels :=
  match candidate with
  | none => none
  | some c =>
    if !JsNumber.lt 0 c.entryPrice then none
    else
      match direction with
      | .long => some
          { entryPrice := c.entryPrice
            stopLossPrice := positiveLeg c.stopLossPrice
            tp1Price := c.tp1Price.bind positiveLeg
            tp2Price := c.tp2Price.bind positiveLeg
            tp3Price := c.tp3Price.bind positiveLeg }
      | .short =>
        let stop :=
          if JsNumber.lt c.entryPrice c.stopLossPrice then c.stopLossPrice
          else mirrorPrice c.entryPrice c.stopLossPrice
        some
          { entryPrice := c.entryPrice
            stopLossPrice := if JsNumber.lt c.entryPrice stop then some stop else none
            tp1Price := c.tp1Price.bind (mirrorTarget c.entryPrice)
            tp2Price := c.tp2Price.bind (mirrorTarget c.entryPrice)
            tp3Price := c.tp3Price.bind (mirrorTarget c.entryPrice) }

/-! ## Inputs -/

inductive TimeframeRole where
  | htf_bias
  | setup
  | entry
  deriving DecidableEq

/-- `ConditionTimeframeRole`: a role, or `any`. -/
inductive ConditionTimeframeRole where
  | role (r : TimeframeRole)
  | any
  deriving DecidableEq

/-- What the replay reads of a strategy condition. -/
structure StrategyCondition where
  conditionType : String
  timeframeRole : ConditionTimeframeRole

def conditionRole (condition : StrategyCondition) : TimeframeRole :=
  match condition.timeframeRole with
  | .any => if condition.conditionType = "htf_alignment" then .htf_bias else .setup
  | .role r => r

structure StrategyTimeframes where
  htf_bias : Timeframe
  setup : Timeframe
  entry : Timeframe

inductive TakeProfitMethod where
  | rr
  | «structure»
  | manual
  deriving DecidableEq

/-- What the replay reads of `config.risk`. -/
structure RiskConfiguration where
  minRr : JsNumber
  takeProfitMethod : TakeProfitMethod
  minQualityScore : Option JsNumber

/-- What the replay reads of a published configuration; `ruleGroups` holds each group's
    conditions. -/
structure StrategyVersionConfig where
  timeframes : Option StrategyTimeframes
  risk : Option RiskConfiguration
  ruleGroups : List (List StrategyCondition)

structure Instrument where
  assetClass : String
  symbol : String
  deriving DecidableEq

inductive BacktestDirection where
  | long
  | short
  | both
  deriving DecidableEq

def BacktestDirection.directions : BacktestDirection → List Direction
  | both => [.long, .short]
  | long => [.long]
  | short => [.short]

/-- `BacktestEngineInput`; the two policies are unparsed. -/
structure BacktestEngineInput where
  config : StrategyVersionConfig
  instrument : Instrument
  pipSize : Option JsNumber
  candles : CandleSet
  fromMs : JsNumber
  toMs : JsNumber
  direction : BacktestDirection
  exitPolicy : JsValue
  costPolicy : JsValue

/-- The refusals of `runBacktest`. -/
inductive BacktestError where
  | invalidExitPolicy
  | invalidCostPolicy
  | pipSizeInvalid
  | pipSizeRequired
  | timeframesRequired
  | riskRequired
  | boundsNotPositiveIntegers
  | boundsReversed
  /-- `assertRoleCoverage`: the version reads the role and no candle was loaded. -/
  | roleMissing (role : TimeframeRole)
  /-- `assertRoleCoverage`: the series ends at `closeMs`, before the anchor. -/
  | roleStale (role : TimeframeRole) (closeMs anchor : ℤ)
  /-- Thrown by the evaluation engine or the scorer. -/
  | thrown (message : String)
  deriving DecidableEq

/-- `DirectionEvaluation`: what the replay reads, and the rest the scorer is given. -/
structure DirectionEvaluation (X : Type) where
  passed : Bool
  candidate : Option CandidateLevels
  outcomes : X

structure EvaluationEngineInput where
  config : StrategyVersionConfig
  instrument : Instrument
  pipSize : Option JsNumber
  candles : CandleSet
  asOfMs : ℤ

structure EvaluationEngineResult (X : Type) where
  long : DirectionEvaluation X
  short : DirectionEvaluation X

/-- `direction === 'long' ? result.long : result.short`. -/
def EvaluationEngineResult.of {X : Type} (result : EvaluationEngineResult X) :
    Direction → DirectionEvaluation X
  | .long => result.long
  | .short => result.short

structure M5ScoringContext (X : Type) where
  evaluation : DirectionEvaluation X
  minRr : JsNumber
  takeProfitMethod : TakeProfitMethod
  asOfMs : ℤ

/-- The evaluation engine and the scorer. -/
structure BacktestFunctions (X : Type) where
  evaluate : EvaluationEngineInput → Except BacktestError (EvaluationEngineResult X)
  scoreSetupQuality : M5ScoringContext X → Except BacktestError SetupQualityScore

/-! ## Series and prefixes -/

/-- Ascending by time; on duplicate timestamps the last candle wins. -/
def prepareSeries (candles : List CandleDto) : List CandleDto := Series.ofEntries CandleDto.time candles

/-- Setup closes in `[fromMs, toMs)`, ascending. -/
def anchorsInRange (setup : List CandleDto) (setupPeriodMs fromMs toMs : ℤ) : List ℤ :=
  (setup.map (fun c => c.time + setupPeriodMs)).filter (fun close => fromMs ≤ close ∧ close < toMs)

/-- Advance a prefix pointer while candles are closed at the anchor. -/
def advancePrefix (candles : List CandleDto) (periodMs anchor : ℤ) (start : ℕ) : ℕ :=
  start + ((candles.drop start).takeWhile (fun c => c.time + periodMs ≤ anchor)).length

/-- Whether the version reads a role. -/
def requiredCoverage (config : StrategyVersionConfig) (role : TimeframeRole) : Bool :=
  config.ruleGroups.any (fun group => group.any (fun c => conditionRole c = role))

def assertRoleCoverage (role : TimeframeRole) (series : List CandleDto) (periodMs anchor : ℤ)
    («end» : ℕ) (required : Bool) : Except BacktestError Unit :=
  if !required then .ok ()
  else
    match series.getLast? with
    | none => .error (.roleMissing role)
    | some last =>
      if «end» = series.length ∧ last.time + periodMs < anchor then
        .error (.roleStale role (last.time + periodMs) anchor)
      else .ok ()

/-! ## Costs -/

/-- Total modelled cost of one trade, in pips. -/
def totalCostPips (costPolicy : BacktestCostPolicy) : ℚ :=
  2 * (costPolicy.feePerSide + costPolicy.slippagePerSide) + costPolicy.spread

def validPipSize (pipSize : JsNumber) : Bool := pipSize.isFinite && JsNumber.lt 0 pipSize

def resolvePipSize (pipSize : Option JsNumber) (costPolicy : BacktestCostPolicy) :
    Except BacktestError (Option JsNumber) :=
  match pipSize with
  | some p =>
    if !validPipSize p then .error .pipSizeInvalid else .ok (some p)
  | none => if totalCostPips costPolicy = 0 then .ok none else .error .pipSizeRequired

/-- Round to 4 decimals (R values). -/
def round4 (value : JsNumber) : JsNumber :=
  JsNumber.div (JsNumber.round (JsNumber.mul value 10000)) 10000

/-- Round to 2 decimals (currency values). -/
def round2 (value : JsNumber) : JsNumber :=
  JsNumber.div (JsNumber.round (JsNumber.mul value 100)) 100

/-! ## One trade -/

/-- `selectTarget`: the take-profit leg that exits the trade. -/
def selectTarget (exitPolicy : BacktestExitPolicy) (levels : DetectionLevels)
    (takeProfitMethod : TakeProfitMethod) : Option (JsNumber × BacktestExitReason) :=
  match exitPolicy.takeProfit with
  | .tp1 => levels.tp1Price.map (fun price => (price, .take_profit_1))
  | .tp2 => levels.tp2Price.map (fun price => (price, .take_profit_2))
  | .tp3 =>
    match levels.tp3Price with
    | some price => some (price, .take_profit_3)
    | none =>
      if takeProfitMethod = .structure then
        levels.tp1Price.map (fun price => (price, .take_profit_1))
      else none
  | .none => none

def isStopTouched (direction : Direction) (candle : CandleDto) (stop : JsNumber) : Bool :=
  match direction with
  | .long => JsNumber.le candle.low stop
  | .short => JsNumber.le stop candle.high

def isTargetTouched (direction : Direction) (candle : CandleDto) (target : JsNumber) : Bool :=
  match direction with
  | .long => JsNumber.le target candle.high
  | .short => JsNumber.le candle.low target

/-- How a trade ended. -/
structure TradeExit where
  reason : BacktestExitReason
  price : JsNumber
  asOfMs : ℤ

/-- What the exit scan reads besides the candles. -/
structure ExitScan where
  direction : Direction
  stop : JsNumber
  target : Option (JsNumber × BacktestExitReason)
  exitPolicy : BacktestExitPolicy
  setupPeriodMs : ℤ
  toMs : ℤ

/-- The exit a single candle forces after `held` earlier candles: the stop first, then the target,
    then the hold limit. -/
def ExitScan.exitAt (scan : ExitScan) (held : ℕ) (c : CandleDto) : Option TradeExit :=
  let closeMs := c.time + scan.setupPeriodMs
  let slTouched := scan.exitPolicy.stopLoss = .level ∧ isStopTouched scan.direction c scan.stop
  if slTouched then some ⟨.stop_loss, scan.stop, closeMs⟩
  else
    match scan.target.filter (fun target => isTargetTouched scan.direction c target.1) with
    | some (price, reason) => some ⟨reason, price, closeMs⟩
    | none =>
      if held + 1 = scan.exitPolicy.maxHoldCandles then some ⟨.max_hold, c.close, closeMs⟩ else none

/-- The exit scan over the candles after the signal; `last` is the exit if the range ends here. -/
def ExitScan.run (scan : ExitScan) : List CandleDto → ℕ → TradeExit → TradeExit
  | [], _, last => last
  | c :: cs, held, last =>
    if scan.toMs < c.time + scan.setupPeriodMs then last
    else
      match scan.exitAt held c with
      | some exit => exit
      | none => scan.run cs (held + 1) ⟨.range_end, c.close, c.time + scan.setupPeriodMs⟩

structure TradeSimulationInput where
  seq : ℕ
  direction : Direction
  anchor : ℤ
  /-- The full prepared setup series and the prefix end at the anchor. -/
  setup : List CandleDto
  setupEnd : ℕ
  setupPeriodMs : ℤ
  toMs : ℤ
  candidate : Option CandidateLevels
  score : SetupQualityScore
  takeProfitMethod : TakeProfitMethod
  exitPolicy : BacktestExitPolicy
  costPolicy : BacktestCostPolicy
  pipSize : JsNumber

/-- The trade's net R-multiple and its currency value. -/
def tradePnl (t : TradeSimulationInput) (entry riskDistance exitPrice : JsNumber) :
    JsNumber × Option JsNumber :=
  let totalCost := JsNumber.mul (.fin (totalCostPips t.costPolicy)) t.pipSize
  let signedMove :=
    match t.direction with
    | .long => JsNumber.sub exitPrice entry
    | .short => JsNumber.sub entry exitPrice
  let pnlR := round4 (JsNumber.div (JsNumber.sub signedMove totalCost) riskDistance)
  (pnlR, t.costPolicy.riskPerTrade.map (fun risk => round2 (JsNumber.mul pnlR (.fin risk))))

def simulateTrade (t : TradeSimulationInput) : BacktestTrade :=
  let levels := detectionLevels t.candidate t.direction
  let base : BacktestTrade :=
    { seq := t.seq
      direction := t.direction
      signalAsOfMs := t.anchor
      entryPrice := levels.map (·.entryPrice)
      stopLossPrice := levels.bind (·.stopLossPrice)
      tp1Price := levels.bind (·.tp1Price)
      tp2Price := levels.bind (·.tp2Price)
      tp3Price := levels.bind (·.tp3Price)
      qualityScore := t.score.total
      qualityGrade := t.score.grade
      exitReason := .no_levels
      exitPrice := none
      exitAsOfMs := none
      pnlR := none
      pnlCurrency := none }
  match levels with
  | none => base
  | some levels =>
    match levels.stopLossPrice with
    | none => base
    | some stop =>
      let riskDistance := JsNumber.abs (JsNumber.sub levels.entryPrice stop)
      if !JsNumber.lt 0 riskDistance then base
      else
        let scan : ExitScan :=
          { direction := t.direction
            stop
            target := selectTarget t.exitPolicy levels t.takeProfitMethod
            exitPolicy := t.exitPolicy
            setupPeriodMs := t.setupPeriodMs
            toMs := t.toMs }
        -- with no candle held the trade exits at its entry
        let exit := scan.run (t.setup.drop t.setupEnd) 0 ⟨.range_end, levels.entryPrice, t.anchor⟩
        let pnl := tradePnl t levels.entryPrice riskDistance exit.price
        { base with
          exitReason := exit.reason
          exitPrice := some exit.price
          exitAsOfMs := some exit.asOfMs
          pnlR := some pnl.1
          pnlCurrency := pnl.2 }

/-! ## The replay -/

/-- What stays fixed while the anchors are replayed. -/
structure ReplayContext (X : Type) where
  fns : BacktestFunctions X
  config : StrategyVersionConfig
  instrument : Instrument
  pipSize : Option JsNumber
  risk : RiskConfiguration
  directions : List Direction
  htfPeriodMs : ℤ
  setupPeriodMs : ℤ
  entryPeriodMs : ℤ
  toMs : ℤ
  exitPolicy : BacktestExitPolicy
  costPolicy : BacktestCostPolicy

/-- The prefix pointers and the trades so far. -/
structure ReplayState where
  htfEnd : ℕ
  setupEnd : ℕ
  entryEnd : ℕ
  trades : List BacktestTrade

def ReplayState.start : ReplayState := ⟨0, 0, 0, []⟩

variable {X : Type}

/-- One direction of one anchor: nothing, or one more trade. -/
def replayDirection (ctx : ReplayContext X) (setup : List CandleDto) (setupEnd : ℕ) (anchor : ℤ)
    (result : EvaluationEngineResult X) (trades : List BacktestTrade) (direction : Direction) :
    Except BacktestError (List BacktestTrade) := do
  let dirEval := result.of direction
  if !dirEval.passed then return trades
  if (setup.take setupEnd).isEmpty then return trades
  let score ← ctx.fns.scoreSetupQuality
    ⟨dirEval, ctx.risk.minRr, ctx.risk.takeProfitMethod, anchor⟩
  if JsNumber.lt score.total (ctx.risk.minQualityScore.getD 0) then return trades
  return trades ++ [simulateTrade
    { seq := trades.length
      direction
      anchor
      setup
      setupEnd
      setupPeriodMs := ctx.setupPeriodMs
      toMs := ctx.toMs
      candidate := dirEval.candidate
      score
      takeProfitMethod := ctx.risk.takeProfitMethod
      exitPolicy := ctx.exitPolicy
      costPolicy := ctx.costPolicy
      pipSize := ctx.pipSize.getD 1 }]

/-- One anchor of the replay over the prepared series. -/
def replayAnchor (ctx : ReplayContext X) (series : CandleSet) (s : ReplayState) (anchor : ℤ) :
    Except BacktestError ReplayState := do
  let htfEnd := advancePrefix series.htf_bias ctx.htfPeriodMs anchor s.htfEnd
  let setupEnd := advancePrefix series.setup ctx.setupPeriodMs anchor s.setupEnd
  let entryEnd := advancePrefix series.entry ctx.entryPeriodMs anchor s.entryEnd
  assertRoleCoverage .htf_bias series.htf_bias ctx.htfPeriodMs anchor htfEnd
    (requiredCoverage ctx.config .htf_bias)
  assertRoleCoverage .entry series.entry ctx.entryPeriodMs anchor entryEnd
    (requiredCoverage ctx.config .entry)
  let result ← ctx.fns.evaluate
    { config := ctx.config
      instrument := ctx.instrument
      pipSize := ctx.pipSize
      candles :=
        ⟨series.htf_bias.take htfEnd, series.setup.take setupEnd, series.entry.take entryEnd⟩
      asOfMs := anchor }
  let trades ← ctx.directions.foldlM (replayDirection ctx series.setup setupEnd anchor result)
    s.trades
  return ⟨htfEnd, setupEnd, entryEnd, trades⟩

/-! ## Metrics -/

def sumR (values : List JsNumber) : JsNumber := values.foldl JsNumber.add 0

/-- The drawdown walk: peak, equity and the largest decline so far. -/
structure Drawdown where
  peak : JsNumber
  equity : JsNumber
  maxDrawdown : JsNumber

def Drawdown.step (d : Drawdown) (pnlR : JsNumber) : Drawdown :=
  let equity := JsNumber.add d.equity pnlR
  let peak := if JsNumber.lt d.peak equity then equity else d.peak
  let drawdown := JsNumber.sub peak equity
  ⟨peak, equity, if JsNumber.lt d.maxDrawdown drawdown then drawdown else d.maxDrawdown⟩

def computeMetrics (trades : List BacktestTrade) (stepsEvaluated : ℕ)
    (costPolicy : BacktestCostPolicy) : BacktestMetrics :=
  let closed := (trades.filter (fun t => t.exitReason != .no_levels)).filterMap (·.pnlR)
  let wins := closed.filter (fun r => JsNumber.lt 0 r)
  let losses := closed.filter (fun r => JsNumber.lt r 0)
  let totalR := round4 (sumR closed)
  let grossWin := sumR wins
  let grossLossAbs := JsNumber.abs (sumR losses)
  let count (n : ℕ) : JsNumber := .fin n
  let perTrade (value : JsNumber) : Option JsNumber :=
    if 0 < closed.length then some (round4 (JsNumber.div value (count closed.length))) else none
  let maxDrawdown := (closed.foldl Drawdown.step ⟨0, 0, 0⟩).maxDrawdown
  { stepsEvaluated
    setupsDetected := trades.length
    tradesClosed := closed.length
    wins := wins.length
    losses := losses.length
    winRate := perTrade (count wins.length)
    expectancyR := perTrade totalR
    profitFactor :=
      if JsNumber.lt 0 grossLossAbs then some (round4 (JsNumber.div grossWin grossLossAbs)) else none
    maxDrawdownR := if 0 < closed.length then some (round4 maxDrawdown) else none
    avgWinR :=
      if 0 < wins.length then some (round4 (JsNumber.div grossWin (count wins.length))) else none
    avgLossR :=
      if 0 < losses.length then
        some (round4 (JsNumber.div (JsNumber.neg grossLossAbs) (count losses.length)))
      else none
    totalR
    totalCurrency := costPolicy.riskPerTrade.map (fun risk => round2 (JsNumber.mul totalR (.fin risk))) }

/-! ## A run -/

/-- `BacktestEngineResult` without the notes. -/
structure BacktestEngineResult where
  trades : List BacktestTrade
  metrics : BacktestMetrics
  stepsEvaluated : ℕ

/-- A bound: a positive integer of milliseconds. -/
def rangeBound (ms : JsNumber) : Option ℤ :=
  match ms with
  | .fin q => if q.den = 1 ∧ 0 < q.num then some q.num else none
  | _ => none

/-- What `runBacktest` establishes before it looks at a candle: the fixed part of the replay and
    the bounds. -/
def replayContext (fns : BacktestFunctions X) (input : BacktestEngineInput) :
    Except BacktestError (ReplayContext X × ℤ) := do
  let some exitPolicy := parseExitPolicy input.exitPolicy | throw .invalidExitPolicy
  let some costPolicy := parseCostPolicy input.costPolicy | throw .invalidCostPolicy
  let pipSize ← resolvePipSize input.pipSize costPolicy
  let some timeframes := input.config.timeframes | throw .timeframesRequired
  let some risk := input.config.risk | throw .riskRequired
  let some fromMs := rangeBound input.fromMs | throw .boundsNotPositiveIntegers
  let some toMs := rangeBound input.toMs | throw .boundsNotPositiveIntegers
  if toMs ≤ fromMs then throw .boundsReversed
  return (
    { fns
      config := input.config
      instrument := input.instrument
      pipSize
      risk
      directions := input.direction.directions
      htfPeriodMs := timeframeMinutes timeframes.htf_bias * 60000
      setupPeriodMs := timeframeMinutes timeframes.setup * 60000
      entryPeriodMs := timeframeMinutes timeframes.entry * 60000
      toMs
      exitPolicy
      costPolicy }, fromMs)

/-- The prepared series of the three roles. -/
def preparedSeries (candles : CandleSet) : CandleSet :=
  ⟨prepareSeries candles.htf_bias, prepareSeries candles.setup, prepareSeries candles.entry⟩

/-- The anchors a run evaluates: the first `MAX_BACKTEST_STEPS` closes in range. -/
def replayAnchors (ctx : ReplayContext X) (fromMs : ℤ) (series : CandleSet) : List ℤ :=
  (anchorsInRange series.setup ctx.setupPeriodMs fromMs ctx.toMs).take MAX_BACKTEST_STEPS

def runBacktest (fns : BacktestFunctions X) (input : BacktestEngineInput) :
    Except BacktestError BacktestEngineResult := do
  let (ctx, fromMs) ← replayContext fns input
  let series := preparedSeries input.candles
  let anchors := replayAnchors ctx fromMs series
  let final ← anchors.foldlM (replayAnchor ctx series) .start
  return ⟨final.trades, computeMetrics final.trades anchors.length ctx.costPolicy, anchors.length⟩

end VeltrixEye
