import VeltrixEye.Lib.Numerals
import VeltrixEye.Strategies.Conditions

/-!
# Evaluation primitives (`strategies/evaluation/indicators.ts`)

Candle anatomy, the Wilder average true range, confirmed pivots, structure bias, zones, sessions and
buffers.  Every function is a function of the candles it is given; `slice(-n)` is `sliceLast`.
-/

namespace VeltrixEye

def LEVEL_TOLERANCE_PCT : ℚ := 1 / 10

def PIVOT_HALF_WIDTH : ℕ := 2

/-- `xs.slice(-n)`: the last `n` elements, or all of them for `n = 0`. -/
def sliceLast {α : Type} (n : ℕ) (l : List α) : List α := if n = 0 then l else l.rtake n

/-- `Math.min(...values)`. -/
def minOf (values : List JsNumber) : JsNumber := values.foldl JsNumber.min .posInf

/-- `Math.max(...values)`. -/
def maxOf (values : List JsNumber) : JsNumber := values.foldl JsNumber.max .negInf

/-! ## Candle anatomy -/

structure CandleAnatomy where
  range : JsNumber
  body : JsNumber
  upperWick : JsNumber
  lowerWick : JsNumber
  bullish : Bool
  bearish : Bool

def candleAnatomy (c : CandleDto) : CandleAnatomy where
  range := JsNumber.sub c.high c.low
  body := JsNumber.abs (JsNumber.sub c.close c.open)
  upperWick := JsNumber.sub c.high (JsNumber.max c.open c.close)
  lowerWick := JsNumber.sub (JsNumber.min c.open c.close) c.low
  bullish := JsNumber.lt c.open c.close
  bearish := JsNumber.lt c.close c.open

/-! ## ATR -/

/-- The true range of a candle after `prev`. -/
def trueRange (prev c : CandleDto) : JsNumber :=
  JsNumber.max (JsNumber.max (JsNumber.sub c.high c.low)
    (JsNumber.abs (JsNumber.sub c.high prev.close)))
    (JsNumber.abs (JsNumber.sub c.low prev.close))

/-- Wilder's average true range: the mean of the first `period` true ranges, then smoothed over the
    rest. -/
def atrWilder (candles : List CandleDto) (period : ℕ) : Option JsNumber :=
  if period < 2 then none
  else if candles.length < period + 1 then none
  else
    let trs := candles.zipWith trueRange candles.tail
    let n : JsNumber := .fin period
    let seed := JsNumber.div ((trs.take period).foldl JsNumber.add 0) n
    some ((trs.drop period).foldl
      (fun atr t => JsNumber.div (JsNumber.add (JsNumber.mul atr (.fin (period - 1))) t) n) seed)

/-! ## Pivots -/

structure Pivot where
  index : ℕ
  price : JsNumber
  time : ℤ

/-- The `k` candles on each side of position `i`. -/
def pivotNeighbours (candles : List CandleDto) (k i : ℕ) : List CandleDto :=
  (List.range (2 * k + 1)).filterMap (fun d => if d = k then none else candles[i - k + d]?)

/-- The positions that have `k` candles on each side. -/
def pivotPositions (candles : List CandleDto) (k : ℕ) : List ℕ :=
  if k < 1 then [] else List.range' k (candles.length - 2 * k)

/-- `findPivots(candles, k).highs`. -/
def pivotHighs (candles : List CandleDto) (k : ℕ) : List Pivot :=
  (pivotPositions candles k).filterMap fun i =>
    candles[i]?.bind fun ci =>
      if (pivotNeighbours candles k i).any (fun cj => JsNumber.le ci.high cj.high) then none
      else some ⟨i, ci.high, ci.time⟩

/-- `findPivots(candles, k).lows`. -/
def pivotLows (candles : List CandleDto) (k : ℕ) : List Pivot :=
  (pivotPositions candles k).filterMap fun i =>
    candles[i]?.bind fun ci =>
      if (pivotNeighbours candles k i).any (fun cj => JsNumber.le cj.low ci.low) then none
      else some ⟨i, ci.low, ci.time⟩

inductive StructureBias where
  | bullish
  | bearish
  | range
  deriving DecidableEq

/-- The bias of the last two pivot highs and lows. -/
def structureBias (candles : List CandleDto) : StructureBias :=
  match (pivotHighs candles PIVOT_HALF_WIDTH).reverse,
    (pivotLows candles PIVOT_HALF_WIDTH).reverse with
  | lastHigh :: prevHigh :: _, lastLow :: prevLow :: _ =>
    if JsNumber.lt prevHigh.price lastHigh.price && JsNumber.lt prevLow.price lastLow.price then
      .bullish
    else if JsNumber.lt lastHigh.price prevHigh.price && JsNumber.lt lastLow.price prevLow.price then
      .bearish
    else .range
  | _, _ => .range

/-- Most recent confirmed pivot high strictly above `ref`. -/
def lastPivotHighAbove (candles : List CandleDto) (ref : JsNumber) : Option Pivot :=
  (pivotHighs candles PIVOT_HALF_WIDTH).reverse.find? (fun h => JsNumber.lt ref h.price)

/-- Most recent confirmed pivot low strictly below `ref`. -/
def lastPivotLowBelow (candles : List CandleDto) (ref : JsNumber) : Option Pivot :=
  (pivotLows candles PIVOT_HALF_WIDTH).reverse.find? (fun l => JsNumber.lt l.price ref)

/-- The nearest opposing swing beyond the entry. -/
def structuralTarget (candles : List CandleDto) (direction : Direction) (entry : JsNumber) :
    Option JsNumber :=
  match direction with
  | .long =>
    (pivotHighs candles PIVOT_HALF_WIDTH).foldl
      (fun best h =>
        if JsNumber.lt entry h.price && best.all (fun b => JsNumber.lt h.price b) then some h.price
        else best) none
  | .short =>
    (pivotLows candles PIVOT_HALF_WIDTH).foldl
      (fun best l =>
        if JsNumber.lt l.price entry && best.all (fun b => JsNumber.lt b l.price) then some l.price
        else best) none

/-- Arithmetic mean of the last `period` values. -/
def sma (values : List JsNumber) (period : ℕ) : Option JsNumber :=
  if period < 1 ∨ values.length < period then none
  else
    let window := sliceLast period values
    some (JsNumber.div (window.foldl JsNumber.add 0) (.fin window.length))

/-! ## Patterns -/

/-- Whether the body of `cur` reaches `minBodyRatio` times the body of `prev`; a zero previous body
    fails a given ratio. -/
def bodyRatioOk (prev cur : CandleDto) (minBodyRatio : Option ℚ) : Bool :=
  match minBodyRatio with
  | none => true
  | some ratio =>
    !JsNumber.le (candleAnatomy prev).body 0 &&
      !JsNumber.lt (candleAnatomy cur).body (JsNumber.mul (.fin ratio) (candleAnatomy prev).body)

def isEngulfing (prev cur : CandleDto) (direction : PatternKind) (minBodyRatio : Option ℚ) : Bool :=
  let p := candleAnatomy prev
  let c := candleAnatomy cur
  match direction with
  | .bullish =>
    p.bearish && c.bullish && (JsNumber.le cur.open prev.close && JsNumber.le prev.open cur.close) &&
      bodyRatioOk prev cur minBodyRatio
  | .bearish =>
    p.bullish && c.bearish && (JsNumber.le prev.close cur.open && JsNumber.le cur.close prev.open) &&
      bodyRatioOk prev cur minBodyRatio

/-- A body of at least `minAtrMultiple` average true ranges, closing in the given direction. -/
def isDisplacement (candle : CandleDto) (atr : JsNumber) (minAtrMultiple : ℚ)
    (direction : PatternDirection) : Bool :=
  let body := JsNumber.abs (JsNumber.sub candle.close candle.open)
  if !JsNumber.lt 0 atr then false
  else if JsNumber.lt body (JsNumber.mul (.fin minAtrMultiple) atr) then false
  else
    match direction with
    | .either => true
    | .bullish => JsNumber.lt candle.open candle.close
    | .bearish => JsNumber.lt candle.close candle.open

/-! ## Levels and zones -/

open Numerals in
def levelTolerance (level : JsNumber) (tolerancePct : ℚ) : JsNumber :=
  JsNumber.div (JsNumber.mul (JsNumber.abs level) (.fin tolerancePct)) 100

/-- The extreme a level is tested with. -/
inductive TouchSide where
  | high
  | low

/-- Candles whose extreme is within tolerance of the level. -/
def countTouches (candles : List CandleDto) (level : JsNumber) (side : TouchSide) : ℕ :=
  let tol := levelTolerance level LEVEL_TOLERANCE_PCT
  candles.countP fun c =>
    let v := match side with
      | .high => c.high
      | .low => c.low
    JsNumber.le (JsNumber.abs (JsNumber.sub v level)) tol

structure Zone where
  bottom : JsNumber
  top : JsNumber
  index : ℕ
  time : ℤ
  deriving DecidableEq

open Numerals in
/-- Whether a gap reaches the minimum height, in percent of its top. -/
def gapLargeEnough (bottom top : JsNumber) (minGapSizePct : Option ℚ) : Bool :=
  match minGapSizePct with
  | none => true
  | some pct =>
    let gapPct :=
      if JsNumber.lt 0 top then
        JsNumber.mul (JsNumber.div (JsNumber.sub top bottom) top) 100
      else 0
    !JsNumber.lt gapPct (.fin pct)

/-- The gap the candles at `i - 2` and `i` leave, when there is a large enough one. -/
def fvgAt (candles : List CandleDto) (kind : PatternKind) (minGapSizePct : Option ℚ) (i : ℕ) :
    Option Zone := do
  let a ← candles[i - 2]?
  let c ← candles[i]?
  match kind with
  | .bullish =>
    if JsNumber.lt a.high c.low && gapLargeEnough a.high c.low minGapSizePct then
      some ⟨a.high, c.low, i, c.time⟩
    else none
  | .bearish =>
    if JsNumber.lt c.high a.low && gapLargeEnough c.high a.low minGapSizePct then
      some ⟨c.high, a.low, i, c.time⟩
    else none

/-- Most recent fair-value gap. -/
def findFvg (candles : List CandleDto) (kind : PatternKind) (minGapSizePct : Option ℚ) :
    Option Zone :=
  (List.range' 2 (candles.length - 2)).reverse.findSome? (fvgAt candles kind minGapSizePct)

def ORDER_BLOCK_BODY_MULT : ℚ := 3 / 2

/-- The order block whose origin is the candle at `j`. -/
def orderBlockAt (candles : List CandleDto) (kind : PatternKind) (j : ℕ) : Option Zone := do
  let origin ← candles[j]?
  let next ← candles[j + 1]?
  let o := candleAnatomy origin
  let n := candleAnatomy next
  let displaced := JsNumber.le (JsNumber.mul (.fin ORDER_BLOCK_BODY_MULT) o.body) n.body
  let found := match kind with
    | .bullish => o.bearish && n.bullish && JsNumber.lt origin.high next.close && displaced
    | .bearish => o.bullish && n.bearish && JsNumber.lt next.close origin.low && displaced
  if found then some ⟨origin.low, origin.high, j, origin.time⟩ else none

/-- Most recent order block within `maxAgeCandles` of the end. -/
def findOrderBlock (candles : List CandleDto) (kind : PatternKind) (maxAgeCandles : ℕ) :
    Option Zone :=
  let start := max 1 (candles.length - maxAgeCandles)
  (List.range' start (candles.length - 1 - start)).reverse.findSome? (orderBlockAt candles kind)

/-- The candle traded inside the zone. -/
def tradedInto (zone : Zone) (c : CandleDto) : Bool :=
  JsNumber.le c.low zone.top && JsNumber.le zone.bottom c.high

/-- A run of low-range candles: its extremes. -/
structure Consolidation where
  bottom : JsNumber
  top : JsNumber

/-- The run so far and the finished runs. -/
structure ConsolidationScan where
  run : List CandleDto
  runs : List Consolidation

/-- A run of at least three candles becomes a zone. -/
def ConsolidationScan.finish (s : ConsolidationScan) : List Consolidation :=
  if 3 ≤ s.run.length then
    s.runs ++ [⟨minOf (s.run.map (·.low)), maxOf (s.run.map (·.high))⟩]
  else s.runs

def ConsolidationScan.step (atr : JsNumber) (s : ConsolidationScan) (c : CandleDto) :
    ConsolidationScan :=
  if JsNumber.le (candleAnatomy c).range (JsNumber.mul (.fin (1 / 2)) atr) then
    { s with run := s.run ++ [c] }
  else ⟨[], s.finish⟩

/-- The consolidation zones of a window, oldest first. -/
def consolidations (window : List CandleDto) (atr : JsNumber) : List Consolidation :=
  (window.foldl (ConsolidationScan.step atr) ⟨[], []⟩).finish

/-! ## Sessions -/

/-- Session membership of a time, by its UTC hour. -/
def timeInSession (timeMs : ℤ) (session : SessionName) : Bool :=
  hourInSession (timeMs % 86400000 / 3600000) session

/-! ## Buffers -/

/-- `bufferToPrice`: a `pips` buffer needs a valid pip size. -/
def bufferToPrice (buffer : ℚ) (unit : BufferUnit) (entryPrice : JsNumber)
    (pipSize : Option JsNumber) : Option JsNumber :=
  match unit with
  | .pct => some (JsNumber.mul (.fin (buffer / 100)) entryPrice)
  | .pips => (pipSize.filter validPipSize).map (JsNumber.mul (.fin buffer))

end VeltrixEye
