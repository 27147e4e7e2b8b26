import VeltrixEye.Strategies.Handlers

/-!
# Long and short are mirror images (`strategies/evaluation/handlers.ts`)

The mirror negates every price of a candle and swaps high with low; it swaps the sides a condition
names.  Each primitive commutes with it, and so does each handler.

* `JsNumber.sub_neg_neg`, `maxOf_neg` — arithmetic on negated numbers.
* `pivotHighs_mirror`, `findOrderBlock_mirror`, `consolidations_mirror` — the primitives.
-/

namespace VeltrixEye

/-! ## Negated numbers -/

namespace JsNumber

@[simp] theorem neg_neg (a : JsNumber) : a.neg.neg = a := by
  cases a <;> simp [neg]

@[simp] theorem lt_neg_neg (a b : JsNumber) : lt a.neg b.neg = lt b a := by
  cases a <;> cases b <;> simp [neg, lt]

@[simp] theorem le_neg_neg (a b : JsNumber) : le a.neg b.neg = le b a := by
  cases a <;> cases b <;> simp [neg, le, lt]

@[simp] theorem abs_neg_eq (a : JsNumber) : abs a.neg = abs a := by
  cases a <;> simp [neg, abs]

theorem add_symm (a b : JsNumber) : add a b = add b a := by
  cases a <;> cases b <;> simp [add, Rat.add_comm]

theorem add_neg_neg (a b : JsNumber) : add a.neg b.neg = (add a b).neg := by
  cases a <;> cases b <;> simp [neg, add, Rat.add_comm]

@[simp] theorem sub_neg_neg (a b : JsNumber) : sub a.neg b.neg = sub b a := by
  unfold sub
  rw [neg_neg, add_symm]

theorem neg_sub_eq (a b : JsNumber) : (sub a b).neg = sub b a := by
  unfold sub
  rw [← add_neg_neg, neg_neg, add_symm]

theorem abs_sub_symm (a b : JsNumber) : abs (sub a b) = abs (sub b a) := by
  rw [← neg_sub_eq, abs_neg_eq]

theorem sub_neg_left (a b : JsNumber) : sub a.neg b = (add a b).neg := by
  rw [← add_neg_neg, sub]

theorem add_neg_left (a b : JsNumber) : add a.neg b = (sub a b).neg := by
  rw [sub, ← add_neg_neg, neg_neg]

theorem infOfSign_neg (q : ℚ) : infOfSign (-q) = (infOfSign q).neg := by
  unfold infOfSign
  rcases lt_trichotomy q 0 with h | h | h
  · simp [h, not_lt.mpr h.le, neg]
  · simp [h, neg]
  · simp [h, not_lt.mpr h.le, neg]

@[simp] theorem div_neg_left (a b : JsNumber) : div a.neg b = (div a b).neg := by
  cases a with
  | nan => cases b <;> rfl
  | fin a =>
    cases b with
    | fin b =>
      show (if b = 0 then infOfSign (-a) else fin (-a / b)) = neg (if b = 0 then infOfSign a else fin (a / b))
      split
      · exact infOfSign_neg a
      · simp only [neg, neg_div]
    | nan => rfl
    | _ => exact congrArg fin neg_zero.symm
  | _ =>
    cases b with
    | fin b => simp only [neg, div]; split <;> rfl
    | _ => rfl

@[simp] theorem max_neg_neg (a b : JsNumber) : max a.neg b.neg = (min a b).neg := by
  cases a <;> cases b <;> simp only [neg, max, min, lt] <;> grind

@[simp] theorem min_neg_neg (a b : JsNumber) : min a.neg b.neg = (max a b).neg := by
  rw [← neg_neg (min _ _), ← max_neg_neg, neg_neg, neg_neg]

theorem lt_asymm {a b : JsNumber} (h : lt a b = true) : lt b a = false := by
  cases a <;> cases b <;> simp_all [lt, le_of_lt]

theorem max_right_comm (a b c : JsNumber) : max (max a b) c = max (max a c) b := by
  cases a <;> cases b <;> cases c <;> simp [max, lt]
  all_goals grind

end JsNumber

theorem foldl_neg {f g : JsNumber → JsNumber → JsNumber} (hfg : ∀ a b, f a.neg b.neg = (g a b).neg)
    (values : List JsNumber) (b : JsNumber) :
    (values.map JsNumber.neg).foldl f b.neg = (values.foldl g b).neg := by
  induction values generalizing b with
  | nil => rfl
  | cons v values ih =>
    simp only [List.map_cons, List.foldl_cons, hfg]
    exact ih _

theorem minOf_neg (values : List JsNumber) : minOf (values.map JsNumber.neg) = (maxOf values).neg :=
  foldl_neg JsNumber.min_neg_neg values .negInf

theorem maxOf_neg (values : List JsNumber) : maxOf (values.map JsNumber.neg) = (minOf values).neg :=
  foldl_neg JsNumber.max_neg_neg values .posInf

theorem sum_neg (values : List JsNumber) :
    (values.map JsNumber.neg).foldl JsNumber.add 0 = (values.foldl JsNumber.add 0).neg :=
  foldl_neg JsNumber.add_neg_neg values 0

/-! ## The mirror -/

@[simps] def CandleDto.mirror (c : CandleDto) : CandleDto where
  time := c.time
  «open» := c.open.neg
  high := c.low.neg
  low := c.high.neg
  close := c.close.neg
  volume := c.volume

def CandleSet.mirror (candles : CandleSet) : CandleSet where
  htf_bias := candles.htf_bias.map CandleDto.mirror
  setup := candles.setup.map CandleDto.mirror
  entry := candles.entry.map CandleDto.mirror

def Direction.mirror : Direction → Direction
  | .long => .short
  | .short => .long

def PatternDirection.mirror : PatternDirection → PatternDirection
  | .bullish => .bearish
  | .bearish => .bullish
  | .either => .either

def PatternKind.mirror : PatternKind → PatternKind
  | .bullish => .bearish
  | .bearish => .bullish

def SweepSide.mirror : SweepSide → SweepSide
  | .above => .below
  | .below => .above

/-- A condition's type and parameters with the sides swapped; `swing` is `swing_high` of a supply and
    `swing_low` of a demand. -/
def ConditionParams.mirror : ConditionParams → ConditionParams
  | .liquidity_sweep side lookbackCandles minWickRatio =>
    .liquidity_sweep side.mirror lookbackCandles minWickRatio
  | .choch direction lookbackCandles requireDisplacement =>
    .choch direction.mirror lookbackCandles requireDisplacement
  | .bos direction lookbackCandles => .bos direction.mirror lookbackCandles
  | .break_retest direction maxRetestCandles retestTolerancePct =>
    .break_retest direction.mirror maxRetestCandles retestTolerancePct
  | .order_block kind validation maxAgeCandles => .order_block kind.mirror validation maxAgeCandles
  | .fvg kind minGapSizePct requireMitigation => .fvg kind.mirror minGapSizePct requireMitigation
  | .support minTouches lookbackCandles => .resistance minTouches lookbackCandles
  | .resistance minTouches lookbackCandles => .support minTouches lookbackCandles
  | .supply source minTouches => .demand source minTouches
  | .demand source minTouches => .supply source minTouches
  | .rejection_candle direction minWickBodyRatio => .rejection_candle direction.mirror minWickBodyRatio
  | .engulfing_candle direction minBodyRatio => .engulfing_candle direction.mirror minBodyRatio
  | .displacement direction atrPeriod minAtrMultiple =>
    .displacement direction.mirror atrPeriod minAtrMultiple
  | .htf_alignment direction source => .htf_alignment direction.mirror source
  | params => params

def HandlerContext.mirror (ctx : HandlerContext) : HandlerContext :=
  { ctx with candles := ctx.candles.mirror, direction := ctx.direction.mirror }

def Pivot.mirror (p : Pivot) : Pivot := { p with price := p.price.neg }

def Zone.mirror (z : Zone) : Zone := { z with bottom := z.top.neg, top := z.bottom.neg }

def Consolidation.mirror (z : Consolidation) : Consolidation := ⟨z.top.neg, z.bottom.neg⟩

def StructureBias.mirror : StructureBias → StructureBias
  | .bullish => .bearish
  | .bearish => .bullish
  | .range => .range

@[simp] theorem CandleDto.mirror_mirror (c : CandleDto) : c.mirror.mirror = c := by
  simp [CandleDto.mirror]

@[simp] theorem Direction.mirror_mirror (d : Direction) : d.mirror.mirror = d := by
  cases d <;> rfl

theorem map_mirror_mirror (candles : List CandleDto) :
    (candles.map CandleDto.mirror).map CandleDto.mirror = candles := by
  simp [List.map_map, Function.comp_def]

@[simp] theorem HandlerContext.mirror_direction (ctx : HandlerContext) :
    ctx.mirror.direction = ctx.direction.mirror := rfl

theorem roleCandles_mirror (ctx : HandlerContext) :
    roleCandles ctx.mirror = (roleCandles ctx).map CandleDto.mirror := by
  unfold roleCandles HandlerContext.mirror
  cases ctx.timeframeRole with
  | any => rfl
  | role r => cases r <;> rfl

theorem alignmentCandles_mirror (ctx : HandlerContext) :
    alignmentCandles ctx.mirror = (alignmentCandles ctx).map CandleDto.mirror := by
  have hroles := roleCandles_mirror ctx
  cases hrole : ctx.timeframeRole with
  | any => simp only [alignmentCandles, HandlerContext.mirror, hrole, CandleSet.mirror]
  | role r =>
    have hmirror : ctx.mirror.timeframeRole = .role r := hrole
    simp only [alignmentCandles, hmirror, hrole, hroles]

theorem sliceLast_map {α β : Type} (f : α → β) (n : ℕ) (l : List α) :
    sliceLast n (l.map f) = (sliceLast n l).map f := by
  unfold sliceLast
  split
  · rfl
  · simp [List.rtake, List.map_drop]

/-! ## Anatomy and averages -/

section Primitives

variable (candles : List CandleDto)

@[simp] theorem anatomy_mirror_range (c : CandleDto) :
    (candleAnatomy c.mirror).range = (candleAnatomy c).range := by
  simp [candleAnatomy, CandleDto.mirror]

@[simp] theorem anatomy_mirror_body (c : CandleDto) :
    (candleAnatomy c.mirror).body = (candleAnatomy c).body := by
  simp [candleAnatomy, CandleDto.mirror, JsNumber.abs_sub_symm c.open]

@[simp] theorem anatomy_mirror_upperWick (c : CandleDto) :
    (candleAnatomy c.mirror).upperWick = (candleAnatomy c).lowerWick := by
  simp [candleAnatomy, CandleDto.mirror]

@[simp] theorem anatomy_mirror_lowerWick (c : CandleDto) :
    (candleAnatomy c.mirror).lowerWick = (candleAnatomy c).upperWick := by
  simp [candleAnatomy, CandleDto.mirror]

@[simp] theorem anatomy_mirror_bullish (c : CandleDto) :
    (candleAnatomy c.mirror).bullish = (candleAnatomy c).bearish := by
  simp [candleAnatomy, CandleDto.mirror]

@[simp] theorem anatomy_mirror_bearish (c : CandleDto) :
    (candleAnatomy c.mirror).bearish = (candleAnatomy c).bullish := by
  simp [candleAnatomy, CandleDto.mirror]

@[simp] theorem trueRange_mirror (prev c : CandleDto) :
    trueRange prev.mirror c.mirror = trueRange prev c := by
  simp only [trueRange, CandleDto.mirror, JsNumber.sub_neg_neg]
  rw [JsNumber.abs_sub_symm prev.close c.low, JsNumber.abs_sub_symm prev.close c.high,
    JsNumber.max_right_comm]

@[simp] theorem atrWilder_mirror (period : ℕ) :
    atrWilder (candles.map CandleDto.mirror) period = atrWilder candles period := by
  unfold atrWilder
  have htrs : (candles.map CandleDto.mirror).zipWith trueRange (candles.map CandleDto.mirror).tail =
      candles.zipWith trueRange candles.tail := by
    rw [← List.map_tail, List.zipWith_map]
    simp only [trueRange_mirror]
  rw [htrs, List.length_map]

/-! ## Pivots and bias -/

theorem pivotNeighbours_mirror (k i : ℕ) :
    pivotNeighbours (candles.map CandleDto.mirror) k i =
      (pivotNeighbours candles k i).map CandleDto.mirror := by
  unfold pivotNeighbours
  rw [List.map_filterMap]
  refine List.filterMap_congr fun d _ => ?_
  split
  · rfl
  · simp

theorem pivotPositions_mirror (k : ℕ) :
    pivotPositions (candles.map CandleDto.mirror) k = pivotPositions candles k := by
  simp [pivotPositions]

theorem pivotHighs_mirror (k : ℕ) :
    pivotHighs (candles.map CandleDto.mirror) k = (pivotLows candles k).map Pivot.mirror := by
  unfold pivotHighs pivotLows
  rw [pivotPositions_mirror, List.map_filterMap]
  refine List.filterMap_congr fun i _ => ?_
  rw [List.getElem?_map, pivotNeighbours_mirror]
  cases candles[i]? with
  | none => rfl
  | some c =>
    simp only [Option.map_some, Option.bind_some, List.any_map, Function.comp_def, CandleDto.mirror,
      JsNumber.le_neg_neg]
    split <;> rfl

theorem pivotLows_mirror (k : ℕ) :
    pivotLows (candles.map CandleDto.mirror) k = (pivotHighs candles k).map Pivot.mirror := by
  have h := pivotHighs_mirror (candles.map CandleDto.mirror) k
  rw [map_mirror_mirror] at h
  rw [h, List.map_map]
  simp [Function.comp_def, Pivot.mirror]

theorem structureBias_mirror :
    structureBias (candles.map CandleDto.mirror) = (structureBias candles).mirror := by
  unfold structureBias
  rw [pivotHighs_mirror, pivotLows_mirror, ← List.map_reverse, ← List.map_reverse]
  rcases (pivotHighs candles PIVOT_HALF_WIDTH).reverse with _ | ⟨lastHigh, _ | ⟨prevHigh, highs⟩⟩ <;>
    rcases (pivotLows candles PIVOT_HALF_WIDTH).reverse with _ | ⟨lastLow, _ | ⟨prevLow, lows⟩⟩
  case cons.cons.cons.cons =>
    simp only [List.map_cons, Pivot.mirror, JsNumber.lt_neg_neg]
    -- both sides rising excludes both sides falling
    by_cases hrising : (JsNumber.lt prevHigh.price lastHigh.price &&
        JsNumber.lt prevLow.price lastLow.price) = true
    · obtain ⟨hhigh, hlow⟩ := Bool.and_eq_true_iff.mp hrising
      simp [hhigh, hlow, JsNumber.lt_asymm hhigh, JsNumber.lt_asymm hlow, StructureBias.mirror]
    · rw [if_neg hrising, Bool.and_comm (JsNumber.lt prevLow.price _), if_neg hrising,
        Bool.and_comm]
      split <;> rfl
  all_goals rfl

theorem lastPivotHighAbove_mirror (ref : JsNumber) :
    lastPivotHighAbove (candles.map CandleDto.mirror) ref.neg =
      (lastPivotLowBelow candles ref).map Pivot.mirror := by
  unfold lastPivotHighAbove lastPivotLowBelow
  rw [pivotHighs_mirror, ← List.map_reverse, List.find?_map]
  simp only [Function.comp_def, Pivot.mirror, JsNumber.lt_neg_neg]

theorem sma_neg (values : List JsNumber) (period : ℕ) :
    sma (values.map JsNumber.neg) period = (sma values period).map JsNumber.neg := by
  unfold sma
  rw [List.length_map]
  split
  · rfl
  · simp only [sliceLast_map, sum_neg, JsNumber.div_neg_left, List.length_map, Option.map_some]

/-! ## Patterns, levels and zones -/

theorem bodyRatioOk_mirror (prev cur : CandleDto) (minBodyRatio : Option ℚ) :
    bodyRatioOk prev.mirror cur.mirror minBodyRatio = bodyRatioOk prev cur minBodyRatio := by
  unfold bodyRatioOk
  simp only [anatomy_mirror_body]

theorem isEngulfing_mirror (prev cur : CandleDto) (direction : PatternKind) (minBodyRatio : Option ℚ) :
    isEngulfing prev.mirror cur.mirror direction.mirror minBodyRatio =
      isEngulfing prev cur direction minBodyRatio := by
  unfold isEngulfing
  cases direction <;>
    simp only [PatternKind.mirror, anatomy_mirror_bullish, anatomy_mirror_bearish, bodyRatioOk_mirror,
      CandleDto.mirror_open, CandleDto.mirror_close, JsNumber.le_neg_neg]

theorem isDisplacement_mirror (candle : CandleDto) (atr : JsNumber) (minAtrMultiple : ℚ)
    (direction : PatternDirection) :
    isDisplacement candle.mirror atr minAtrMultiple direction.mirror =
      isDisplacement candle atr minAtrMultiple direction := by
  unfold isDisplacement
  have hbody : JsNumber.abs (JsNumber.sub candle.mirror.close candle.mirror.open) =
      JsNumber.abs (JsNumber.sub candle.close candle.open) := anatomy_mirror_body candle
  simp only [hbody]
  cases direction <;> simp only [PatternDirection.mirror, CandleDto.mirror, JsNumber.lt_neg_neg]

@[simp] theorem levelTolerance_neg (level : JsNumber) (tolerancePct : ℚ) :
    levelTolerance level.neg tolerancePct = levelTolerance level tolerancePct := by
  simp [levelTolerance]

def TouchSide.mirror : TouchSide → TouchSide
  | .high => .low
  | .low => .high

theorem countTouches_mirror (level : JsNumber) (side : TouchSide) :
    countTouches (candles.map CandleDto.mirror) level.neg side.mirror = countTouches candles level side := by
  unfold countTouches
  rw [List.countP_map, levelTolerance_neg]
  refine List.countP_congr fun c _ => ?_
  cases side <;>
    simp only [Function.comp_def, TouchSide.mirror, CandleDto.mirror, JsNumber.sub_neg_neg,
      JsNumber.abs_sub_symm level]

theorem fvgAt_mirror (kind : PatternKind) (i : ℕ) :
    fvgAt (candles.map CandleDto.mirror) kind.mirror none i = (fvgAt candles kind none i).map Zone.mirror := by
  unfold fvgAt
  simp only [List.getElem?_map]
  cases candles[i - 2]? with
  | none => rfl
  | some a =>
    cases candles[i]? with
    | none => rfl
    | some c =>
      cases kind <;>
        simp only [Option.map_some, Option.bind_eq_bind, Option.bind_some, PatternKind.mirror,
          CandleDto.mirror, JsNumber.lt_neg_neg, gapLargeEnough, Bool.and_true] <;>
        split <;> simp [Zone.mirror]

theorem findSome?_mirror {α β : Type} {f : ℕ → Option α} {m : α → β} {f' : ℕ → Option β}
    (h : ∀ i, f' i = (f i).map m) (l : List ℕ) : l.findSome? f' = (l.findSome? f).map m := by
  induction l with
  | nil => rfl
  | cons i l ih =>
    rw [List.findSome?_cons, List.findSome?_cons, h i]
    cases f i with
    | none => exact ih
    | some a => rfl

theorem findFvg_mirror (kind : PatternKind) :
    findFvg (candles.map CandleDto.mirror) kind.mirror none = (findFvg candles kind none).map Zone.mirror := by
  unfold findFvg
  rw [List.length_map]
  exact findSome?_mirror (fun i => fvgAt_mirror candles kind i) _

theorem orderBlockAt_mirror (kind : PatternKind) (j : ℕ) :
    orderBlockAt (candles.map CandleDto.mirror) kind.mirror j =
      (orderBlockAt candles kind j).map Zone.mirror := by
  unfold orderBlockAt
  simp only [List.getElem?_map]
  cases candles[j]? with
  | none => rfl
  | some origin =>
    cases candles[j + 1]? with
    | none => rfl
    | some next =>
      simp only [Option.map_some, Option.bind_eq_bind, Option.bind_some, anatomy_mirror_body,
        anatomy_mirror_bullish, anatomy_mirror_bearish]
      cases kind <;>
        simp only [PatternKind.mirror, CandleDto.mirror, JsNumber.lt_neg_neg] <;>
        split <;> simp [Zone.mirror]

theorem findOrderBlock_mirror (kind : PatternKind) (maxAgeCandles : ℕ) :
    findOrderBlock (candles.map CandleDto.mirror) kind.mirror maxAgeCandles =
      (findOrderBlock candles kind maxAgeCandles).map Zone.mirror := by
  unfold findOrderBlock
  rw [List.length_map]
  exact findSome?_mirror (fun j => orderBlockAt_mirror candles kind j) _

theorem tradedInto_mirror (zone : Zone) (c : CandleDto) :
    tradedInto zone.mirror c.mirror = tradedInto zone c := by
  simp only [tradedInto, Zone.mirror, CandleDto.mirror, JsNumber.le_neg_neg, Bool.and_comm]

def ConsolidationScan.mirror (s : ConsolidationScan) : ConsolidationScan :=
  ⟨s.run.map CandleDto.mirror, s.runs.map Consolidation.mirror⟩

theorem ConsolidationScan.finish_mirror (s : ConsolidationScan) :
    s.mirror.finish = s.finish.map Consolidation.mirror := by
  have hlows : (s.run.map CandleDto.mirror).map (·.low) = (s.run.map (·.high)).map JsNumber.neg := by
    simp [List.map_map, Function.comp_def, CandleDto.mirror]
  have hhighs : (s.run.map CandleDto.mirror).map (·.high) = (s.run.map (·.low)).map JsNumber.neg := by
    simp [List.map_map, Function.comp_def, CandleDto.mirror]
  simp only [ConsolidationScan.finish, ConsolidationScan.mirror, List.length_map, hlows, hhighs, minOf_neg,
    maxOf_neg]
  split
  · simp [Consolidation.mirror]
  · rfl

theorem ConsolidationScan.step_mirror (atr : JsNumber) (s : ConsolidationScan) (c : CandleDto) :
    s.mirror.step atr c.mirror = (s.step atr c).mirror := by
  unfold ConsolidationScan.step
  rw [anatomy_mirror_range, ConsolidationScan.finish_mirror]
  split
  · simp [ConsolidationScan.mirror]
  · rfl

theorem consolidations_mirror (atr : JsNumber) :
    consolidations (candles.map CandleDto.mirror) atr =
      (consolidations candles atr).map Consolidation.mirror := by
  have hfold : ∀ s : ConsolidationScan,
      (candles.map CandleDto.mirror).foldl (ConsolidationScan.step atr) s.mirror =
        (candles.foldl (ConsolidationScan.step atr) s).mirror := by
    induction candles with
    | nil => exact fun _ => rfl
    | cons c candles ih =>
      intro s
      rw [List.map_cons, List.foldl_cons, List.foldl_cons, ConsolidationScan.step_mirror]
      exact ih _
  unfold consolidations
  rw [← ConsolidationScan.finish_mirror, ← hfold]
  rfl

end Primitives

/-! ## Handlers -/

section Handlers

variable (ctx : HandlerContext)

@[simp] theorem dirMatches_mirror (param : PatternDirection) (direction : Direction) :
    dirMatches param.mirror direction.mirror = dirMatches param direction := by
  cases param <;> cases direction <;> rfl

theorem Direction.mirror_inj {a b : Direction} : a.mirror = b.mirror ↔ a = b := by
  cases a <;> cases b <;> decide

theorem PatternKind.wanted_mirror (kind : PatternKind) : kind.mirror.wanted = kind.wanted.mirror := by
  cases kind <;> rfl

theorem Direction.mirror_eq_short {d : Direction} : d.mirror = .short ↔ d = .long := by
  cases d <;> decide

theorem sweepOf_mirror (side : SweepSide) (minWickRatio : ℚ) (ref : List CandleDto) (anchor : CandleDto) :
    sweepOf side.mirror minWickRatio (ref.map CandleDto.mirror) anchor.mirror =
      sweepOf side minWickRatio ref anchor := by
  have hlows : (ref.map CandleDto.mirror).map (·.low) = (ref.map (·.high)).map JsNumber.neg := by
    simp [List.map_map, Function.comp_def]
  have hhighs : (ref.map CandleDto.mirror).map (·.high) = (ref.map (·.low)).map JsNumber.neg := by
    simp [List.map_map, Function.comp_def]
  cases side <;>
    simp only [sweepOf, SweepSide.mirror, hlows, hhighs, minOf_neg, maxOf_neg, CandleDto.mirror_high,
      CandleDto.mirror_low, CandleDto.mirror_close, JsNumber.lt_neg_neg, anatomy_mirror_upperWick,
      anatomy_mirror_lowerWick, anatomy_mirror_range]

theorem liquiditySweep_mirror (side : SweepSide) (lookbackCandles : ℕ) (minWickRatio : ℚ) :
    liquiditySweep side.mirror lookbackCandles minWickRatio ctx.mirror =
      liquiditySweep side lookbackCandles minWickRatio ctx := by
  have hwanted : (if side.mirror = .above then Direction.short else .long) =
      (if side = .above then Direction.short else .long).mirror := by
    cases side <;> rfl
  unfold liquiditySweep
  simp only [hwanted, HandlerContext.mirror_direction, ne_eq, Direction.mirror_inj, roleCandles_mirror,
    List.length_map, sliceLast_map, List.getLast?_map]
  cases (sliceLast lookbackCandles (roleCandles ctx)).getLast? with
  | none => rfl
  | some anchor =>
    simp only [Option.map_some, anatomy_mirror_range, ← List.map_dropLast, sweepOf_mirror]

theorem bullishBreak_mirror (kind : PivotBreak) (bias : StructureBias) (last : Option Pivot)
    (anchor : CandleDto) :
    bullishBreak kind bias.mirror (last.map Pivot.mirror) anchor.mirror =
      bearishBreak kind bias last anchor := by
  cases kind <;> cases bias <;> cases last <;>
    simp [bullishBreak, bearishBreak, StructureBias.mirror, Pivot.mirror]

theorem bearishBreak_mirror (kind : PivotBreak) (bias : StructureBias) (last : Option Pivot)
    (anchor : CandleDto) :
    bearishBreak kind bias.mirror (last.map Pivot.mirror) anchor.mirror =
      bullishBreak kind bias last anchor := by
  cases kind <;> cases bias <;> cases last <;>
    simp [bullishBreak, bearishBreak, StructureBias.mirror, Pivot.mirror]

theorem not_both_break (kind : PivotBreak) (bias : StructureBias) (lastHigh lastLow : Option Pivot)
    (anchor : CandleDto) (h : bullishBreak kind bias lastHigh anchor = true) :
    bearishBreak kind bias lastLow anchor = false := by
  cases kind <;> cases bias <;> simp_all [bullishBreak, bearishBreak]

theorem pivotBreakEvent_mirror (kind : PivotBreak) (direction : PatternDirection) (lookbackCandles : ℕ)
    (requireDisplacement : Bool) :
    pivotBreakEvent kind direction.mirror lookbackCandles requireDisplacement ctx.mirror =
      pivotBreakEvent kind direction lookbackCandles requireDisplacement ctx := by
  unfold pivotBreakEvent
  simp only [HandlerContext.mirror_direction, dirMatches_mirror, roleCandles_mirror, List.length_map,
    sliceLast_map, List.getLast?_map, structureBias_mirror, pivotHighs_mirror, pivotLows_mirror,
    atrWilder_mirror]
  generalize sliceLast lookbackCandles (roleCandles ctx) = window
  have hrange : (structureBias window).mirror = .range ↔ structureBias window = .range := by
    cases structureBias window <;> decide
  simp only [hrange]
  cases window.getLast? with
  | none => rfl
  | some anchor =>
    simp only [Option.map_some, bullishBreak_mirror, bearishBreak_mirror]
    have hone := not_both_break kind (structureBias window) (pivotHighs window PIVOT_HALF_WIDTH).getLast?
      (pivotLows window PIVOT_HALF_WIDTH).getLast? anchor
    generalize bullishBreak kind (structureBias window) _ anchor = bullishEvent at hone ⊢
    generalize bearishBreak kind (structureBias window) _ anchor = bearishEvent at hone ⊢
    have hevent : (if ctx.direction.mirror = .long then bearishEvent else bullishEvent) =
        (if ctx.direction = .long then bullishEvent else bearishEvent) := by
      cases ctx.direction <;> rfl
    -- the direction the displacement is checked in
    have hdisplaced : ∀ atr, (bullishEvent || bearishEvent) = true →
        isDisplacement anchor.mirror atr DISPLACEMENT_ATR_MULT
            (if bearishEvent then .bullish else .bearish) =
          isDisplacement anchor atr DISPLACEMENT_ATR_MULT (if bullishEvent then .bullish else .bearish) := by
      intro atr hany
      rw [← isDisplacement_mirror anchor atr]
      cases bullishEvent <;> cases bearishEvent <;>
        first | rfl | exact absurd hany (by decide) | exact absurd (hone rfl) (by decide)
    rw [hevent, Bool.or_comm bearishEvent]
    by_cases hcheck : (requireDisplacement && (bullishEvent || bearishEvent)) = true
    · simp only [hcheck, if_true]
      cases atrWilder window 14 with
      | none => rfl
      | some atr => simp only [hdisplaced atr (Bool.and_eq_true_iff.mp hcheck).2]
    · simp only [if_neg hcheck]

theorem breakIndex_mirror (window : List CandleDto) (direction : Direction) (level : JsNumber) (start : ℕ) :
    breakIndex (window.map CandleDto.mirror) direction.mirror level.neg start =
      breakIndex window direction level start := by
  unfold breakIndex
  simp only [List.length_map, List.getElem?_map, Option.any_map]
  cases direction <;> simp only [Direction.mirror, CandleDto.mirror_close, JsNumber.lt_neg_neg]

theorem retested_mirror (window : List CandleDto) (direction : Direction) (level tol : JsNumber)
    (breakIdx maxRetestCandles : ℕ) :
    retested (window.map CandleDto.mirror) direction.mirror level.neg tol breakIdx maxRetestCandles =
      retested window direction level tol breakIdx maxRetestCandles := by
  unfold retested
  simp only [List.length_map, List.getElem?_map, Option.any_map]
  cases direction <;>
    simp only [Direction.mirror, CandleDto.mirror_close, CandleDto.mirror_high, CandleDto.mirror_low,
      JsNumber.lt_neg_neg, JsNumber.sub_neg_left, JsNumber.add_neg_left, JsNumber.le_neg_neg]

theorem pivotRetest_mirror (window : List CandleDto) (direction : Direction) (anchor : CandleDto)
    (maxRetestCandles : ℕ) (retestTolerancePct : ℚ) (pivot : Pivot) :
    pivotRetest (window.map CandleDto.mirror) direction.mirror anchor.mirror maxRetestCandles
        retestTolerancePct pivot.mirror =
      pivotRetest window direction anchor maxRetestCandles retestTolerancePct pivot := by
  unfold pivotRetest
  simp only [Pivot.mirror, breakIndex_mirror, retested_mirror, levelTolerance_neg]
  cases direction <;> simp only [Direction.mirror, CandleDto.mirror_close, JsNumber.le_neg_neg]

theorem breakRetest_mirror (direction : PatternDirection) (maxRetestCandles : ℕ) (retestTolerancePct : ℚ) :
    breakRetest direction.mirror maxRetestCandles retestTolerancePct ctx.mirror =
      breakRetest direction maxRetestCandles retestTolerancePct ctx := by
  unfold breakRetest
  simp only [HandlerContext.mirror_direction, dirMatches_mirror, roleCandles_mirror, List.length_map,
    sliceLast_map, List.getLast?_map]
  generalize sliceLast (maxRetestCandles + 40) (roleCandles ctx) = window
  cases window.getLast? with
  | none => rfl
  | some anchor =>
    have hscan : ∀ pivots : List Pivot, (pivots.map Pivot.mirror).reverse.findSome?
          (pivotRetest (window.map CandleDto.mirror) ctx.direction.mirror anchor.mirror maxRetestCandles
            retestTolerancePct) =
        pivots.reverse.findSome? (pivotRetest window ctx.direction anchor maxRetestCandles
          retestTolerancePct) := by
      intro pivots
      simp only [← List.map_reverse, List.findSome?_map, Function.comp_def, pivotRetest_mirror]
    cases hdirection : ctx.direction with
    | long =>
      simp only [hdirection, Direction.mirror] at hscan
      simp only [Option.map_some, Direction.mirror, pivotLows_mirror, hscan]
    | short =>
      simp only [hdirection, Direction.mirror] at hscan
      simp only [Option.map_some, Direction.mirror, pivotHighs_mirror, hscan]

theorem orderBlock_mirror (kind : PatternKind) (validation : BlockValidation) (maxAgeCandles : ℕ) :
    orderBlock kind.mirror validation maxAgeCandles ctx.mirror =
      orderBlock kind validation maxAgeCandles ctx := by
  unfold orderBlock
  simp only [HandlerContext.mirror_direction, PatternKind.wanted_mirror, ne_eq, Direction.mirror_inj,
    roleCandles_mirror, List.length_map, sliceLast_map, List.getLast?_map, findOrderBlock_mirror]
  generalize sliceLast maxAgeCandles (roleCandles ctx) = window
  cases findOrderBlock window kind maxAgeCandles with
  | none => rfl
  | some zone =>
    cases window.getLast? with
    | none => rfl
    | some anchor =>
      have hindex : zone.mirror.index = zone.index := rfl
      simp only [Option.map_some, hindex, ← List.map_drop, List.any_map, Function.comp_def,
        tradedInto_mirror]
      cases kind <;> cases validation <;>
        simp only [PatternKind.mirror, Zone.mirror, CandleDto.mirror_close, JsNumber.lt_neg_neg]

theorem fvg_mirror (kind : PatternKind) (requireMitigation : Bool) :
    fvg kind.mirror none requireMitigation ctx.mirror = fvg kind none requireMitigation ctx := by
  unfold fvg
  simp only [HandlerContext.mirror_direction, PatternKind.wanted_mirror, ne_eq, Direction.mirror_inj,
    roleCandles_mirror, List.length_map, sliceLast_map, List.getLast?_map, findFvg_mirror]
  generalize sliceLast ZONE_WINDOW (roleCandles ctx) = window
  cases findFvg window kind none with
  | none => rfl
  | some zone =>
    have hindex : zone.mirror.index = zone.index := rfl
    simp only [Option.map_some, hindex, ← List.map_drop, List.any_map, Function.comp_def,
      tradedInto_mirror]
    cases window.getLast? with
    | none => rfl
    | some anchor =>
      cases kind <;>
        simp only [Option.map_some, PatternKind.mirror, Zone.mirror, CandleDto.mirror_close,
          JsNumber.lt_neg_neg]

theorem HandlerContext.mirror_mirror : ctx.mirror.mirror = ctx := by
  have hset : ctx.candles.mirror.mirror = ctx.candles := by
    simp only [CandleSet.mirror, map_mirror_mirror]
  unfold HandlerContext.mirror
  rw [hset, Direction.mirror_mirror]

theorem resistance_mirror (minTouches lookbackCandles : ℕ) :
    resistance minTouches lookbackCandles ctx.mirror = support minTouches lookbackCandles ctx := by
  unfold resistance support
  simp only [HandlerContext.mirror_direction, ne_eq, Direction.mirror_eq_short, roleCandles_mirror,
    List.length_map, sliceLast_map, List.getLast?_map]
  generalize sliceLast lookbackCandles (roleCandles ctx) = window
  have hhighs : (window.map CandleDto.mirror).map (·.high) = (window.map (·.low)).map JsNumber.neg := by
    simp [List.map_map, Function.comp_def]
  have htouches : ∀ level, countTouches (window.map CandleDto.mirror) (JsNumber.neg level) .high =
      countTouches window level .low := fun level => countTouches_mirror window level .low
  cases window.getLast? with
  | none => rfl
  | some anchor =>
    simp only [Option.map_some, hhighs, maxOf_neg, htouches, levelTolerance_neg, CandleDto.mirror_high,
      CandleDto.mirror_close, JsNumber.sub_neg_left, JsNumber.le_neg_neg, JsNumber.lt_neg_neg]

theorem support_mirror (minTouches lookbackCandles : ℕ) :
    support minTouches lookbackCandles ctx.mirror = resistance minTouches lookbackCandles ctx := by
  rw [← resistance_mirror, HandlerContext.mirror_mirror]

theorem supplyIn_mirror (source : ZoneSource) (minTouches : ℕ) (window : List CandleDto)
    (anchor : CandleDto) :
    supplyIn source minTouches (window.map CandleDto.mirror) anchor.mirror =
      demandIn source minTouches window anchor := by
  unfold supplyIn demandIn
  cases source with
  | swing =>
    have htouches : ∀ level, countTouches (window.map CandleDto.mirror) (JsNumber.neg level) .high =
        countTouches window level .low := fun level => countTouches_mirror window level .low
    simp only [CandleDto.mirror_close, lastPivotHighAbove_mirror]
    cases lastPivotLowBelow window anchor.close with
    | none => rfl
    | some level =>
      simp only [Option.map_some, Pivot.mirror, htouches, levelTolerance_neg, CandleDto.mirror_high,
        JsNumber.sub_neg_left, JsNumber.le_neg_neg, JsNumber.lt_neg_neg]
  | order_block =>
    have hblock : findOrderBlock (window.map CandleDto.mirror) .bearish SD_WINDOW =
        (findOrderBlock window .bullish SD_WINDOW).map Zone.mirror := findOrderBlock_mirror window .bullish _
    simp only [hblock]
    cases findOrderBlock window .bullish SD_WINDOW with
    | none => rfl
    | some zone =>
      simp only [Option.map_some, Zone.mirror, CandleDto.mirror_close, CandleDto.mirror_high,
        JsNumber.le_neg_neg]
  | consolidation =>
    simp only [sliceLast_map, atrWilder_mirror]
    cases atrWilder (sliceLast 50 window) 14 with
    | none => rfl
    | some atr =>
      simp only [consolidations_mirror, List.filter_map, Function.comp_def, Consolidation.mirror,
        CandleDto.mirror_close, JsNumber.lt_neg_neg, List.getLast?_map]
      cases ((consolidations window atr).filter (fun r => JsNumber.lt r.top anchor.close)).getLast? with
      | none => rfl
      | some underneath =>
        simp only [Option.map_some, Consolidation.mirror, CandleDto.mirror_high, JsNumber.le_neg_neg]

theorem supply_mirror (source : ZoneSource) (minTouches : ℕ) :
    supply source minTouches ctx.mirror = demand source minTouches ctx := by
  unfold supply demand
  simp only [HandlerContext.mirror_direction, ne_eq, Direction.mirror_eq_short, roleCandles_mirror,
    List.length_map, sliceLast_map, List.getLast?_map]
  cases (sliceLast SD_WINDOW (roleCandles ctx)).getLast? with
  | none => rfl
  | some anchor => simp only [Option.map_some, supplyIn_mirror]

theorem demand_mirror (source : ZoneSource) (minTouches : ℕ) :
    demand source minTouches ctx.mirror = supply source minTouches ctx := by
  rw [← supply_mirror, HandlerContext.mirror_mirror]

theorem rejectionCandle_mirror (direction : PatternKind) (minWickBodyRatio : ℚ) :
    rejectionCandle direction.mirror minWickBodyRatio ctx.mirror =
      rejectionCandle direction minWickBodyRatio ctx := by
  unfold rejectionCandle
  simp only [HandlerContext.mirror_direction, PatternKind.wanted_mirror, ne_eq, Direction.mirror_inj,
    roleCandles_mirror, List.getLast?_map]
  cases (roleCandles ctx).getLast? with
  | none => rfl
  | some anchor =>
    cases direction <;>
      simp only [Option.map_some, PatternKind.mirror, anatomy_mirror_body, anatomy_mirror_range,
        anatomy_mirror_lowerWick, anatomy_mirror_upperWick]

theorem engulfingCandle_mirror (direction : PatternDirection) (minBodyRatio : Option ℚ) :
    engulfingCandle direction.mirror minBodyRatio ctx.mirror =
      engulfingCandle direction minBodyRatio ctx := by
  unfold engulfingCandle
  simp only [HandlerContext.mirror_direction, dirMatches_mirror, roleCandles_mirror, ← List.map_reverse]
  rcases (roleCandles ctx).reverse with _ | ⟨anchor, _ | ⟨prev, rest⟩⟩
  · rfl
  · rfl
  · have hbullish : isEngulfing prev.mirror anchor.mirror .bullish minBodyRatio =
        isEngulfing prev anchor .bearish minBodyRatio := isEngulfing_mirror prev anchor .bearish _
    have hbearish : isEngulfing prev.mirror anchor.mirror .bearish minBodyRatio =
        isEngulfing prev anchor .bullish minBodyRatio := isEngulfing_mirror prev anchor .bullish _
    cases ctx.direction <;> simp only [List.map_cons, Direction.mirror, hbullish, hbearish]

theorem displacement_mirror (direction : PatternDirection) (atrPeriod : ℕ) (minAtrMultiple : ℚ) :
    displacement direction.mirror atrPeriod minAtrMultiple ctx.mirror =
      displacement direction atrPeriod minAtrMultiple ctx := by
  unfold displacement displaced
  simp only [HandlerContext.mirror_direction, dirMatches_mirror, roleCandles_mirror, atrWilder_mirror,
    List.getLast?_map]
  cases atrWilder (roleCandles ctx) atrPeriod with
  | none => rfl
  | some atr =>
    cases (roleCandles ctx).getLast? with
    | none => rfl
    | some anchor =>
      simp only [Option.map_some, Option.bind_eq_bind, Option.bind_some, isDisplacement_mirror]

theorem sessionRequirement_mirror (sessions : List SessionName) (mode : SessionMode)
    (timezone : SessionTimezone) :
    sessionRequirement sessions mode timezone ctx.mirror = sessionRequirement sessions mode timezone ctx := by
  unfold sessionRequirement
  rw [roleCandles_mirror, List.getLast?_map]
  cases (roleCandles ctx).getLast? <;> rfl

theorem volatilityFilter_mirror (metric : VolatilityMetric) (period : ℕ) (min : ℚ) (max : Option ℚ) :
    volatilityFilter metric period min max ctx.mirror = volatilityFilter metric period min max ctx := by
  have hmetric : volatilityOf metric period (roleCandles ctx.mirror) =
      volatilityOf metric period (roleCandles ctx) := by
    rw [roleCandles_mirror]
    cases metric with
    | atr => exact atrWilder_mirror _ _
    | body_range =>
      simp only [volatilityOf, List.length_map, sliceLast_map, List.foldl_map, CandleDto.mirror_close,
        CandleDto.mirror_open, JsNumber.sub_neg_neg, JsNumber.abs_sub_symm (CandleDto.open _)]
  unfold volatilityFilter
  rw [hmetric]

theorem htfAlignment_mirror (direction : PatternDirection) (source : AlignmentSource) :
    htfAlignment direction.mirror source ctx.mirror = htfAlignment direction source ctx := by
  unfold htfAlignment
  simp only [HandlerContext.mirror_direction, dirMatches_mirror, alignmentCandles_mirror, sliceLast_map,
    List.getLast?_map, structureBias_mirror]
  generalize sliceLast 100 (alignmentCandles ctx) = window
  have hcloses : (window.map CandleDto.mirror).map (·.close) = (window.map (·.close)).map JsNumber.neg := by
    simp [List.map_map, Function.comp_def]
  cases window.getLast? with
  | none => rfl
  | some anchor =>
    have hbias : (if (structureBias window).mirror = .range then EvaluationOutcomeStatus.insufficient_data
          else verdict ((structureBias window).mirror =
            (if ctx.direction.mirror = .long then .bullish else .bearish))) =
        (if structureBias window = .range then EvaluationOutcomeStatus.insufficient_data
          else verdict (structureBias window = (if ctx.direction = .long then .bullish else .bearish))) := by
      cases structureBias window <;> cases ctx.direction <;> rfl
    cases source with
    | trend =>
      simp only [Option.map_some, hcloses, sma_neg]
      cases sma (window.map (·.close)) 20 with
      | none => rfl
      | some mean =>
        have hbeyond : (if ctx.direction.mirror = .long then JsNumber.lt mean.neg anchor.mirror.close
              else JsNumber.lt anchor.mirror.close mean.neg) =
            (if ctx.direction = .long then JsNumber.lt mean anchor.close
              else JsNumber.lt anchor.close mean) := by
          cases ctx.direction <;> simp [Direction.mirror]
        exact if_congr Iff.rfl rfl (congrArg verdict hbeyond)
    | «structure» => exact if_congr Iff.rfl rfl hbias
    | bias => exact if_congr Iff.rfl rfl hbias

/-- **Long and short are mirror images.**  A condition on candles and its mirror image on the mirrored
    candles have the same status for opposite directions; the reward:risk condition and a minimum gap
    size, which is measured against the price, are apart. -/
theorem handlers_mirror (params : ConditionParams) (hrr : ∀ minRr, params ≠ .rr_requirement minRr)
    (hgap : ∀ kind pct requireMitigation, params ≠ .fvg kind (some pct) requireMitigation) :
    conditionHandler params.mirror ctx.mirror = conditionHandler params ctx := by
  cases params with
  | liquidity_sweep side lookbackCandles minWickRatio =>
    exact liquiditySweep_mirror ctx side lookbackCandles minWickRatio
  | choch direction lookbackCandles requireDisplacement =>
    exact pivotBreakEvent_mirror ctx .choch direction lookbackCandles requireDisplacement
  | bos direction lookbackCandles => exact pivotBreakEvent_mirror ctx .bos direction lookbackCandles false
  | break_retest direction maxRetestCandles retestTolerancePct =>
    exact breakRetest_mirror ctx direction maxRetestCandles retestTolerancePct
  | order_block kind validation maxAgeCandles => exact orderBlock_mirror ctx kind validation maxAgeCandles
  | fvg kind minGapSizePct requireMitigation =>
    cases minGapSizePct with
    | none => exact fvg_mirror ctx kind requireMitigation
    | some pct => exact absurd rfl (hgap kind pct requireMitigation)
  | support minTouches lookbackCandles => exact resistance_mirror ctx minTouches lookbackCandles
  | resistance minTouches lookbackCandles => exact support_mirror ctx minTouches lookbackCandles
  | supply source minTouches => exact demand_mirror ctx source minTouches
  | demand source minTouches => exact supply_mirror ctx source minTouches
  | rejection_candle direction minWickBodyRatio =>
    exact rejectionCandle_mirror ctx direction minWickBodyRatio
  | engulfing_candle direction minBodyRatio => exact engulfingCandle_mirror ctx direction minBodyRatio
  | displacement direction atrPeriod minAtrMultiple =>
    exact displacement_mirror ctx direction atrPeriod minAtrMultiple
  | rr_requirement minRr => exact absurd rfl (hrr minRr)
  | session_requirement sessions mode timezone =>
    exact sessionRequirement_mirror ctx sessions mode timezone
  | news_filter => rfl
  | volatility_filter metric period min max => exact volatilityFilter_mirror ctx metric period min max
  | spread_filter => rfl
  | htf_alignment direction source => exact htfAlignment_mirror ctx direction source

end Handlers

/-- One setup candle with a long lower wick, seen from the long side. -/
def pinBar : HandlerContext where
  candles := ⟨[], [⟨0, .fin 10, .fin 11, .fin 4, .fin 11, none⟩], []⟩
  timeframeRole := .any
  direction := .long
  risk := ⟨2, .structure, 1, .pips, .rr, 1, 2, 3, 65⟩
  candidate := none

/-- A bullish rejection, and the bearish rejection of its mirror image. -/
theorem handlers_mirror_rejection :
    conditionHandler (.rejection_candle .bullish 2) pinBar = .satisfied ∧
      conditionHandler (ConditionParams.rejection_candle .bullish 2).mirror pinBar.mirror = .satisfied := by
  have hlong : conditionHandler (.rejection_candle .bullish 2) pinBar = .satisfied := by decide +kernel
  refine ⟨hlong, ?_⟩
  rw [handlers_mirror pinBar (.rejection_candle .bullish 2) nofun nofun]
  exact hlong

end VeltrixEye
