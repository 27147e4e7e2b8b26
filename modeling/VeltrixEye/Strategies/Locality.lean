import VeltrixEye.Lib.Suffix
import VeltrixEye.Strategies.Classification

/-!
# How far back a condition reads

Every handler but the two that smooth the average true range over the whole series reads a bounded
number of the last candles of one role (`ConditionParams.reach`): given any longer series with the
same last candles it returns the same status.
-/

namespace VeltrixEye

/-- The handler's average true range runs over the whole series it is given. -/
def ConditionParams.unbounded : ConditionParams → Bool
  | .displacement _ _ _ => true
  | .volatility_filter .atr _ _ _ => true
  | _ => false

/-- The number of last candles the handler reads. -/
def ConditionParams.reach : ConditionParams → ℕ
  | .liquidity_sweep _ lookbackCandles _ => max (MIN_CANDLES + 1) lookbackCandles
  | .choch _ lookbackCandles _ => max (MIN_CANDLES + 1) lookbackCandles
  | .bos _ lookbackCandles => max (MIN_CANDLES + 1) lookbackCandles
  | .break_retest _ maxRetestCandles _ => maxRetestCandles + 40
  | .order_block _ _ maxAgeCandles => max MIN_CANDLES maxAgeCandles
  | .fvg _ _ _ => ZONE_WINDOW
  | .support _ lookbackCandles => max (MIN_CANDLES + 5) lookbackCandles
  | .resistance _ lookbackCandles => max (MIN_CANDLES + 5) lookbackCandles
  | .supply _ _ => SD_WINDOW
  | .demand _ _ => SD_WINDOW
  | .rejection_candle _ _ => 1
  | .engulfing_candle _ _ => 2
  | .session_requirement _ _ _ => 1
  | .volatility_filter _ period _ _ => period
  | .htf_alignment _ _ => 100
  | .displacement _ _ _ => 0
  | .rr_requirement _ => 0
  | .news_filter => 0
  | .spread_filter => 0

/-- The window sizes are positive, as every schema requires. -/
def ConditionParams.Positive : ConditionParams → Prop
  | .liquidity_sweep _ lookbackCandles _ => 0 < lookbackCandles
  | .choch _ lookbackCandles _ => 0 < lookbackCandles
  | .bos _ lookbackCandles => 0 < lookbackCandles
  | .order_block _ _ maxAgeCandles => 0 < maxAgeCandles
  | .support _ lookbackCandles => 0 < lookbackCandles
  | .resistance _ lookbackCandles => 0 < lookbackCandles
  | .volatility_filter _ period _ _ => 0 < period
  | _ => True

/-- The series a handler reads. -/
def handlerSeries (params : ConditionParams) (ctx : HandlerContext) : List CandleDto :=
  match params with
  | .htf_alignment _ _ => alignmentCandles ctx
  | _ => roleCandles ctx

/-- Two contexts that differ in their candles only. -/
structure HandlerContext.SameInputs (ctx ctx' : HandlerContext) : Prop where
  timeframeRole : ctx.timeframeRole = ctx'.timeframeRole
  direction : ctx.direction = ctx'.direction
  risk : ctx.risk = ctx'.risk
  candidate : ctx.candidate = ctx'.candidate

theorem sliceLast_local {A B : List CandleDto} (h : A <:+ B) {n : ℕ} (hpos : 0 < n)
    (hn : n ≤ A.length) : sliceLast n A = sliceLast n B := by
  unfold sliceLast
  rw [if_neg (by omega), if_neg (by omega), Suffix.rtake_eq_of_suffix h hn]

section Handlers

variable {ctx ctx' : HandlerContext} (hsame : ctx.SameInputs ctx')
  (hsuffix : roleCandles ctx <:+ roleCandles ctx')

include hsuffix in
/-- Both series are long enough for a handler that asks for at most the candles there are. -/
theorem long_local {n : ℕ} (hn : n ≤ (roleCandles ctx).length) :
    ¬ (roleCandles ctx).length < n ∧ ¬ (roleCandles ctx').length < n :=
  ⟨by omega, by have := hsuffix.length_le; omega⟩

include hsame hsuffix

theorem liquiditySweep_local (side : SweepSide) {lookbackCandles : ℕ} (minWickRatio : ℚ)
    (hpos : 0 < lookbackCandles)
    (hreach : max (MIN_CANDLES + 1) lookbackCandles ≤ (roleCandles ctx).length) :
    liquiditySweep side lookbackCandles minWickRatio ctx =
      liquiditySweep side lookbackCandles minWickRatio ctx' := by
  have hwindow := sliceLast_local hsuffix hpos (by omega)
  obtain ⟨hlong, hlong'⟩ := long_local hsuffix (n := MIN_CANDLES + 1) (by omega)
  unfold liquiditySweep
  dsimp only
  rw [hsame.direction, hwindow, if_neg hlong, if_neg hlong']

theorem pivotBreakEvent_local (kind : PivotBreak) (direction : PatternDirection)
    {lookbackCandles : ℕ} (requireDisplacement : Bool) (hpos : 0 < lookbackCandles)
    (hreach : max (MIN_CANDLES + 1) lookbackCandles ≤ (roleCandles ctx).length) :
    pivotBreakEvent kind direction lookbackCandles requireDisplacement ctx =
      pivotBreakEvent kind direction lookbackCandles requireDisplacement ctx' := by
  have hwindow := sliceLast_local hsuffix hpos (by omega)
  obtain ⟨hlong, hlong'⟩ := long_local hsuffix (n := MIN_CANDLES + 1) (by omega)
  unfold pivotBreakEvent
  dsimp only
  rw [hsame.direction, hwindow, if_neg hlong, if_neg hlong']

theorem breakRetest_local (direction : PatternDirection) (maxRetestCandles : ℕ)
    (retestTolerancePct : ℚ) (hreach : maxRetestCandles + 40 ≤ (roleCandles ctx).length) :
    breakRetest direction maxRetestCandles retestTolerancePct ctx =
      breakRetest direction maxRetestCandles retestTolerancePct ctx' := by
  have hwindow := sliceLast_local hsuffix (n := maxRetestCandles + 40) (by omega) hreach
  have hmin : MIN_CANDLES + 2 ≤ 40 := by decide
  obtain ⟨hlong, hlong'⟩ := long_local hsuffix (n := MIN_CANDLES + 2) (by omega)
  unfold breakRetest
  dsimp only
  rw [hsame.direction, hwindow, if_neg hlong, if_neg hlong']

theorem orderBlock_local (kind : PatternKind) (validation : BlockValidation) {maxAgeCandles : ℕ}
    (hpos : 0 < maxAgeCandles) (hreach : max MIN_CANDLES maxAgeCandles ≤ (roleCandles ctx).length) :
    orderBlock kind validation maxAgeCandles ctx = orderBlock kind validation maxAgeCandles ctx' := by
  have hwindow := sliceLast_local hsuffix hpos (by omega)
  obtain ⟨hlong, hlong'⟩ := long_local hsuffix (n := MIN_CANDLES) (by omega)
  unfold orderBlock
  dsimp only
  rw [hsame.direction, hwindow, if_neg hlong, if_neg hlong']

theorem fvg_local (kind : PatternKind) (minGapSizePct : Option ℚ) (requireMitigation : Bool)
    (hreach : ZONE_WINDOW ≤ (roleCandles ctx).length) :
    fvg kind minGapSizePct requireMitigation ctx = fvg kind minGapSizePct requireMitigation ctx' := by
  have hwindow := sliceLast_local hsuffix (by decide) hreach
  have hmin : 3 ≤ ZONE_WINDOW := by decide
  obtain ⟨hlong, hlong'⟩ := long_local hsuffix (n := 3) (by omega)
  unfold fvg
  dsimp only
  rw [hsame.direction, hwindow, if_neg hlong, if_neg hlong']

theorem support_local (minTouches : ℕ) {lookbackCandles : ℕ} (hpos : 0 < lookbackCandles)
    (hreach : max (MIN_CANDLES + 5) lookbackCandles ≤ (roleCandles ctx).length) :
    support minTouches lookbackCandles ctx = support minTouches lookbackCandles ctx' := by
  have hwindow := sliceLast_local hsuffix hpos (by omega)
  obtain ⟨hlong, hlong'⟩ := long_local hsuffix (n := MIN_CANDLES + 5) (by omega)
  unfold support
  dsimp only
  rw [hsame.direction, hwindow, if_neg hlong, if_neg hlong']

theorem resistance_local (minTouches : ℕ) {lookbackCandles : ℕ} (hpos : 0 < lookbackCandles)
    (hreach : max (MIN_CANDLES + 5) lookbackCandles ≤ (roleCandles ctx).length) :
    resistance minTouches lookbackCandles ctx = resistance minTouches lookbackCandles ctx' := by
  have hwindow := sliceLast_local hsuffix hpos (by omega)
  obtain ⟨hlong, hlong'⟩ := long_local hsuffix (n := MIN_CANDLES + 5) (by omega)
  unfold resistance
  dsimp only
  rw [hsame.direction, hwindow, if_neg hlong, if_neg hlong']

theorem supply_local (source : ZoneSource) (minTouches : ℕ)
    (hreach : SD_WINDOW ≤ (roleCandles ctx).length) :
    supply source minTouches ctx = supply source minTouches ctx' := by
  have hwindow := sliceLast_local hsuffix (by decide) hreach
  have hmin : MIN_CANDLES + 5 ≤ SD_WINDOW := by decide
  obtain ⟨hlong, hlong'⟩ := long_local hsuffix (n := MIN_CANDLES + 5) (by omega)
  unfold supply
  dsimp only
  rw [hsame.direction, hwindow, if_neg hlong, if_neg hlong']

theorem demand_local (source : ZoneSource) (minTouches : ℕ)
    (hreach : SD_WINDOW ≤ (roleCandles ctx).length) :
    demand source minTouches ctx = demand source minTouches ctx' := by
  have hwindow := sliceLast_local hsuffix (by decide) hreach
  have hmin : MIN_CANDLES + 5 ≤ SD_WINDOW := by decide
  obtain ⟨hlong, hlong'⟩ := long_local hsuffix (n := MIN_CANDLES + 5) (by omega)
  unfold demand
  dsimp only
  rw [hsame.direction, hwindow, if_neg hlong, if_neg hlong']

omit hsame in
theorem getLast?_local (hreach : 1 ≤ (roleCandles ctx).length) :
    (roleCandles ctx).getLast? = (roleCandles ctx').getLast? :=
  Suffix.getLast?_eq_of_suffix hsuffix (List.ne_nil_of_length_pos hreach)

theorem rejectionCandle_local (direction : PatternKind) (minWickBodyRatio : ℚ)
    (hreach : 1 ≤ (roleCandles ctx).length) :
    rejectionCandle direction minWickBodyRatio ctx =
      rejectionCandle direction minWickBodyRatio ctx' := by
  unfold rejectionCandle
  rw [hsame.direction, getLast?_local hsuffix hreach]

omit hsame in
theorem sessionRequirement_local (sessions : List SessionName) (mode : SessionMode)
    (timezone : SessionTimezone) (hreach : 1 ≤ (roleCandles ctx).length) :
    sessionRequirement sessions mode timezone ctx =
      sessionRequirement sessions mode timezone ctx' := by
  unfold sessionRequirement
  rw [getLast?_local hsuffix hreach]

theorem engulfingCandle_local (direction : PatternDirection) (minBodyRatio : Option ℚ)
    (hreach : 2 ≤ (roleCandles ctx).length) :
    engulfingCandle direction minBodyRatio ctx = engulfingCandle direction minBodyRatio ctx' := by
  obtain ⟨front, hfront⟩ := hsuffix
  have hreverse : (roleCandles ctx').reverse = (roleCandles ctx).reverse ++ front.reverse := by
    rw [← hfront, List.reverse_append]
  have hlength : (roleCandles ctx).reverse.length = (roleCandles ctx).length :=
    List.length_reverse
  unfold engulfingCandle
  rw [hreverse, hsame.direction]
  rcases hlast : (roleCandles ctx).reverse with _ | ⟨anchor, _ | ⟨prev, rest⟩⟩
  · rw [hlast, List.length_nil] at hlength
    omega
  · rw [hlast, List.length_singleton] at hlength
    omega
  · rfl

omit hsame in
theorem volatilityFilter_local {period : ℕ} (min : ℚ) (max : Option ℚ) (hpos : 0 < period)
    (hreach : period ≤ (roleCandles ctx).length) :
    volatilityFilter .body_range period min max ctx =
      volatilityFilter .body_range period min max ctx' := by
  have hwindow := sliceLast_local hsuffix hpos hreach
  obtain ⟨hlong, hlong'⟩ := long_local hsuffix (n := period) (by omega)
  unfold volatilityFilter volatilityOf
  dsimp only
  rw [hwindow, if_neg hlong, if_neg hlong']

end Handlers

theorem htfAlignment_local {ctx ctx' : HandlerContext} (hsame : ctx.SameInputs ctx')
    (direction : PatternDirection) (source : AlignmentSource)
    (hsuffix : alignmentCandles ctx <:+ alignmentCandles ctx')
    (hreach : 100 ≤ (alignmentCandles ctx).length) :
    htfAlignment direction source ctx = htfAlignment direction source ctx' := by
  have hwindow := sliceLast_local hsuffix (by decide) hreach
  unfold htfAlignment
  dsimp only
  rw [hwindow, hsame.direction]

/-- **A handler reads only the last candles.** -/
theorem handler_local {params : ConditionParams} (hbounded : params.unbounded = false)
    (hpos : params.Positive) {ctx ctx' : HandlerContext} (hsame : ctx.SameInputs ctx')
    (hsuffix : handlerSeries params ctx <:+ handlerSeries params ctx')
    (hreach : params.reach ≤ (handlerSeries params ctx).length) :
    conditionHandler params ctx = conditionHandler params ctx' := by
  cases params with
  | liquidity_sweep side lookbackCandles minWickRatio =>
    exact liquiditySweep_local hsame hsuffix side minWickRatio hpos hreach
  | choch direction lookbackCandles requireDisplacement =>
    exact pivotBreakEvent_local hsame hsuffix .choch direction requireDisplacement hpos hreach
  | bos direction lookbackCandles =>
    exact pivotBreakEvent_local hsame hsuffix .bos direction false hpos hreach
  | break_retest direction maxRetestCandles retestTolerancePct =>
    exact breakRetest_local hsame hsuffix direction maxRetestCandles retestTolerancePct hreach
  | order_block kind validation maxAgeCandles =>
    exact orderBlock_local hsame hsuffix kind validation hpos hreach
  | fvg kind minGapSizePct requireMitigation =>
    exact fvg_local hsame hsuffix kind minGapSizePct requireMitigation hreach
  | support minTouches lookbackCandles =>
    exact support_local hsame hsuffix minTouches hpos hreach
  | resistance minTouches lookbackCandles =>
    exact resistance_local hsame hsuffix minTouches hpos hreach
  | supply source minTouches => exact supply_local hsame hsuffix source minTouches hreach
  | demand source minTouches => exact demand_local hsame hsuffix source minTouches hreach
  | rejection_candle direction minWickBodyRatio =>
    exact rejectionCandle_local hsame hsuffix direction minWickBodyRatio hreach
  | engulfing_candle direction minBodyRatio =>
    exact engulfingCandle_local hsame hsuffix direction minBodyRatio hreach
  | displacement direction atrPeriod minAtrMultiple => cases hbounded
  | rr_requirement minRr =>
    simp only [conditionHandler, rrRequirement, hsame.candidate, hsame.risk]
  | session_requirement sessions mode timezone =>
    exact sessionRequirement_local hsuffix sessions mode timezone hreach
  | news_filter => rfl
  | volatility_filter metric period min max =>
    cases metric with
    | atr => cases hbounded
    | body_range => exact volatilityFilter_local hsuffix min max hpos hreach
  | spread_filter => rfl
  | htf_alignment direction source =>
    exact htfAlignment_local hsame direction source hsuffix hreach

theorem handler_congr (params : ConditionParams) {ctx ctx' : HandlerContext}
    (hsame : ctx.SameInputs ctx') (hseries : handlerSeries params ctx = handlerSeries params ctx') :
    conditionHandler params ctx = conditionHandler params ctx' := by
  have hdirection := hsame.direction
  cases params with
  | rr_requirement minRr =>
    simp only [conditionHandler, rrRequirement, hsame.candidate, hsame.risk]
  | htf_alignment direction source =>
    replace hseries : alignmentCandles ctx = alignmentCandles ctx' := hseries
    simp only [conditionHandler, htfAlignment, hseries, hdirection]
  | _ =>
    replace hseries : roleCandles ctx = roleCandles ctx' := hseries
    simp only [conditionHandler, liquiditySweep, choch, bos, pivotBreakEvent, breakRetest, orderBlock,
      fvg, support, resistance, supply, demand, rejectionCandle, engulfingCandle, displacement,
      sessionRequirement, volatilityFilter, hseries, hdirection]

/-! ## Parsed parameters -/

/-- The registered type of parsed parameters. -/
def ConditionParams.type : ConditionParams → ConditionType
  | .liquidity_sweep _ _ _ => .liquidity_sweep
  | .choch _ _ _ => .choch
  | .bos _ _ => .bos
  | .break_retest _ _ _ => .break_retest
  | .order_block _ _ _ => .order_block
  | .fvg _ _ _ => .fvg
  | .support _ _ => .support
  | .resistance _ _ => .resistance
  | .supply _ _ => .supply
  | .demand _ _ => .demand
  | .rejection_candle _ _ => .rejection_candle
  | .engulfing_candle _ _ => .engulfing_candle
  | .displacement _ _ _ => .displacement
  | .rr_requirement _ => .rr_requirement
  | .session_requirement _ _ _ => .session_requirement
  | .news_filter => .news_filter
  | .volatility_filter _ _ _ _ => .volatility_filter
  | .spread_filter => .spread_filter
  | .htf_alignment _ _ => .htf_alignment

theorem natField_pos {lo hi dflt n : ℕ} {v : JsValue} (h : natField lo hi dflt v = some n)
    (hlo : 0 < lo) (hdflt : 0 < dflt) : 0 < n := by
  unfold natField at h
  split at h
  · cases h
    exact hdflt
  · split at h
    · rename_i hbounds
      cases h
      omega
    · cases h
  · cases h

theorem paramFields_spec {type : ConditionType} {get : String → JsValue} {params : ConditionParams}
    (h : paramFields type get = some params) : params.type = type ∧ params.Positive := by
  unfold paramFields at h
  cases type with
  | volatility_filter =>
    simp only [Option.bind_eq_bind, Option.bind_eq_some_iff] at h
    obtain ⟨metric, -, period, hperiod, min, -, max, -, h⟩ := h
    split at h
    · cases h
    · cases h
      exact ⟨rfl, natField_pos hperiod (by omega) (by omega)⟩
  | _ =>
    simp only [Option.bind_eq_bind, Option.bind_eq_some_iff] at h
    repeat obtain ⟨_, _, h⟩ := h
    first
    | exact ⟨rfl, trivial⟩
    | exact ⟨rfl, natField_pos (by assumption) (by omega) (by omega)⟩

theorem parseParams_spec {name : String} {raw : List (String × JsValue)} {params : ConditionParams}
    (h : parseParams name raw = some params) :
    getConditionType name = some params.type ∧ params.Positive ∧
      paramFields params.type (JsValue.lookup raw) = some params := by
  simp only [parseParams, paramSchema, Option.bind_eq_bind, Option.bind_eq_some_iff, strictFields]
    at h
  obtain ⟨type, htype, fields, hfields, parsed, hparsed, -, -, h⟩ := h
  cases h
  split at hfields
  · cases hfields
    obtain ⟨rfl, hpos⟩ := paramFields_spec hparsed
    exact ⟨htype, hpos, hparsed⟩
  · cases hfields

/-- The name a type is registered under. -/
def ConditionType.name : ConditionType → String
  | .liquidity_sweep => "liquidity_sweep"
  | .choch => "choch"
  | .bos => "bos"
  | .break_retest => "break_retest"
  | .order_block => "order_block"
  | .fvg => "fvg"
  | .support => "support"
  | .resistance => "resistance"
  | .supply => "supply"
  | .demand => "demand"
  | .rejection_candle => "rejection_candle"
  | .engulfing_candle => "engulfing_candle"
  | .displacement => "displacement"
  | .rr_requirement => "rr_requirement"
  | .session_requirement => "session_requirement"
  | .news_filter => "news_filter"
  | .volatility_filter => "volatility_filter"
  | .spread_filter => "spread_filter"
  | .htf_alignment => "htf_alignment"

theorem getConditionType_name {name : String} {type : ConditionType}
    (h : getConditionType name = some type) : name = type.name := by
  have hregistry : ∀ entry ∈ CONDITION_TYPE_REGISTRY, entry.1 = entry.2.name := by decide
  unfold getConditionType at h
  obtain ⟨entry, hfind, rfl⟩ := Option.map_eq_some_iff.mp h
  have hname : entry.1 = name := by simpa using List.find?_some hfind
  rw [← hname]
  exact hregistry entry (List.mem_of_find?_eq_some hfind)

theorem getConditionType_alignment {name : String} :
    getConditionType name = some .htf_alignment ↔ name = "htf_alignment" := by
  refine ⟨getConditionType_name, ?_⟩
  rintro rfl
  decide

/-! ## One condition -/

@[simp] theorem CandleSet.of_set (candles : CandleSet) (role : TimeframeRole)
    (series : List CandleDto) : (candles.set role series).of role = series := by
  cases role <;> rfl

theorem conditionCandles_of (closed : CandleSet) (role : TimeframeRole) (offset : ℕ) :
    (conditionCandles closed role offset).of role = (closed.of role).rdrop offset := by
  unfold conditionCandles
  split
  · rename_i h
    rw [h, List.rdrop_zero]
  · exact CandleSet.of_set _ _ _

theorem handlerSeries_eq (ctx : DirectionContext) {c : StoredCondition} {params : ConditionParams}
    (hparse : parseParams c.conditionType c.params = some params) :
    handlerSeries params (ctx.handlerContext c) =
      (ctx.closed.of c.role).rdrop (anchorOffsetOf c.params) := by
  rw [← conditionCandles_of]
  obtain ⟨htype, -, -⟩ := parseParams_spec hparse
  rcases hrole : c.timeframeRole with r | _
  · have hr : c.role = r := by simp [StoredCondition.role, StoredCondition.view, conditionRole, hrole]
    have hseries : roleCandles (ctx.handlerContext c) =
        (conditionCandles ctx.closed c.role (anchorOffsetOf c.params)).of c.role := by
      simp [roleCandles, DirectionContext.handlerContext, hrole, hr]
    cases params with
    | htf_alignment direction source =>
      simp only [handlerSeries, alignmentCandles]
      rw [show (ctx.handlerContext c).timeframeRole = .role r from hrole]
      exact hseries
    | _ => exact hseries
  · by_cases halignment : params.type = .htf_alignment
    · have hname := getConditionType_alignment.mp (halignment ▸ htype)
      have hr : c.role = .htf_bias := by
        simp [StoredCondition.role, StoredCondition.view, conditionRole, hrole, hname]
      cases params with
      | htf_alignment direction source =>
        simp [handlerSeries, alignmentCandles, DirectionContext.handlerContext, hrole, hr,
          CandleSet.of]
      | _ => cases halignment
    · have hname : c.conditionType ≠ "htf_alignment" := by
        intro h
        rw [getConditionType_alignment.mpr h] at htype
        exact halignment (Option.some.inj htype).symm
      have hr : c.role = .setup := by
        simp [StoredCondition.role, StoredCondition.view, conditionRole, hrole, hname]
      have hseries : roleCandles (ctx.handlerContext c) =
          (conditionCandles ctx.closed c.role (anchorOffsetOf c.params)).of c.role := by
        simp [roleCandles, DirectionContext.handlerContext, hrole, hr, CandleSet.of]
      cases params with
      | htf_alignment direction source => exact absurd rfl halignment
      | _ => exact hseries

/-- Two contexts that differ in their candles only. -/
structure DirectionContext.SameInputs (ctx ctx' : DirectionContext) : Prop where
  direction : ctx.direction = ctx'.direction
  risk : ctx.risk = ctx'.risk
  candidate : ctx.candidate = ctx'.candidate

theorem DirectionContext.SameInputs.handlerContext {ctx ctx' : DirectionContext}
    (h : ctx.SameInputs ctx') (c : StoredCondition) :
    (ctx.handlerContext c).SameInputs (ctx'.handlerContext c) :=
  ⟨rfl, h.direction, h.risk, h.candidate⟩

/-- The candles of a condition's role hold its offset and its reach, or are all there are. -/
def ReachesBack (closed complete : List CandleDto) (c : StoredCondition) : Prop :=
  closed <:+ complete ∧ (closed = complete ∨
    ∀ params, parseParams c.conditionType c.params = some params →
      params.unbounded = false ∧ anchorOffsetOf c.params + params.reach ≤ closed.length)

/-- **A stored condition reads only the last candles of its role.** -/
theorem conditionStatus_local {ctx ctx' : DirectionContext} (hsame : ctx.SameInputs ctx')
    {c : StoredCondition} (hreaches : ReachesBack (ctx.closed.of c.role) (ctx'.closed.of c.role) c) :
    conditionStatus ctx c = conditionStatus ctx' c := by
  unfold conditionStatus
  rcases hparse : parseParams c.conditionType c.params with _ | params
  · rfl
  · obtain ⟨hsuffix, hall | hreach⟩ := hreaches
    · refine handler_congr params (hsame.handlerContext c) ?_
      rw [handlerSeries_eq ctx hparse, handlerSeries_eq ctx' hparse, hall]
    · obtain ⟨hbounded, hlength⟩ := hreach params hparse
      refine handler_local hbounded (parseParams_spec hparse).2.1 (hsame.handlerContext c) ?_ ?_
      · rw [handlerSeries_eq ctx hparse, handlerSeries_eq ctx' hparse]
        exact Suffix.rdrop_suffix hsuffix _
      · rw [handlerSeries_eq ctx hparse, Suffix.length_rdrop]
        omega

/-! ## The candidate and the verdict -/

theorem deriveCandidate_local (risk : VersionRisk) {A B : List CandleDto} (hsuffix : A <:+ B)
    (hcovered : A = B ∨ CANDIDATE_WINDOW ≤ A.length) (pipSize : Option JsNumber)
    (direction : Direction) :
    deriveCandidate risk A pipSize direction = deriveCandidate risk B pipSize direction := by
  rcases hcovered with rfl | hlength
  · rfl
  · have hle := hsuffix.length_le
    have htwo : 2 ≤ CANDIDATE_WINDOW := by decide
    have hwindow := sliceLast_local hsuffix (by decide) hlength
    have hlast : A.getLast? = B.getLast? :=
      Suffix.getLast?_eq_of_suffix hsuffix (List.ne_nil_of_length_pos (by omega))
    unfold deriveCandidate
    rw [hwindow, hlast, if_neg (show ¬ A.length < 2 by omega), if_neg (show ¬ B.length < 2 by omega)]

theorem evaluateDirection_eq_iff (config : VersionConfig) {ctx ctx' : DirectionContext}
    (hsame : ctx.SameInputs ctx') (unresolved : Bool)
    (hlast : ctx.closed.setup.getLast? = ctx'.closed.setup.getLast?) :
    evaluateDirection config ctx unresolved = evaluateDirection config ctx' unresolved ↔
      ∀ c ∈ config.conditions, conditionStatus ctx c = conditionStatus ctx' c := by
  constructor
  · intro h c hc
    have hgroups : config.ruleGroups.map (groupOutcome ctx) =
        config.ruleGroups.map (groupOutcome ctx') := congrArg DirectionOutcome.groups h
    obtain ⟨group, hgroup, hc⟩ := List.mem_flatMap.mp hc
    have hconditions := congrArg GroupOutcome.conditions (List.map_inj_left.mp hgroups group hgroup)
    exact congrArg ConditionOutcome.status (List.map_inj_left.mp hconditions c hc)
  · intro h
    have hgroups : config.ruleGroups.map (groupOutcome ctx) =
        config.ruleGroups.map (groupOutcome ctx') := by
      refine List.map_inj_left.mpr fun group hgroup => ?_
      have hconditions : group.conditions.map (conditionOutcome ctx) =
          group.conditions.map (conditionOutcome ctx') := by
        refine List.map_inj_left.mpr fun c hc => ?_
        unfold conditionOutcome
        rw [h c (List.mem_flatMap.mpr ⟨group, hgroup, hc⟩)]
      unfold groupOutcome
      rw [hconditions]
    have hsessions : sessionFilterOutcome ctx.closed.setup = sessionFilterOutcome ctx'.closed.setup := by
      funext sf
      unfold sessionFilterOutcome
      rw [hlast]
    unfold evaluateDirection
    rw [hgroups, hsessions, hsame.direction, hsame.candidate]

end VeltrixEye
