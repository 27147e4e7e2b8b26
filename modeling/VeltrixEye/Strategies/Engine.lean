import VeltrixEye.Strategies.Handlers

/-!
# The deterministic evaluation engine (`strategies/evaluation/engine.ts`)

`evaluate` is a function of the configuration, the candles of the three roles, the anchor and the pip
size.  Each condition is evaluated on the closed candles of its role, moved back by its anchor offset;
group satisfaction, vetoes and session filters decide whether a direction passes.

Failure reasons are kept as values (`FailureReason`); the notes and the texts are not modelled.
-/

namespace VeltrixEye

def CANDIDATE_WINDOW : ℕ := 50

def CANDIDATE_ATR_PERIOD : ℕ := 14

/-! ## Candles -/

/-- The candles fully closed at the anchor, sorted by time. -/
def closedCandles (candles : List CandleDto) (periodMs asOfMs : ℤ) : List CandleDto :=
  (candles.filter (fun c => c.time + periodMs ≤ asOfMs)).insertionSort (fun a b => a.time ≤ b.time)

/-- The period of a role in milliseconds. -/
def StrategyTimeframes.periodMs (timeframes : StrategyTimeframes) (role : TimeframeRole) : ℤ :=
  timeframeMinutes (timeframes.of role) * 60000

/-- The closed candles of the three roles. -/
def closedSet (timeframes : StrategyTimeframes) (candles : CandleSet) (asOfMs : ℤ) : CandleSet where
  htf_bias := closedCandles candles.htf_bias (timeframes.periodMs .htf_bias) asOfMs
  setup := closedCandles candles.setup (timeframes.periodMs .setup) asOfMs
  entry := closedCandles candles.entry (timeframes.periodMs .entry) asOfMs

/-- The candle set with one role's series replaced. -/
def CandleSet.set (candles : CandleSet) (role : TimeframeRole) (series : List CandleDto) :
    CandleSet :=
  match role with
  | .htf_bias => { candles with htf_bias := series }
  | .setup => { candles with setup := series }
  | .entry => { candles with entry := series }

/-- The candle set one condition is evaluated against: its role's series without the last `offset`
    candles. -/
def conditionCandles (closed : CandleSet) (role : TimeframeRole) (offset : ℕ) : CandleSet :=
  if offset = 0 then closed else closed.set role ((closed.of role).rdrop offset)

/-! ## Candidate levels -/

/-- The stop of a structure method: the last pivot beyond the entry, else the window's extreme. -/
def structureStop (window : List CandleDto) (entry buffer : JsNumber) (direction : Direction) :
    Option JsNumber :=
  match direction with
  | .long =>
    match lastPivotLowBelow window entry with
    | some pivot => some (JsNumber.sub pivot.price buffer)
    | none =>
      let extreme := minOf (window.map (·.low))
      if JsNumber.le entry extreme then none else some (JsNumber.sub extreme buffer)
  | .short =>
    match lastPivotHighAbove window entry with
    | some pivot => some (JsNumber.add pivot.price buffer)
    | none =>
      let extreme := maxOf (window.map (·.high))
      if JsNumber.le extreme entry then none else some (JsNumber.add extreme buffer)

/-- `entry - side * distance`. -/
def beyondEntry (direction : Direction) (entry distance : JsNumber) : JsNumber :=
  match direction with
  | .long => JsNumber.sub entry distance
  | .short => JsNumber.add entry distance

/-- The stop of the configured method. -/
def candidateStop (risk : VersionRisk) (window : List CandleDto) (entry buffer : JsNumber)
    (direction : Direction) : Option JsNumber :=
  match risk.stopLossMethod with
  | .structure => structureStop window entry buffer direction
  | .fixed => some (beyondEntry direction entry buffer)
  | .atr =>
    (atrWilder window CANDIDATE_ATR_PERIOD).map
      (fun atr => beyondEntry direction entry (JsNumber.add atr buffer))

/-- The target at a multiple of the risk distance. -/
def rrTarget (direction : Direction) (entry riskDistance : JsNumber) (rr : ℚ) : JsNumber :=
  match direction with
  | .long => JsNumber.add entry (JsNumber.mul riskDistance (.fin rr))
  | .short => JsNumber.sub entry (JsNumber.mul riskDistance (.fin rr))

/-- The candidate at a stop, by the take-profit method. -/
def candidateAt (risk : VersionRisk) (window : List CandleDto) (entry stop riskDistance : JsNumber)
    (direction : Direction) : CandidateTrade :=
  let positive (price : Option JsNumber) := price.filter (JsNumber.lt 0)
  let target (rr : ℚ) := positive (some (rrTarget direction entry riskDistance rr))
  match risk.takeProfitMethod with
  | .rr =>
    { entryPrice := entry, stopLossPrice := stop, riskDistance
      tp1Price := target risk.tp1Rr
      tp2Price := target risk.tp2Rr
      tp3Price := target risk.tp3Rr
      achievableRr := positive (some (.fin risk.tp3Rr)) }
  | .structure =>
    let swing := structuralTarget window direction entry
    { entryPrice := entry, stopLossPrice := stop, riskDistance
      tp1Price := positive swing
      tp2Price := none
      tp3Price := none
      achievableRr := positive (swing.map fun price =>
        JsNumber.div (JsNumber.abs (JsNumber.sub price entry)) riskDistance) }
  | .manual =>
    { entryPrice := entry, stopLossPrice := stop, riskDistance
      tp1Price := none, tp2Price := none, tp3Price := none, achievableRr := none }

def deriveCandidate (risk : VersionRisk) (setupClosed : List CandleDto) (pipSize : Option JsNumber)
    (direction : Direction) : Option CandidateTrade :=
  if setupClosed.length < 2 then none
  else do
    let window := sliceLast CANDIDATE_WINDOW setupClosed
    let entry := (← setupClosed.getLast?).close
    let buffer ← bufferToPrice risk.stopLossBuffer risk.stopLossBufferUnit entry pipSize
    let stop ← candidateStop risk window entry buffer direction
    if !stop.isFinite || JsNumber.le stop 0 then none
    else
      let riskDistance := JsNumber.abs (JsNumber.sub entry stop)
      if JsNumber.lt 0 riskDistance then
        some (candidateAt risk window entry stop riskDistance direction)
      else none

/-! ## Outcomes -/

structure ConditionOutcome where
  conditionType : String
  classification : ConditionClassification
  timeframeRole : ConditionTimeframeRole
  status : EvaluationOutcomeStatus

inductive GroupRelevance where
  | pass
  | veto
  | ignore
  deriving DecidableEq

structure GroupOutcome where
  name : String
  logic : GroupLogic
  satisfied : Bool
  relevance : GroupRelevance
  conditions : List ConditionOutcome

structure SessionFilterOutcome where
  filter : SessionFilter
  status : EvaluationOutcomeStatus

/-- Why a direction failed. -/
inductive FailureReason where
  | pipBufferUnresolved
  | groupNotSatisfied (name : String) (logic : GroupLogic)
  | disqualifierSatisfied (conditionType group : String)
  | requiredNotEvaluated (conditionType group : String) (status : EvaluationOutcomeStatus)
  | disqualifierNotRuledOut (conditionType group : String) (status : EvaluationOutcomeStatus)
  | sessionBlocked (session : SessionName) (mode : SessionMode) (status : EvaluationOutcomeStatus)

/-- `DirectionEvaluation` in full. -/
structure DirectionOutcome where
  direction : Direction
  passed : Bool
  groups : List GroupOutcome
  sessionFilters : List SessionFilterOutcome
  candidate : Option CandidateTrade
  failureReasons : List FailureReason

/-! ## One direction -/

/-- What is fixed while one direction is evaluated. -/
structure DirectionContext where
  direction : Direction
  risk : VersionRisk
  closed : CandleSet
  candidate : Option CandidateTrade

/-- The context a condition's handler is called with. -/
def DirectionContext.handlerContext (ctx : DirectionContext) (c : StoredCondition) :
    HandlerContext where
  candles := conditionCandles ctx.closed c.role (anchorOffsetOf c.params)
  timeframeRole := c.timeframeRole
  direction := ctx.direction
  risk := ctx.risk
  candidate := ctx.candidate

/-- The status of a condition; an unknown type and invalid parameters are unsupported. -/
def conditionStatus (ctx : DirectionContext) (c : StoredCondition) : EvaluationOutcomeStatus :=
  match parseParams c.conditionType c.params with
  | none => .unsupported
  | some params => conditionHandler params (ctx.handlerContext c)

def conditionOutcome (ctx : DirectionContext) (c : StoredCondition) : ConditionOutcome :=
  ⟨c.conditionType, c.classification, c.timeframeRole, conditionStatus ctx c⟩

/-- Group satisfaction over all members, whatever their classification. -/
def groupSatisfied (logic : GroupLogic) (conditions : List ConditionOutcome) : Bool :=
  match logic with
  | .and => conditions.all (fun c => c.status = .satisfied)
  | .or => conditions.any (fun c => c.status = .satisfied)

/-- `required` or `confirmation`. -/
def ConditionClassification.gates (c : ConditionClassification) : Bool :=
  c = .required || c = .confirmation

def groupRelevance (conditions : List ConditionOutcome) : GroupRelevance :=
  if conditions.any (fun c => c.classification.gates) then .pass
  else if conditions.any (fun c => c.classification = .disqualifying) then .veto
  else .ignore

def groupOutcome (ctx : DirectionContext) (group : RuleGroup) : GroupOutcome :=
  let conditions := group.conditions.map (conditionOutcome ctx)
  ⟨group.name, group.logic, groupSatisfied group.logic conditions, groupRelevance conditions,
    conditions⟩

/-- Neither satisfied nor unsatisfied. -/
def EvaluationOutcomeStatus.unevaluated (status : EvaluationOutcomeStatus) : Bool :=
  status = .insufficient_data || status = .unsupported

/-- The reasons one condition of a group gives. -/
def conditionReasons (group : String) (c : ConditionOutcome) : List FailureReason :=
  (if c.classification = .disqualifying ∧ c.status = .satisfied then
    [.disqualifierSatisfied c.conditionType group] else []) ++
  (if c.classification.gates ∧ c.status.unevaluated then
    [.requiredNotEvaluated c.conditionType group c.status] else []) ++
  (if c.classification = .disqualifying ∧ c.status.unevaluated then
    [.disqualifierNotRuledOut c.conditionType group c.status] else [])

/-- The reasons one group gives: its own, then those of its conditions. -/
def groupReasons (group : GroupOutcome) : List FailureReason :=
  (if group.relevance = .pass ∧ group.satisfied = false then
    [.groupNotSatisfied group.name group.logic] else []) ++
  group.conditions.flatMap (conditionReasons group.name)

/-- A version-level session filter, on the last closed setup candle. -/
def sessionFilterOutcome (setupClosed : List CandleDto) (sf : SessionFilter) :
    SessionFilterOutcome :=
  match setupClosed.getLast? with
  | none => ⟨sf, .insufficient_data⟩
  | some anchor =>
    if sf.timezone = .exchange then ⟨sf, .unsupported⟩
    else
      let inSession := timeInSession anchor.time sf.session
      ⟨sf, verdict (if sf.mode = .include then inSession else !inSession)⟩

def sessionReasons (sf : SessionFilterOutcome) : List FailureReason :=
  if sf.status = .satisfied then []
  else [.sessionBlocked sf.filter.session sf.filter.mode sf.status]

def evaluateDirection (config : VersionConfig) (ctx : DirectionContext)
    (pipBufferUnresolved : Bool) : DirectionOutcome :=
  let groups := config.ruleGroups.map (groupOutcome ctx)
  let sessionFilters := config.sessionFilters.map (sessionFilterOutcome ctx.closed.setup)
  let failureReasons :=
    (if pipBufferUnresolved then [.pipBufferUnresolved] else []) ++
    groups.flatMap groupReasons ++ sessionFilters.flatMap sessionReasons
  ⟨ctx.direction, failureReasons.isEmpty, groups, sessionFilters, ctx.candidate, failureReasons⟩

/-! ## The engine -/

/-- `EvaluationEngineResult`. -/
structure EvaluationResult where
  long : DirectionOutcome
  short : DirectionOutcome

/-- A `pips` buffer without a valid pip size. -/
def pipBufferUnresolved (risk : VersionRisk) (pipSize : Option JsNumber) : Bool :=
  risk.stopLossBufferUnit = .pips && (pipSize.filter validPipSize).isNone

/-- The evaluation of one direction over closed candles. -/
def evaluateClosed (config : VersionConfig) (risk : VersionRisk) (closed : CandleSet)
    (pipSize : Option JsNumber) (direction : Direction) : DirectionOutcome :=
  evaluateDirection config
    ⟨direction, risk, closed, deriveCandidate risk closed.setup pipSize direction⟩
    (pipBufferUnresolved risk pipSize)

/-- The errors `evaluate` throws. -/
inductive EvaluationError where
  | timeframesRequired
  | riskRequired
  deriving DecidableEq

def evaluate (config : VersionConfig) (candles : CandleSet) (asOfMs : ℤ)
    (pipSize : Option JsNumber) : Except EvaluationError EvaluationResult := do
  let some timeframes := config.timeframes | throw .timeframesRequired
  let some risk := config.risk | throw .riskRequired
  let closed := closedSet timeframes candles asOfMs
  return ⟨evaluateClosed config risk closed pipSize .long,
    evaluateClosed config risk closed pipSize .short⟩

end VeltrixEye
