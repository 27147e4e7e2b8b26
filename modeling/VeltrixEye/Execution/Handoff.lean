import VeltrixEye.Execution.Acceptance
import VeltrixEye.Execution.SafetyFence

/-!
# The paper handoff (`composeAndSubmit` to `executeComposedEntry`)

`composeAndSubmit` evaluates the risk engine and the gates, mints an authorization, passes the fence and
hands the operation to the paper service, which checks all of it again from the tables before it fills.
The authorization store is in memory and shared with other calls, so each look at it is an input.

* `ComposedFrom`, `composeAndSubmit_ok` — what a composition has established when it submits.
-/

namespace VeltrixEye

/-! ## The risk decision -/

open RiskRejectionCode in
/-- The text of a code is its name. -/
def RiskRejectionCode.text : RiskRejectionCode → String
  | KILL_SWITCH_ACTIVE => "KILL_SWITCH_ACTIVE"
  | POLICY_DISABLED => "POLICY_DISABLED"
  | INVALID_DIRECTION => "INVALID_DIRECTION"
  | INVALID_SYMBOL => "INVALID_SYMBOL"
  | UNSUPPORTED_SYMBOL => "UNSUPPORTED_SYMBOL"
  | INVALID_ENTRY => "INVALID_ENTRY"
  | INVALID_STOP_LOSS => "INVALID_STOP_LOSS"
  | INVALID_TAKE_PROFIT => "INVALID_TAKE_PROFIT"
  | INVALID_PRICES => "INVALID_PRICES"
  | MISSING_SL => "MISSING_SL"
  | MISSING_TP => "MISSING_TP"
  | SL_WRONG_SIDE => "SL_WRONG_SIDE"
  | TP_WRONG_SIDE => "TP_WRONG_SIDE"
  | STOP_DISTANCE_NOT_POSITIVE => "STOP_DISTANCE_NOT_POSITIVE"
  | ZERO_RISK_DISTANCE => "ZERO_RISK_DISTANCE"
  | MISSING_INSTRUMENT_METADATA => "MISSING_INSTRUMENT_METADATA"
  | INVALID_CONTRACT_SPEC => "INVALID_CONTRACT_SPEC"
  | ZERO_OR_NEGATIVE_EQUITY => "ZERO_OR_NEGATIVE_EQUITY"
  | OVERFLOW => "OVERFLOW"
  | SESSION_NOT_ALLOWED => "SESSION_NOT_ALLOWED"
  | RR_INVALID => "RR_INVALID"
  | RR_BELOW_MINIMUM => "RR_BELOW_MINIMUM"
  | SPREAD_EXCEEDS_MAXIMUM => "SPREAD_EXCEEDS_MAXIMUM"
  | SLIPPAGE_EXCEEDS_MAXIMUM => "SLIPPAGE_EXCEEDS_MAXIMUM"
  | STRATEGY_RESTRICTION => "STRATEGY_RESTRICTION"
  | DAILY_LOSS_LIMIT => "DAILY_LOSS_LIMIT"
  | WEEKLY_LOSS_LIMIT => "WEEKLY_LOSS_LIMIT"
  | CONSECUTIVE_LOSS_LIMIT => "CONSECUTIVE_LOSS_LIMIT"
  | POSITION_SIZE_UNCOMPUTABLE => "POSITION_SIZE_UNCOMPUTABLE"
  | POSITION_SIZE_BELOW_MINIMUM => "POSITION_SIZE_BELOW_MINIMUM"
  | POSITION_SIZE_EXCEEDS_MAXIMUM => "POSITION_SIZE_EXCEEDS_MAXIMUM"
  | MONETARY_RISK_EXCEEDS_LIMIT => "MONETARY_RISK_EXCEEDS_LIMIT"
  | SIMULTANEOUS_POSITION_LIMIT => "SIMULTANEOUS_POSITION_LIMIT"
  | TOTAL_OPEN_RISK_LIMIT => "TOTAL_OPEN_RISK_LIMIT"
  | INSTRUMENT_EXPOSURE_LIMIT => "INSTRUMENT_EXPOSURE_LIMIT"
  | DIRECTION_EXPOSURE_LIMIT => "DIRECTION_EXPOSURE_LIMIT"
  | CORRELATION_METADATA_UNAVAILABLE => "CORRELATION_METADATA_UNAVAILABLE"
  | CORRELATION_EXPOSURE_LIMIT => "CORRELATION_EXPOSURE_LIMIT"
  | OPEN_POSITION_RISK_UNCOMPUTABLE => "OPEN_POSITION_RISK_UNCOMPUTABLE"
  | DAILY_DRAWDOWN_WARNING => "DAILY_DRAWDOWN_WARNING"
  | DAILY_DRAWDOWN_LIMIT => "DAILY_DRAWDOWN_LIMIT"
  | WEEKLY_DRAWDOWN_WARNING => "WEEKLY_DRAWDOWN_WARNING"
  | WEEKLY_DRAWDOWN_LIMIT => "WEEKLY_DRAWDOWN_LIMIT"
  | MAX_DRAWDOWN_WARNING => "MAX_DRAWDOWN_WARNING"
  | MAX_DRAWDOWN_LIMIT => "MAX_DRAWDOWN_LIMIT"
  | EQUITY_DATA_UNAVAILABLE => "EQUITY_DATA_UNAVAILABLE"

/-- What `evaluate` loads besides the tables of the composition. -/
structure RiskInputs where
  policy : PolicyRow
  loaded : EvaluateContext
  decisionId : String
  /-- `Date.now()` of the evaluation. -/
  nowMs : ℤ

section Evaluate

variable (env : PaperEnv) (risk : RiskInputs) (t : CompositionTables) (userId executionProfileId : String)
  (decision : ExecutionDecision)

/-- What the engine is asked. -/
def RiskInputs.context : EvaluateContext :=
  { risk.loaded with
    openPositions := RiskEngineService.loadOpenPositions env t.db userId executionProfileId
    reservations := loadReservations executionProfileId risk.nowMs
      (reclaimExpiredReservations executionProfileId risk.nowMs t.reservations)
    instrument := env.instrumentSpec decision.assetClass decision.symbol
    killSwitchActive := (t.safety.anyActive userId decision.strategyId executionProfileId).active
    candidate := candidateOf decision
    nowMs := risk.nowMs }

def RiskInputs.verdict : RiskEngineVerdict :=
  evaluateVerdict risk.policy (risk.context env t userId executionProfileId decision)

/-- A `Dec` column that may be null. -/
def storeDecOrNull (d : Option Dec) : Except ServiceError (Option (Numeric 24 10)) :=
  match d with
  | none => .ok none
  | some d => (storeDec d).map some

def persistDecision (verdict : RiskEngineVerdict) : Except ServiceError RiskDecisionRow := do
  let positionSize ← storeDecOrNull verdict.positionSize
  let entryPrice ← storeAmount (.fin decision.entryPrice)
  let stopLossPrice ← storeAmount (.fin decision.stopLossPrice)
  let takeProfitPrice ← storeAmount (.fin decision.takeProfitPrice)
  return {
    id := risk.decisionId
    userId
    executionProfileId
    setupId := decision.setupId
    outcome := verdict.outcome
    rejectionCode := verdict.rejectionCode
    reason := verdict.reason
    engineVersion := RISK_ENGINE_VERSION
    positionSize
    entryPrice
    stopLossPrice
    takeProfitPrice
    evaluatedAt := risk.nowMs }

/-- The reservation of an approval. -/
def approvalReservation (verdict : RiskEngineVerdict) : Except ServiceError ReservationRow := do
  let monetaryRisk ← storeDec (verdict.monetaryRisk.getD Dec.zero)
  return {
    executionProfileId
    riskDecisionId := risk.decisionId
    symbol := decision.symbol
    direction := decision.direction
    monetaryRisk
    expiresAt := risk.nowMs + RISK_RESERVATION_TTL_MS }

/-- `RiskEngineService.evaluate` with `reserveOnApprove`. -/
def evaluateAndReserve : Except ServiceError (RiskEngineVerdict × CompositionTables) := do
  let verdict := risk.verdict env t userId executionProfileId decision
  let kept := reclaimExpiredReservations executionProfileId risk.nowMs t.reservations
  constraint (∀ d ∈ t.decisions, d.id ≠ risk.decisionId) "risk_decisions_pkey"
  let row ← persistDecision risk userId executionProfileId decision verdict
  if verdict.outcome = .approved ∧ decision.action ≠ .close_position then do
    constraint (∀ r ∈ kept, r.riskDecisionId ≠ risk.decisionId) "risk_reservations_risk_decision_id_key"
    let reservation ← approvalReservation risk executionProfileId decision verdict
    return (verdict, { t with decisions := t.decisions ++ [row], reservations := kept ++ [reservation] })
  else
    return (verdict, { t with decisions := t.decisions ++ [row], reservations := kept })

end Evaluate

/-! ## The composition -/

/-- `ExecutionCompositionInput`, validated and frozen. -/
structure ExecutionCompositionInput where
  userId : String
  executionProfileId : String
  setupId : String
  action : Option RiskAction
  riskDecisionId : Option String
  nowMs : ℤ

/-- What a composition reads besides the tables, and the ids it is given. -/
structure CompositionInputs where
  risk : RiskInputs
  /-- The provider's health record as the readiness resolver decides it. -/
  providerReady : Bool
  instrumentKnown : Bool
  requestId : String
  authorizationId : String
  mintStore : List ExecutionAuthorization
  mintClock : CreateReadings
  fenceLook : AuthorizationLook

/-- How a composition ends before its submission.  `broker` is a profile of another provider. -/
inductive CompositionEnd where
  | notFound (message : String)
  | decision (refusal : DecisionRefusal)
  | broker
  | replayed (orderId : String)
  | rejected (gate : ExecutionGateId) (reason : GateReason)
  | thrown (message : String)
  | service (e : ServiceError)

/-- What `submitPaper` is handed, with the rows as they are then. -/
structure Handoff where
  profile : ExecutionProfileRow
  setup : SetupProvenanceRow
  decision : ExecutionDecision
  verdict : RiskEngineVerdict
  riskDecisionId : String
  quantity : ℚ
  baseHash : String
  identity : ComposedPaperEntryIdentity
  context : AuthorizationExecutionContext
  authorization : ExecutionAuthorization
  nowMs : ℤ
  tables : CompositionTables

def orEnd {α : Type} (x : Option α) (reason : CompositionEnd) : Except CompositionEnd α :=
  match x with
  | some a => .ok a
  | none => .error reason

def endUnless (p : Prop) [Decidable p] (reason : CompositionEnd) : Except CompositionEnd Unit :=
  if p then .ok () else .error reason

/-- An error of another vocabulary. -/
def endWith {ε α : Type} (f : ε → CompositionEnd) (x : Except ε α) : Except CompositionEnd α :=
  match x with
  | .ok a => .ok a
  | .error e => .error (f e)

section Helpers

variable {α ε : Type} {a : α} {reason : CompositionEnd}

@[simp] theorem orEnd_ok {x : Option α} : orEnd x reason = .ok a ↔ x = some a := by
  cases x <;> simp [orEnd]

@[simp] theorem endUnless_ok {p : Prop} [Decidable p] {u : Unit} : endUnless p reason = .ok u ↔ p := by
  unfold endUnless
  split <;> simp_all

@[simp] theorem endWith_ok {f : ε → CompositionEnd} {x : Except ε α} : endWith f x = .ok a ↔ x = .ok a := by
  cases x <;> simp [endWith]

end Helpers

/-- `deriveComposedEntryIdentity`, with the live order it found. -/
def deriveComposedEntryIdentity (env : PaperEnv) (db : Db) (userId executionProfileId setupId baseHash : String) :
    ComposedPaperEntryIdentity × Option String :=
  match db.order? (entryClientOrderId baseHash 1) with
  | some o =>
    if o.dead then
      (composedEntryIdsForAttempt env baseHash (failedAttemptCount db userId executionProfileId setupId + 1), none)
    else (composedEntryIdsForAttempt env baseHash 1, some o.id)
  | none => (composedEntryIdsForAttempt env baseHash 1, none)

def resolveBrokerAccountAuthorization (providerSlug : String) (environment : ExecutionEnvironment) : Bool :=
  providerSlug = "paper" ∧ environment = .paper

def Direction.text : Direction → String
  | .long => "long"
  | .short => "short"

def orderSide : Direction → OrderSide
  | .long => .buy
  | .short => .sell

/-- The environment of a minted authorization; the gates let no other through. -/
def authorizationEnvironment : ExecutionEnvironment → Option AuthorizationEnvironment
  | .paper => some .paper
  | .demo => some .demo
  | .live => none

/-- The gate input of a composition. -/
def compositionGateInput (inputs : CompositionInputs) (profile : ExecutionProfileRow) (setup : SetupProvenanceRow)
    (decision : ExecutionDecision) (automation : GateAutomation) (killSwitches : GateKillSwitches)
    (verdict : RiskEngineVerdict) : ExecutionGateInput where
  authenticated := true
  authorized := true
  canAccessAutomation := automation.entitled
  automation := automation
  profile := some ⟨profile.enabled, profile.environment⟩
  killSwitches := killSwitches
  decision := some decision
  expectedRr := decision.achievableRr
  setup := some ⟨setup.source.setupId, setup.source.direction, setup.source.state⟩
  instrumentKnown := inputs.instrumentKnown
  riskDecision := some ⟨verdict.outcome = .approved, some verdict.reason, some inputs.risk.decisionId,
    some RISK_ENGINE_VERSION⟩
  minRr := some verdict.effectiveMinRr
  exposureWithinLimits := some verdict.exposureWithinLimits
  providerHealthy := some inputs.providerReady
  environmentSafe := profile.environment = .paper ∨ profile.environment = .demo
  brokerAuthorized := resolveBrokerAccountAuthorization profile.providerSlug profile.environment
  accountAuthorized := resolveBrokerAccountAuthorization profile.providerSlug profile.environment

/-- The insert of the request row, and its recovery onto the row that holds the identity. -/
def persistRequest (t : CompositionTables) (row : ExecutionRequestRow) : Except CompositionEnd CompositionTables :=
  match t.request? row.idempotencyKey with
  | some existing =>
    if existing.userId = row.userId then .ok t
    else .error (.thrown "Execution request identity resolved to another user")
  | none =>
    if t.requests.any fun r =>
        r.setupId = row.setupId ∧ r.executionProfileId = row.executionProfileId ∧ r.action = row.action then
      .error (.thrown "Execution request identity could not be resolved after an identity conflict")
    else .ok { t with requests := t.requests ++ [row] }

/-- What the authorization of a handoff is minted from. -/
def mintInput (context : AuthorizationExecutionContext) (identity : ComposedPaperEntryIdentity)
    (decision : ExecutionDecision) (quantity : ℚ) : CreateAuthorizationInput where
  context := context
  clientOrderId := identity.clientOrderId
  idempotencyKey := identity.orderIdempotencyKey
  symbol := decision.symbol
  side := orderSide decision.direction
  quantity := .fin quantity
  assetClass := decision.assetClass
  orderType := "market"
  stopLossPrice := some (.fin decision.stopLossPrice)
  takeProfitPrice := some (.fin decision.takeProfitPrice)
  requestedPrice := none

/-- `composeAndSubmit`, up to the submission of a paper profile. -/
def composeAndSubmit (env : PaperEnv) (opts : AuthorizationOptions) (inputs : CompositionInputs)
    (input : ExecutionCompositionInput) (t : CompositionTables) : Except CompositionEnd Handoff := do
  let profile ← orEnd (t.profile? input.executionProfileId input.userId) (.notFound "Execution profile not found")
  let setup ← orEnd (t.setup? input.setupId input.userId) (.notFound "Setup not found")
  endUnless (input.action ≠ some .close_position)
    (.decision (.text "close_position is not supported by this opening-order composition path"))
  let decision ← endWith .decision (buildServerExecutionDecision setup.source)
  endUnless (∀ action ∈ input.action, action = decision.action)
    (.decision (.text ("action \"" ++ (input.action.map RiskAction.text).getD "" ++
      "\" conflicts with the setup direction \"" ++ setup.source.direction.text ++ "\"")))
  endUnless (profile.providerSlug = "paper") .broker
  let baseHash := env.identityHash input.userId setup.source.setupId profile.id decision.action
  let derived := deriveComposedEntryIdentity env t.db input.userId profile.id setup.source.setupId baseHash
  -- `checkReplay`
  endUnless (∀ r ∈ t.request? baseHash, r.userId = input.userId)
    (.rejected .authorized (.text "execution identity does not belong to the caller"))
  endUnless (derived.2 = none) (.replayed (derived.2.getD ""))
  let automation ← orEnd (t.safety.readState input.userId) (.notFound "User not found")
  let killSwitches := t.safety.anyActive input.userId setup.source.strategyId profile.id
  let (verdict, evaluated) ← endWith .service
    (evaluateAndReserve env inputs.risk t input.userId profile.id decision)
  endUnless (∀ id ∈ input.riskDecisionId, id = inputs.risk.decisionId)
    (.rejected .risk_decision (.text "supplied risk decision does not match the fresh risk evaluation"))
  let gate := evaluateExecutionGates
    (compositionGateInput inputs profile setup decision automation killSwitches verdict)
  endUnless gate.passed
    (.rejected (gate.failedGate.getD .authenticated) (gate.reason.getD (.text "authentication required")))
  let environment ← orEnd (authorizationEnvironment profile.environment)
    (.thrown "Execution composition reached submission for a forbidden environment")
  let tables ← persistRequest evaluated
    ⟨inputs.requestId, input.userId, profile.id, setup.source.setupId, decision.action, baseHash⟩
  let quantity ← orEnd ((issuedSize verdict).filter (0 < ·))
    (.rejected .risk_decision (.text "approved risk decision carries no usable position size"))
  let context : AuthorizationExecutionContext := {
    userId := input.userId
    executionProfileId := profile.id
    providerSlug := profile.providerSlug
    environment
    accountRef := profile.accountRef
    brokerServerRef := profile.brokerServer
    setupId := some setup.source.setupId
    riskDecisionId := some inputs.risk.decisionId }
  let authorization ← endWith .thrown (createAuthorization opts (mintInput context derived.1 decision quantity)
    inputs.authorizationId inputs.mintClock inputs.mintStore).2
  endWith (fun refusal => .rejected refusal.failedGate (.text refusal.reason))
    (runFinalSafetyFence opts tables {
      userId := input.userId
      executionProfileId := profile.id
      strategyId := setup.source.strategyId
      setupId := some setup.source.setupId
      providerSlug := profile.providerSlug
      environment
      accountRef := profile.accountRef
      brokerServerRef := profile.brokerServer
      riskDecisionId := inputs.risk.decisionId
      authorizationId := authorization.id
      nowMs := input.nowMs } inputs.fenceLook)
  return {
    profile
    setup
    decision
    verdict
    riskDecisionId := inputs.risk.decisionId
    quantity
    baseHash
    identity := derived.1
    context
    authorization
    nowMs := input.nowMs
    tables }

/-! ## The composed entry -/

structure ComposedPaperEntryInput where
  b1AuthorizationId : String
  context : AuthorizationExecutionContext
  userId : String
  executionProfileId : String
  setupId : String
  baseHash : String
  identity : ComposedPaperEntryIdentity
  decision : ExecutionDecision
  quantity : ℚ
  exposureWithinLimits : Bool
  effectiveMinRr : JsNumber
  riskDecisionId : String
  nowMs : ℤ

/-- What `submitPaper` passes on. -/
def Handoff.entryInput (h : Handoff) : ComposedPaperEntryInput where
  b1AuthorizationId := h.authorization.id
  context := h.context
  userId := h.context.userId
  executionProfileId := h.profile.id
  setupId := h.setup.source.setupId
  baseHash := h.baseHash
  identity := h.identity
  decision := h.decision
  quantity := h.quantity
  exposureWithinLimits := h.verdict.exposureWithinLimits
  effectiveMinRr := h.verdict.effectiveMinRr
  riskDecisionId := h.riskDecisionId
  nowMs := h.nowMs

def PAPER_RISK_DECISION_MAX_AGE_MS : ℤ := 5 * 60000

def validateCitedDecision (t : CompositionTables) (userId executionProfileId setupId : String)
    (decision : ExecutionDecision) (riskDecisionId : Option String) (nowMs : ℤ) : CitedDecision :=
  match riskDecisionId.filter (· ≠ "") with
  | none => .fresh
  | some id =>
    match t.decision? id with
    | none => .not_found
    | some row =>
      if row.userId ≠ userId then .not_found
      else if row.executionProfileId ≠ executionProfileId ∨ row.setupId ≠ setupId ∨
          row.engineVersion ≠ RISK_ENGINE_VERSION ∨
          1 / 10 ^ 9 < |row.entryPrice.toRat - decision.entryPrice| ∨
          1 / 10 ^ 9 < |row.stopLossPrice.toRat - decision.stopLossPrice| ∨
          1 / 10 ^ 9 < |row.takeProfitPrice.toRat - decision.takeProfitPrice| then
        .rejected "cited risk decision does not match this setup/profile or the pinned risk engine version"
          row.id row.engineVersion
      else if PAPER_RISK_DECISION_MAX_AGE_MS < nowMs - row.evaluatedAt then
        .rejected "cited risk decision has expired" row.id row.engineVersion
      else if row.outcome ≠ .approved then
        .rejected ("cited risk decision rejected the execution (" ++
          (row.rejectionCode.map RiskRejectionCode.text).getD "unknown" ++ ")") row.id row.engineVersion
      else .fresh

def loadCitedRiskApproval (t : CompositionTables) (riskDecisionId : String) : Option CitedRiskApproval :=
  (t.decision? riskDecisionId).map fun row =>
    ⟨row.id, row.outcome, row.reason, row.engineVersion, row.positionSize.map Numeric.toRat⟩

namespace ComposedPaperEntryInput

variable (args : ComposedPaperEntryInput)

/-- Step 1: the scalars that are not texts. -/
def wellFormed : Bool :=
  1 ≤ args.identity.attempt && args.identity.attempt ≤ 10000 && 0 < args.quantity && args.effectiveMinRr.isFinite

/-- The request presented with the authorization. -/
def request (decision : ExecutionDecision) : AuthorizedRequest where
  clientOrderId := args.identity.clientOrderId
  idempotencyKey := args.identity.orderIdempotencyKey
  symbol := decision.symbol
  side := orderSide decision.direction
  assetClass := decision.assetClass
  orderType := "market"
  quantity := .fin args.quantity
  stopLossPrice := some (.fin decision.stopLossPrice)
  takeProfitPrice := some (.fin decision.takeProfitPrice)
  requestedPrice := none

/-- What the fence of the entry is given: a paper profile is taken to have no account. -/
def fenceInput (profileId strategyId setupId : String) : FinalFenceInput where
  userId := args.userId
  executionProfileId := profileId
  strategyId := strategyId
  setupId := some setupId
  providerSlug := "paper"
  environment := .paper
  accountRef := none
  brokerServerRef := none
  riskDecisionId := args.riskDecisionId
  authorizationId := args.b1AuthorizationId
  nowMs := args.nowMs

end ComposedPaperEntryInput

def sameB1Binding (peeked : ExecutionAuthorization) (r : AuthorizedRequest)
    (context : AuthorizationExecutionContext) : Bool :=
  sameMutation peeked r &&
    JsNumber.le (JsNumber.abs (JsNumber.sub peeked.quantity r.quantity)) (.fin AUTHORIZATION_TOLERANCE) &&
    priceMatches peeked.stopLossPrice r.stopLossPrice && priceMatches peeked.takeProfitPrice r.takeProfitPrice &&
    priceMatches peeked.requestedPrice r.requestedPrice && peeked.context = context

/-- What the entry reads besides the tables. -/
structure EntryReadings where
  fenceLook : AuthorizationLook
  bindingLook : AuthorizationLook
  consumeLook : AuthorizationLook
  market : Except MarketRefusal SimulatorMarketPrice
  health : Option GateHealth

section Entry

variable (env : PaperEnv) (opts : AuthorizationOptions) (t : CompositionTables) (args : ComposedPaperEntryInput)
  (readings : EntryReadings) (profile : ExecutionProfileRow) (setup : SetupProvenanceRow)

/-- The context of the entry's checks. -/
def entryContext : SimulateContext where
  userId := args.userId
  executionProfileId := profile.id
  profile := ⟨profile.enabled, profile.environment⟩
  killSwitches := t.safety.anyActive args.userId setup.source.strategyId profile.id
  providerHealth := readings.health
  setup := setup.source
  cited := validateCitedDecision t args.userId profile.id setup.source.setupId args.decision
    (some args.riskDecisionId) args.nowMs
  riskDecisionId := args.riskDecisionId
  nowMs := args.nowMs

/-- What the checks have loaded. -/
def entryChecks : ComposedChecks where
  providerSlug := profile.providerSlug
  reloaded := setup.source
  approval := loadCitedRiskApproval t args.riskDecisionId
  reservationLive := (t.getActiveReservation args.riskDecisionId profile.id args.nowMs).isSome
  fence :=
    match runFinalSafetyFence opts t
        (args.fenceInput profile.id setup.source.strategyId setup.source.setupId) readings.fenceLook with
    | .ok () => none
    | .error refusal => some refusal.reason
  quantity := args.quantity
  exposureWithinLimits := args.exposureWithinLimits
  effectiveMinRr := some args.effectiveMinRr
  binding := (readings.bindingLook.peek opts args.b1AuthorizationId).map fun peeked =>
    sameB1Binding peeked (args.request args.decision) args.context
  consume :=
    match (consumeAuthorization opts args.b1AuthorizationId (args.request args.decision) args.context
        readings.consumeLook.now readings.consumeLook.store).2 with
    | .ok _ => none
    | .error message => some message

/-- How a composed entry ends: thrown out, refused, replaying a live order, or filling one. -/
inductive ComposedEntryEnd where
  | invalidInput
  | notFound (message : String)
  | rejected (refusal : EntryRefusal)
  | replayed (orderId : String)
  | fill (auth : PaperAuthorization)

/-- Steps 8 and 9, for checks that have passed. -/
def settleComposedEntry (price : SimulatorMarketPrice) (spec : InstrumentRiskSpec) : ComposedEntryEnd :=
  match (t.db.order? args.identity.clientOrderId).filter fun o => !o.dead with
  | some live => .replayed live.id
  | none =>
    let rederived := deriveComposedEntryIdentity env t.db args.userId profile.id setup.source.setupId args.baseHash
    if rederived.1 ≠ args.identity then
      .rejected (.text "stale composed identity: the paper attempt index moved; derive a fresh identity")
    else
      match (entryChecks opts t args readings profile setup).consume with
      | some message => .rejected (.text message)
      | none => .fill {
          entryAuthorization env (entryContext t args readings profile setup) args.decision args.quantity price spec
            args.identity.attempt with
          clientOrderId := args.identity.clientOrderId
          idempotencyKey := args.identity.orderIdempotencyKey
          positionKey := args.baseHash }

/-- `executeComposedEntry`, up to the fill transaction. -/
def executeComposedEntry : ComposedEntryEnd :=
  if args.wellFormed = false then .invalidInput
  else match t.profile? args.executionProfileId args.userId with
  | none => .notFound "Execution profile not found"
  | some profile =>
    -- a setup that is gone is noticed after the profile's own checks
    match rejectUnless (profile.providerSlug = "paper" ∧ profile.environment = .paper)
        "composed paper entry requires a paper execution profile" >>= fun _ =>
        rejectUnless profile.enabled "execution profile is disabled" with
    | .error refusal => .rejected refusal
    | .ok _ =>
      match t.setup? args.setupId args.userId with
      | none => .notFound "Setup not found"
      | some setup =>
        match verifyComposedEntry env (entryContext t args readings profile setup)
            (entryChecks opts t args readings profile setup) args.decision readings.market with
        | .error refusal => .rejected refusal
        | .ok (price, spec) => settleComposedEntry env opts t args readings profile setup price spec

end Entry

/-! ## What a composition has established -/

section Composed

variable {env : PaperEnv} {opts : AuthorizationOptions} {inputs : CompositionInputs}
  {input : ExecutionCompositionInput} {t : CompositionTables} {h : Handoff}

/-- What a composition has established when it submits. -/
structure ComposedFrom (env : PaperEnv) (opts : AuthorizationOptions) (inputs : CompositionInputs)
    (input : ExecutionCompositionInput) (t : CompositionTables) (h : Handoff) : Prop where
  profile_eq : t.profile? input.executionProfileId input.userId = some h.profile
  setup_eq : t.setup? input.setupId input.userId = some h.setup
  decision_eq : buildServerExecutionDecision h.setup.source = .ok h.decision
  paper : h.profile.providerSlug = "paper"
  identity_eq : deriveComposedEntryIdentity env t.db input.userId h.profile.id h.setup.source.setupId h.baseHash =
    (h.identity, none)
  evaluated : ∃ tables, evaluateAndReserve env inputs.risk t input.userId h.profile.id h.decision =
      .ok (h.verdict, tables) ∧
    persistRequest tables ⟨inputs.requestId, input.userId, h.profile.id, h.setup.source.setupId,
      h.decision.action, h.baseHash⟩ = .ok h.tables
  enabled : h.profile.enabled = true
  approved : h.verdict.outcome = .approved
  quantity_eq : issuedSize h.verdict = some h.quantity
  quantity_pos : 0 < h.quantity
  context_eq : h.context = ⟨input.userId, h.profile.id, h.profile.providerSlug, .paper, h.profile.accountRef,
    h.profile.brokerServer, some h.setup.source.setupId, some inputs.risk.decisionId⟩
  authorization_eq : (createAuthorization opts (mintInput h.context h.identity h.decision h.quantity)
    inputs.authorizationId inputs.mintClock inputs.mintStore).2 = .ok h.authorization
  fence : FencePassed opts h.tables ⟨input.userId, h.profile.id, h.setup.source.strategyId,
    some h.setup.source.setupId, h.profile.providerSlug, .paper, h.profile.accountRef, h.profile.brokerServer,
    inputs.risk.decisionId, h.authorization.id, input.nowMs⟩ inputs.fenceLook
  riskDecisionId_eq : h.riskDecisionId = inputs.risk.decisionId
  nowMs_eq : h.nowMs = input.nowMs

theorem composeAndSubmit_ok (hcompose : composeAndSubmit env opts inputs input t = .ok h) :
    ComposedFrom env opts inputs input t h := by
  unfold composeAndSubmit at hcompose
  simp only [Except.bind_ok_iff, orEnd_ok, endUnless_ok, endWith_ok] at hcompose
  obtain ⟨profile, hprofile, setup, hsetup, -, -, decision, hdecision, -, -, -, hpaper, -, -, -, hlive,
    automation, hautomation, ⟨verdict, evaluated⟩, hevaluated, -, -, -, hgate, environment, henvironment,
    tables, htables, quantity, hquantity, authorization, hauthorization, _, hfence, hresult⟩ := hcompose
  obtain ⟨henv, hserver⟩ := profile.paper hpaper
  rw [henv] at henvironment
  cases henvironment
  cases hresult
  obtain ⟨p, hp, henabled⟩ := gates_enabled hgate
  obtain ⟨r, hr, happroved, -⟩ := gates_approved hgate
  cases hp
  cases hr
  rw [Option.filter_eq_some_iff] at hquantity
  exact {
    profile_eq := hprofile
    setup_eq := hsetup
    decision_eq := hdecision
    paper := hpaper
    identity_eq := Prod.ext rfl hlive
    evaluated := ⟨evaluated, hevaluated, htables⟩
    enabled := henabled
    approved := of_decide_eq_true happroved
    quantity_eq := hquantity.1
    quantity_pos := of_decide_eq_true hquantity.2
    context_eq := rfl
    authorization_eq := hauthorization
    fence := runFinalSafetyFence_ok.mp hfence
    riskDecisionId_eq := rfl
    nowMs_eq := rfl }

theorem buildServerExecutionDecision_target {src : SetupDecisionSource} {d : ExecutionDecision}
    (hbuilt : buildServerExecutionDecision src = .ok d) : ∃ p, src.tp1Price = some p ∧ d.takeProfitPrice = p.toRat := by
  unfold buildServerExecutionDecision at hbuilt
  simp only [Except.bind_ok_iff, refuseUnless_ok] at hbuilt
  obtain ⟨-, -, entry, -, stop, -, target, htarget, quality, -, minQuality, -, -, -, timeframe, -, rr, -,
    -, -, hresult⟩ := hbuilt
  cases hresult
  exact validPrice_ok htarget

theorem storeAmount_toRat {p n : Numeric 24 10} (hstore : storeAmount (.fin p.toRat) = .ok n) : n = p := by
  have hunits := storeAmount_ok hstore
  rw [Numeric.toRat_mul_pow, Rounding.halfAway_intCast] at hunits
  rw [← Numeric.toRat_eq_iff, Numeric.toRat, Numeric.toRat, hunits]

section Evaluated

variable {risk : RiskInputs} {userId executionProfileId : String} {decision : ExecutionDecision}
  {verdict : RiskEngineVerdict} {row : RiskDecisionRow} {t' : CompositionTables}

/-- The columns a citation is checked on. -/
structure PersistedFrom (risk : RiskInputs) (userId executionProfileId : String) (decision : ExecutionDecision)
    (verdict : RiskEngineVerdict) (row : RiskDecisionRow) : Prop where
  id_eq : row.id = risk.decisionId
  userId_eq : row.userId = userId
  executionProfileId_eq : row.executionProfileId = executionProfileId
  setupId_eq : row.setupId = decision.setupId
  outcome_eq : row.outcome = verdict.outcome
  engineVersion_eq : row.engineVersion = RISK_ENGINE_VERSION
  evaluatedAt_eq : row.evaluatedAt = risk.nowMs
  positionSize_eq : row.positionSize.map Numeric.toRat = verdict.positionSize.map Dec.toRat
  entry : storeAmount (.fin decision.entryPrice) = .ok row.entryPrice
  stop : storeAmount (.fin decision.stopLossPrice) = .ok row.stopLossPrice
  target : storeAmount (.fin decision.takeProfitPrice) = .ok row.takeProfitPrice

theorem storeDecOrNull_ok {d : Option Dec} {n : Option (Numeric 24 10)} (hstore : storeDecOrNull d = .ok n) :
    n.map Numeric.toRat = d.map Dec.toRat := by
  cases d with
  | none =>
    cases hstore
    rfl
  | some d =>
    simp only [storeDecOrNull] at hstore
    cases hd : storeDec d with
    | error e =>
      rw [hd] at hstore
      cases hstore
    | ok m =>
      rw [hd] at hstore
      cases hstore
      simp [storeDec_toRat hd]

theorem persistDecision_ok (hpersist : persistDecision risk userId executionProfileId decision verdict = .ok row) :
    PersistedFrom risk userId executionProfileId decision verdict row := by
  unfold persistDecision at hpersist
  simp only [Except.bind_ok_iff] at hpersist
  obtain ⟨size, hsize, entry, hentry, stop, hstop, target, htarget, hresult⟩ := hpersist
  cases hresult
  exact ⟨rfl, rfl, rfl, rfl, rfl, rfl, rfl, storeDecOrNull_ok hsize, hentry, hstop, htarget⟩

theorem evaluateAndReserve_approved (haction : decision.action ≠ .close_position) (happroved : verdict.outcome = .approved)
    (hevaluate : evaluateAndReserve env risk t userId executionProfileId decision = .ok (verdict, t')) :
    (∃ row, t'.decision? risk.decisionId = some row ∧
        PersistedFrom risk userId executionProfileId decision verdict row) ∧
      (∀ r ∈ t'.reservations, r.riskDecisionId = risk.decisionId →
        r.expiresAt = risk.nowMs + RISK_RESERVATION_TTL_MS) ∧
      t'.profiles = t.profiles ∧ t'.setups = t.setups ∧ t'.safety = t.safety ∧ t'.db = t.db := by
  unfold evaluateAndReserve at hevaluate
  simp only [Except.bind_ok_iff, constraint_ok] at hevaluate
  obtain ⟨_, hfresh, row, hrow, hevaluate⟩ := hevaluate
  have hpersisted := persistDecision_ok hrow
  have hlookup : (t.decisions ++ [row]).find? (fun d => decide (d.id = risk.decisionId)) = some row := by
    have hnone : t.decisions.find? (fun d => decide (d.id = risk.decisionId)) = none := by
      simpa using hfresh
    rw [List.find?_append, hnone]
    simp [hpersisted.id_eq]
  split at hevaluate
  · simp only [Except.bind_ok_iff, constraint_ok] at hevaluate
    obtain ⟨_, hunique, reservation, hreservation, hresult⟩ := hevaluate
    cases hresult
    refine ⟨⟨row, hlookup, hpersisted⟩, fun r hr hid => ?_, rfl, rfl, rfl, rfl⟩
    rcases List.mem_append.mp hr with hold | hnew
    · exact absurd hid (hunique r hold)
    · rw [List.mem_singleton.mp hnew]
      unfold approvalReservation at hreservation
      simp only [Except.bind_ok_iff] at hreservation
      obtain ⟨amount, -, hresult⟩ := hreservation
      cases hresult
      rfl
  · rename_i hnot
    cases hevaluate
    exact absurd ⟨happroved, haction⟩ hnot

end Evaluated

theorem persistRequest_ok {t' : CompositionTables} {row : ExecutionRequestRow} (hpersist : persistRequest t row = .ok t') :
    ∃ requests, t' = { t with requests } := by
  unfold persistRequest at hpersist
  split at hpersist
  · split at hpersist
    · cases hpersist
      exact ⟨t.requests, rfl⟩
    · cases hpersist
  · split at hpersist
    · cases hpersist
    · cases hpersist
      exact ⟨_, rfl⟩

/-- The rows a handoff is checked against. -/
structure HandedOver (inputs : CompositionInputs) (input : ExecutionCompositionInput) (t : CompositionTables)
    (h : Handoff) : Prop where
  cited : ∃ row, h.tables.decision? inputs.risk.decisionId = some row ∧
    PersistedFrom inputs.risk input.userId h.profile.id h.decision h.verdict row
  reserved : ∀ r ∈ h.tables.reservations, r.riskDecisionId = inputs.risk.decisionId →
    r.expiresAt = inputs.risk.nowMs + RISK_RESERVATION_TTL_MS
  profile : h.tables.profile? h.profile.id input.userId = some h.profile
  setup : h.tables.setup? h.setup.source.setupId input.userId = some h.setup
  db_eq : h.tables.db = t.db

theorem ComposedFrom.handedOver (hc : ComposedFrom env opts inputs input t h) : HandedOver inputs input t h := by
  obtain ⟨tables, hevaluate, hpersist⟩ := hc.evaluated
  have haction : h.decision.action ≠ .close_position := by
    rw [(buildServerExecutionDecision_ok hc.decision_eq).action_eq]
    exact entryAction_ne_close _
  obtain ⟨hrow, hreserved, hprofiles, hsetups, -, hdb⟩ := evaluateAndReserve_approved haction hc.approved hevaluate
  obtain ⟨requests, htables⟩ := persistRequest_ok hpersist
  have hprofile := hc.profile_eq
  have hsetup := hc.setup_eq
  have hid : h.profile.id = input.executionProfileId := by
    have hfound := List.find?_some hprofile
    simp only [decide_eq_true_eq] at hfound
    exact hfound.1
  have hsid : h.setup.source.setupId = input.setupId := by
    obtain ⟨hfound, -⟩ := Option.filter_eq_some_iff.mp hsetup
    simpa using List.find?_some hfound
  refine ⟨by rw [htables]; exact hrow, by rw [htables]; exact hreserved, ?_, ?_, by rw [htables]; exact hdb⟩
  · rw [htables, hid]
    show tables.profiles.find? _ = _
    rw [hprofiles]
    exact hprofile
  · rw [htables, hsid]
    show (tables.setups.find? _).filter _ = _
    rw [hsetups]
    exact hsetup

theorem ComposedFrom.citation (hc : ComposedFrom env opts inputs input t h) :
    validateCitedDecision h.tables input.userId h.profile.id h.setup.source.setupId h.decision
      (some inputs.risk.decisionId) input.nowMs = .fresh := by
  have hover := hc.handedOver
  obtain ⟨row, hrow, hfrom⟩ := hover.cited
  have hbuilt := buildServerExecutionDecision_ok hc.decision_eq
  obtain ⟨pe, -, hentry⟩ := hbuilt.entry
  obtain ⟨ps, -, hstop⟩ := hbuilt.stop
  obtain ⟨pt, -, htarget⟩ := buildServerExecutionDecision_target hc.decision_eq
  have he := hfrom.entry
  have hs := hfrom.stop
  have ht := hfrom.target
  rw [hentry] at he
  rw [hstop] at hs
  rw [htarget] at ht
  have hage : ¬ PAPER_RISK_DECISION_MAX_AGE_MS < input.nowMs - row.evaluatedAt := by
    obtain ⟨r, hr⟩ := Option.isSome_iff_exists.mp hc.fence.reservation
    have hlive := List.find?_some hr
    simp only [decide_eq_true_eq] at hlive
    have hexpires := hover.reserved r (List.mem_of_find?_eq_some hr) hlive.1
    rw [hfrom.evaluatedAt_eq]
    have hbefore := hlive.2.2
    rw [hexpires, RISK_RESERVATION_TTL_MS] at hbefore
    rw [PAPER_RISK_DECISION_MAX_AGE_MS]
    omega
  unfold validateCitedDecision
  by_cases hempty : inputs.risk.decisionId = ""
  · have hnone : (some inputs.risk.decisionId).filter (· ≠ "") = none := by simp [hempty]
    rw [hnone]
  · have hsome : (some inputs.risk.decisionId).filter (· ≠ "") = some inputs.risk.decisionId := by simp [hempty]
    simp only [hsome, hrow, hfrom.userId_eq]
    rw [if_neg (by simp), if_neg ?_, if_neg hage, if_neg (by simp [hfrom.outcome_eq, hc.approved])]
    simp [hfrom.executionProfileId_eq, hfrom.setupId_eq, hfrom.engineVersion_eq, hbuilt.setupId_eq, hentry, hstop,
      htarget, storeAmount_toRat he, storeAmount_toRat hs, storeAmount_toRat ht]

end Composed

/-! ## Looks at the authorization -/

/-- Under the id of `a` the store holds nothing else. -/
def Issued (a : ExecutionAuthorization) (look : AuthorizationLook) : Prop := ∀ b ∈ look.store, b.id = a.id → b = a

/-- The authorization is still there and has not expired. -/
def Held (opts : AuthorizationOptions) (a : ExecutionAuthorization) (look : AuthorizationLook) : Prop :=
  a ∈ look.store ∧ a.expired opts look.now = false

section Looks

variable {opts : AuthorizationOptions} {a : ExecutionAuthorization} {look : AuthorizationLook}

theorem Issued.find (hissued : Issued a look) :
    look.store.find? (fun b => b.id == a.id) = if a ∈ look.store then some a else none := by
  split
  · rename_i hmem
    cases hfind : look.store.find? (fun b => b.id == a.id) with
    | none =>
      rw [List.find?_eq_none] at hfind
      exact absurd (beq_self_eq_true a.id) (hfind a hmem)
    | some b =>
      have hid : b.id = a.id := by simpa using List.find?_some hfind
      rw [hissued b (List.mem_of_find?_eq_some hfind) hid]
  · rename_i hnot
    rw [List.find?_eq_none]
    intro b hb hid
    rw [beq_iff_eq] at hid
    rw [hissued b hb hid] at hb
    exact hnot hb

theorem peek_held (hissued : Issued a look) (hunused : a.consumed = false) (hheld : Held opts a look) :
    look.peek opts a.id = some a := by
  simp [AuthorizationLook.peek, peekAuthorization, hissued.find, hheld.1, hheld.2, hunused]

theorem peek_not_held (hissued : Issued a look) (hunused : a.consumed = false) (hnot : ¬ Held opts a look) :
    look.peek opts a.id = none := by
  by_cases hmem : a ∈ look.store
  · have hexpired : a.expired opts look.now = true := by
      by_contra hlive
      exact hnot ⟨hmem, by simpa using hlive⟩
    simp [AuthorizationLook.peek, peekAuthorization, hissued.find, hmem, hunused, hexpired]
  · simp [AuthorizationLook.peek, peekAuthorization, hissued.find, hmem]

theorem consume_held {r : AuthorizedRequest} {context : AuthorizationExecutionContext} (hissued : Issued a look)
    (hunused : a.consumed = false) (hmatch : matchAuthorization a r context = .ok ()) :
    (∃ b, (consumeAuthorization opts a.id r context look.now look.store).2 = .ok b) ↔ Held opts a look := by
  by_cases hmem : a ∈ look.store
  · by_cases hexpired : a.expired opts look.now = true
    · simp [consumeAuthorization, hissued.find, hmem, hunused, hexpired, Held]
    · simp [consumeAuthorization, hissued.find, hmem, hunused, hexpired, hmatch, Held]
  · simp [consumeAuthorization, hissued.find, hmem, Held]

end Looks

/-! ## The checks of an entry whose citation holds -/

section Verify

variable {env : PaperEnv} {ctx : SimulateContext} {c : ComposedChecks} {decision : ExecutionDecision}
  {market : Except MarketRefusal SimulatorMarketPrice} {approval : CitedRiskApproval}

/-- What is settled before the quantity is compared. -/
structure CitationHolds (ctx : SimulateContext) (c : ComposedChecks) (decision : ExecutionDecision)
    (approval : CitedRiskApproval) : Prop where
  paper : c.providerSlug = "paper" ∧ ctx.profile.environment = .paper
  enabled : ctx.profile.enabled = true
  built : buildServerExecutionDecision c.reloaded = .ok decision
  cited : ctx.cited = .fresh
  approval_eq : c.approval = some approval
  approved : approval.outcome = .approved
  reserved : c.reservationLive = true

/-- The quantity is the approved size, up to the tolerance. -/
def SizeAgrees (c : ComposedChecks) (approval : CitedRiskApproval) : Prop :=
  ∃ size ∈ approval.positionSize, |size - c.quantity| ≤ 1 / 10 ^ 9

theorem verify_size (hc : CitationHolds ctx c decision approval) (hsize : ¬ SizeAgrees c approval) :
    ∃ message, verifyComposedEntry env ctx c decision market = .error (.text message) := by
  have hnot : ¬ ∃ size ∈ approval.positionSize, |size - c.quantity| ≤ 1 / 10 ^ 9 := hsize
  refine ⟨"composed quantity does not match the cited risk approval", ?_⟩
  unfold verifyComposedEntry
  rw [hc.built]
  simp only [rejectUnless, hc.paper, hc.enabled, hc.cited, hc.approval_eq, hc.approved, hnot, bind, Except.bind,
    and_self, if_true, if_false]

theorem verify_fence (hc : CitationHolds ctx c decision approval) (hsize : SizeAgrees c approval) {reason : String}
    (hfence : c.fence = some reason) :
    verifyComposedEntry env ctx c decision market = .error (.text reason) := by
  have hagrees : ∃ size ∈ approval.positionSize, |size - c.quantity| ≤ 1 / 10 ^ 9 := hsize
  unfold verifyComposedEntry
  rw [hc.built]
  simp only [rejectUnless, hc.paper, hc.enabled, hc.cited, hc.approval_eq, hc.approved, hagrees, hc.reserved, hfence,
    bind, Except.bind, and_self, if_true]

theorem passed_price_spec
    (hpassed : (evaluatePaperSimulationGates (composedGateInput env ctx c approval decision market)).passed = true) :
    ∃ price spec, market = .ok price ∧ env.instrumentSpec c.reloaded.assetClass c.reloaded.symbol = some spec := by
  have hprice := passed_iff.mp hpassed .market_price_fresh
  have hspec := passed_iff.mp hpassed .valid_symbol
  simp only [gateCheck, composedGateInput, firstOf_eq_none, List.mem_singleton, forall_eq] at hprice hspec
  obtain ⟨spec, hspec⟩ := Option.isSome_iff_exists.mp (by simpa using hspec)
  cases market with
  | error refusal => simp [Except.toOption] at hprice
  | ok price => exact ⟨price, spec, rfl, hspec⟩

theorem verify_refused (hc : CitationHolds ctx c decision approval) (hsize : SizeAgrees c approval)
    (hfence : c.fence = none)
    (hrefused : (evaluatePaperSimulationGates (composedGateInput env ctx c approval decision market)).passed = false) :
    ∃ reason, verifyComposedEntry env ctx c decision market = .error (.gate reason) := by
  have hagrees : ∃ size ∈ approval.positionSize, |size - c.quantity| ≤ 1 / 10 ^ 9 := hsize
  unfold verifyComposedEntry
  rw [hc.built]
  simp only [rejectUnless, hc.paper, hc.enabled, hc.cited, hc.approval_eq, hc.approved, hagrees, hc.reserved, hfence,
    bind, Except.bind, and_self, if_true]
  split
  · exact ⟨_, rfl⟩
  · rename_i hpassed
    rw [hpassed] at hrefused
    cases hrefused

theorem verify_binding (hc : CitationHolds ctx c decision approval) (hsize : SizeAgrees c approval)
    (hfence : c.fence = none)
    (hpassed : (evaluatePaperSimulationGates (composedGateInput env ctx c approval decision market)).passed = true) :
    (c.binding = some true → ∃ v, verifyComposedEntry env ctx c decision market = .ok v) ∧
      (c.binding ≠ some true → ∃ message, verifyComposedEntry env ctx c decision market = .error (.text message)) := by
  have hagrees : ∃ size ∈ approval.positionSize, |size - c.quantity| ≤ 1 / 10 ^ 9 := hsize
  obtain ⟨price, spec, rfl, hspec⟩ := passed_price_spec hpassed
  unfold verifyComposedEntry
  rw [hc.built]
  simp only [rejectUnless, hc.paper, hc.enabled, hc.cited, hc.approval_eq, hc.approved, hagrees, hc.reserved, hfence,
    hspec, bind, Except.bind, and_self, if_true]
  split
  · rename_i hrefused
    rw [hrefused] at hpassed
    cases hpassed
  · cases hbinding : c.binding with
    | none => exact ⟨fun h => absurd h (by simp), fun _ => ⟨_, rfl⟩⟩
    | some bound =>
      cases bound with
      | true => exact ⟨fun _ => ⟨_, rfl⟩, fun h => absurd rfl h⟩
      | false => exact ⟨fun h => absurd h (by simp), fun _ => ⟨_, rfl⟩⟩

end Verify

/-! ## The second check -/

/-- The looks of an entry find the minted record or nothing under its id. -/
structure EntryReadings.Issued (readings : EntryReadings) (a : ExecutionAuthorization) : Prop where
  fence : VeltrixEye.Issued a readings.fenceLook
  binding : VeltrixEye.Issued a readings.bindingLook
  consume : VeltrixEye.Issued a readings.consumeLook

def ComposedEntryEnd.refusal? : ComposedEntryEnd → Option EntryRefusal
  | .rejected refusal => some refusal
  | _ => none

/-- Not refused by a step other than the simulation gates. -/
def ComposedEntryEnd.Uncontradicted : ComposedEntryEnd → Prop
  | .notFound _ => False
  | .rejected (.gate _) => True
  | .rejected _ => False
  | _ => True

/-- The simulation gates of a handoff. -/
def Handoff.simulationGates (env : PaperEnv) (opts : AuthorizationOptions) (h : Handoff) (readings : EntryReadings) :
    Option PaperSimulationGateResult :=
  (loadCitedRiskApproval h.tables h.riskDecisionId).map fun approval =>
    evaluatePaperSimulationGates (composedGateInput env (entryContext h.tables h.entryInput readings h.profile h.setup)
      (entryChecks opts h.tables h.entryInput readings h.profile h.setup) approval h.decision readings.market)

/-- The approved size fits the eight decimals it is handed over with. -/
def Handoff.SizeFits (h : Handoff) : Prop :=
  ∃ size ∈ h.verdict.positionSize, |size.toRat - size.toNumber 8| ≤ 1 / 10 ^ 9

/-- A live order already has the presented name. -/
def Handoff.Replays (h : Handoff) : Prop :=
  ∃ o, h.tables.db.order? h.identity.clientOrderId = some o ∧ o.dead = false

section Second

variable {env : PaperEnv} {opts : AuthorizationOptions} {inputs : CompositionInputs}
  {input : ExecutionCompositionInput} {t : CompositionTables} {h : Handoff} {readings : EntryReadings}
  {look : AuthorizationLook}

theorem ComposedFrom.minted (hc : ComposedFrom env opts inputs input t h) :
    ∃ id createdMs, h.authorization = (mintInput h.context h.identity h.decision h.quantity).record id createdMs := by
  have hcases := @createAuthorization_cases opts (mintInput h.context h.identity h.decision h.quantity)
    inputs.authorizationId inputs.mintClock inputs.mintStore
  rcases hcases with ⟨e, herror, -⟩ | ⟨-, hok⟩
  · rw [hc.authorization_eq] at herror
    cases herror
  · have hauthorization := hc.authorization_eq
    rw [hok] at hauthorization
    exact ⟨_, _, (Except.ok.inj hauthorization).symm⟩

theorem priceMatches_self (q : ℚ) : priceMatches (some (.fin q)) (some (.fin q)) = true := by
  simp [priceMatches, AUTHORIZATION_TOLERANCE]

theorem ComposedFrom.matches_minted (hc : ComposedFrom env opts inputs input t h) :
    h.authorization.consumed = false ∧
      matchAuthorization h.authorization (h.entryInput.request h.decision) h.context = .ok () ∧
      sameB1Binding h.authorization (h.entryInput.request h.decision) h.context = true := by
  obtain ⟨id, createdMs, hminted⟩ := hc.minted
  have hcontext : diffAuthorizationContext h.context h.context = none := diffAuthorizationContext_eq_none.mpr rfl
  have hnone : priceMatches none none = true := rfl
  rw [hminted]
  refine ⟨rfl, ?_, ?_⟩
  · simp [matchAuthorization, sameMutation, CreateAuthorizationInput.record, mintInput,
      ComposedPaperEntryInput.request, Handoff.entryInput, priceMatches_self, hcontext, hnone, AUTHORIZATION_TOLERANCE]
  · simp [sameB1Binding, sameMutation, CreateAuthorizationInput.record, mintInput,
      ComposedPaperEntryInput.request, Handoff.entryInput, priceMatches_self, hnone, AUTHORIZATION_TOLERANCE]

/-- **The second fence** passes exactly for a profile without an account label, while the authorization is
    held. -/
theorem ComposedFrom.second_fence (hc : ComposedFrom env opts inputs input t h) (hissued : Issued h.authorization look) :
    runFinalSafetyFence opts h.tables
        (h.entryInput.fenceInput h.profile.id h.setup.source.strategyId h.setup.source.setupId) look = .ok () ↔
      h.profile.accountRef = none ∧ Held opts h.authorization look := by
  obtain ⟨id, createdMs, hminted⟩ := hc.minted
  obtain ⟨-, hserver⟩ := h.profile.paper hc.paper
  have hunused := hc.matches_minted.1
  have hcontext : h.authorization.context = h.context := by rw [hminted]; rfl
  have huser : h.context.userId = input.userId := by rw [hc.context_eq]
  have hfence := hc.fence
  rw [runFinalSafetyFence_ok]
  constructor
  · intro hpassed
    obtain ⟨live, hlive, hbound⟩ := hpassed.authorization
    have hpeek : look.peek opts h.authorization.id = some live := hlive
    by_cases hheld : Held opts h.authorization look
    · rw [peek_held hissued hunused hheld, Option.some.injEq] at hpeek
      rw [← hpeek, hcontext, hc.context_eq] at hbound
      exact ⟨congrArg AuthorizationExecutionContext.accountRef hbound, hheld⟩
    · rw [peek_not_held hissued hunused hheld] at hpeek
      cases hpeek
  · rintro ⟨haccount, hheld⟩
    have hbound : h.authorization.context =
        (h.entryInput.fenceInput h.profile.id h.setup.source.strategyId h.setup.source.setupId).expectedContext := by
      rw [hcontext]
      simp [FinalFenceInput.expectedContext, ComposedPaperEntryInput.fenceInput, Handoff.entryInput, hc.context_eq,
        hc.paper, haccount, hserver, hc.riskDecisionId_eq]
    refine ⟨?_, ?_, ?_, ⟨_, peek_held hissued hunused hheld, hbound⟩, ?_⟩
    · simpa [ComposedPaperEntryInput.fenceInput, Handoff.entryInput, huser] using hfence.profile
    · simpa [ComposedPaperEntryInput.fenceInput, Handoff.entryInput, huser] using hfence.automation
    · simpa [ComposedPaperEntryInput.fenceInput, Handoff.entryInput, huser] using hfence.switches
    · simpa [ComposedPaperEntryInput.fenceInput, Handoff.entryInput, hc.riskDecisionId_eq, hc.nowMs_eq]
        using hfence.reservation

theorem ComposedFrom.entry_fence (hc : ComposedFrom env opts inputs input t h) (hissued : readings.Issued h.authorization) :
    (entryChecks opts h.tables h.entryInput readings h.profile h.setup).fence = none ↔
      h.profile.accountRef = none ∧ Held opts h.authorization readings.fenceLook := by
  rw [← hc.second_fence hissued.fence]
  simp only [entryChecks]
  split
  · rename_i hok
    simp [hok]
  · rename_i refusal herror
    simp [herror]

theorem ComposedFrom.entry_binding (hc : ComposedFrom env opts inputs input t h)
    (hissued : readings.Issued h.authorization) :
    (entryChecks opts h.tables h.entryInput readings h.profile h.setup).binding = some true ↔
      Held opts h.authorization readings.bindingLook := by
  obtain ⟨hunused, -, hbinding⟩ := hc.matches_minted
  show (readings.bindingLook.peek opts h.authorization.id).map
    (fun peeked => sameB1Binding peeked (h.entryInput.request h.decision) h.context) = some true ↔ _
  by_cases hheld : Held opts h.authorization readings.bindingLook
  · rw [peek_held hissued.binding hunused hheld]
    simp [hbinding, hheld]
  · rw [peek_not_held hissued.binding hunused hheld]
    simp [hheld]

theorem ComposedFrom.entry_consume (hc : ComposedFrom env opts inputs input t h)
    (hissued : readings.Issued h.authorization) :
    (entryChecks opts h.tables h.entryInput readings h.profile h.setup).consume = none ↔
      Held opts h.authorization readings.consumeLook := by
  obtain ⟨hunused, hmatch, -⟩ := hc.matches_minted
  rw [← consume_held hissued.consume hunused hmatch]
  show (match (consumeAuthorization opts h.authorization.id (h.entryInput.request h.decision) h.context
    readings.consumeLook.now readings.consumeLook.store).2 with | .ok _ => none | .error message => some message) =
      none ↔ _
  split
  · rename_i b hok
    simp [hok]
  · rename_i message herror
    simp [herror]

theorem ComposedFrom.holds (hc : ComposedFrom env opts inputs input t h) (readings : EntryReadings) :
    ∃ approval, loadCitedRiskApproval h.tables h.riskDecisionId = some approval ∧
      CitationHolds (entryContext h.tables h.entryInput readings h.profile h.setup)
        (entryChecks opts h.tables h.entryInput readings h.profile h.setup) h.decision approval ∧
      (SizeAgrees (entryChecks opts h.tables h.entryInput readings h.profile h.setup) approval ↔ h.SizeFits) := by
  have hover := hc.handedOver
  obtain ⟨row, hrow, hfrom⟩ := hover.cited
  have huser : h.context.userId = input.userId := by rw [hc.context_eq]
  have happroval : loadCitedRiskApproval h.tables h.riskDecisionId = some
      ⟨row.id, row.outcome, row.reason, row.engineVersion, row.positionSize.map Numeric.toRat⟩ := by
    rw [loadCitedRiskApproval, hc.riskDecisionId_eq, hrow]
    rfl
  refine ⟨_, happroval, ⟨⟨hc.paper, (h.profile.paper hc.paper).1⟩, hc.enabled, hc.decision_eq, ?_, happroval,
    hfrom.outcome_eq.trans hc.approved, ?_⟩, ?_⟩
  · show validateCitedDecision h.tables h.context.userId h.profile.id h.setup.source.setupId h.decision
      (some h.riskDecisionId) h.nowMs = _
    rw [huser, hc.riskDecisionId_eq, hc.nowMs_eq]
    exact hc.citation
  · show (h.tables.getActiveReservation h.riskDecisionId h.profile.id h.nowMs).isSome = true
    rw [hc.riskDecisionId_eq, hc.nowMs_eq]
    exact hc.fence.reservation
  · have hquantity := hc.quantity_eq
    show (∃ size ∈ row.positionSize.map Numeric.toRat, |size - h.quantity| ≤ 1 / 10 ^ 9) ↔ _
    rw [hfrom.positionSize_eq]
    unfold issuedSize at hquantity
    obtain ⟨size, hsize, hrounded⟩ := Option.map_eq_some_iff.mp hquantity
    simp [Handoff.SizeFits, hsize, hrounded]

theorem ComposedFrom.settled (hc : ComposedFrom env opts inputs input t h) (hissued : readings.Issued h.authorization)
    (price : SimulatorMarketPrice) (spec : InstrumentRiskSpec) :
    (settleComposedEntry env opts h.tables h.entryInput readings h.profile h.setup price spec).Uncontradicted ↔
      h.Replays ∨ Held opts h.authorization readings.consumeLook := by
  have huser : h.context.userId = input.userId := by rw [hc.context_eq]
  have hrederived : (deriveComposedEntryIdentity env h.tables.db h.entryInput.userId h.profile.id
      h.setup.source.setupId h.entryInput.baseHash).1 = h.entryInput.identity := by
    show (deriveComposedEntryIdentity env h.tables.db h.context.userId h.profile.id h.setup.source.setupId
      h.baseHash).1 = h.identity
    rw [huser, hc.handedOver.db_eq, hc.identity_eq]
  have hreplays : h.Replays ↔ ∃ o, (h.tables.db.order? h.identity.clientOrderId).filter (fun o => !o.dead) = some o := by
    simp [Handoff.Replays, Option.filter_eq_some_iff]
  unfold settleComposedEntry
  split
  · rename_i live hlive
    exact ⟨fun _ => .inl (hreplays.mpr ⟨live, hlive⟩), fun _ => trivial⟩
  · rename_i hnone
    have hnot : ¬ h.Replays := by
      rw [hreplays]
      rintro ⟨o, ho⟩
      have hfree : (h.tables.db.order? h.identity.clientOrderId).filter (fun o => !o.dead) = none := hnone
      rw [hfree] at ho
      cases ho
    rw [← hc.entry_consume hissued]
    simp only [hnot, false_or]
    rw [if_neg (not_not.mpr hrederived)]
    split
    · rename_i message hconsume
      simp [hconsume, ComposedEntryEnd.Uncontradicted]
    · rename_i hconsume
      simp [hconsume, ComposedEntryEnd.Uncontradicted]

end Second

/-- **The paper handoff.**  Whatever the profile, setup, policy and clocks: when a composition reaches its
    submission and nothing else changes the tables, the paper service can only be refused by its simulation
    gates exactly when a scalar is out of range (and the call throws), or the profile has no account label,
    the approved size fits eight decimals and the authorization is held at every look that is reached. -/
theorem handoff_consistent_iff (env : PaperEnv) (opts : AuthorizationOptions) (inputs : CompositionInputs)
    (input : ExecutionCompositionInput) (t : CompositionTables) (h : Handoff)
    (hcompose : composeAndSubmit env opts inputs input t = .ok h) (readings : EntryReadings)
    (hissued : readings.Issued h.authorization) :
    (executeComposedEntry env opts h.tables h.entryInput readings).Uncontradicted ↔
      h.entryInput.wellFormed = false ∨
        (h.profile.accountRef = none ∧ h.SizeFits ∧ Held opts h.authorization readings.fenceLook ∧
          ((∃ gates ∈ h.simulationGates env opts readings, gates.passed = false) ∨
            (Held opts h.authorization readings.bindingLook ∧
              (h.Replays ∨ Held opts h.authorization readings.consumeLook)))) := by
  have hc := composeAndSubmit_ok hcompose
  have hover := hc.handedOver
  have huser : h.context.userId = input.userId := by rw [hc.context_eq]
  have hprofile : h.tables.profile? h.entryInput.executionProfileId h.entryInput.userId = some h.profile := by
    show h.tables.profile? h.profile.id h.context.userId = _
    rw [huser]
    exact hover.profile
  have hsetup : h.tables.setup? h.entryInput.setupId h.entryInput.userId = some h.setup := by
    show h.tables.setup? h.setup.source.setupId h.context.userId = _
    rw [huser]
    exact hover.setup
  obtain ⟨approval, happroval, hholds, hsize⟩ := hc.holds readings
  have hdecision : h.entryInput.decision = h.decision := rfl
  have hgates : (∃ gates ∈ h.simulationGates env opts readings, gates.passed = false) ↔
      (evaluatePaperSimulationGates (composedGateInput env
        (entryContext h.tables h.entryInput readings h.profile h.setup)
        (entryChecks opts h.tables h.entryInput readings h.profile h.setup) approval h.decision
        readings.market)).passed = false := by
    simp [Handoff.simulationGates, happroval]
  unfold executeComposedEntry
  by_cases hform : h.entryInput.wellFormed = false
  · simp [hform, ComposedEntryEnd.Uncontradicted]
  · rw [if_neg hform, hprofile]
    simp only [rejectUnless, hc.paper, (h.profile.paper hc.paper).1, hc.enabled, hsetup, bind, Except.bind, and_self,
      if_true, hdecision]
    rw [or_iff_right hform]
    by_cases hfits : h.SizeFits
    · by_cases hfence : h.profile.accountRef = none ∧ Held opts h.authorization readings.fenceLook
      · have hnone := (hc.entry_fence hissued).mpr hfence
        simp only [hfits, hfence.1, hfence.2, true_and, hgates]
        by_cases hpassed : (evaluatePaperSimulationGates (composedGateInput env
            (entryContext h.tables h.entryInput readings h.profile h.setup)
            (entryChecks opts h.tables h.entryInput readings h.profile h.setup) approval h.decision
            readings.market)).passed = true
        · obtain ⟨hbound, hunbound⟩ := verify_binding hholds (hsize.mpr hfits) hnone hpassed
          rw [hc.entry_binding hissued] at hbound
          rw [ne_eq, hc.entry_binding hissued] at hunbound
          by_cases hheld : Held opts h.authorization readings.bindingLook
          · obtain ⟨v, hv⟩ := hbound hheld
            simp only [hv, hpassed, hheld, true_and, Bool.true_eq_false, false_or]
            exact hc.settled hissued v.1 v.2
          · obtain ⟨message, hmessage⟩ := hunbound hheld
            simp [hmessage, hpassed, hheld, ComposedEntryEnd.Uncontradicted]
        · have hrefused := Bool.eq_false_of_not_eq_true hpassed
          obtain ⟨reason, hreason⟩ := verify_refused hholds (hsize.mpr hfits) hnone hrefused
          simp [hreason, hrefused, ComposedEntryEnd.Uncontradicted]
      · obtain ⟨reason, hreason⟩ := Option.ne_none_iff_exists'.mp (mt (hc.entry_fence hissued).mp hfence)
        have hverify : verifyComposedEntry env (entryContext h.tables h.entryInput readings h.profile h.setup)
            (entryChecks opts h.tables h.entryInput readings h.profile h.setup) h.decision readings.market =
            .error (.text reason) := verify_fence hholds (hsize.mpr hfits) hreason
        simp only [hverify, ComposedEntryEnd.Uncontradicted]
        tauto
    · have hverify : ∃ message, verifyComposedEntry env (entryContext h.tables h.entryInput readings h.profile h.setup)
          (entryChecks opts h.tables h.entryInput readings h.profile h.setup) h.decision readings.market =
          .error (.text message) := verify_size hholds (mt hsize.mp hfits)
      obtain ⟨message, hmessage⟩ := hverify
      simp [hmessage, hfits, ComposedEntryEnd.Uncontradicted]

/-! ## A profile with an account label -/

/-- One user with automation on, one setup, and the paper profile `createProfile` stores. -/
def paperTables (accountRef : Option String) : CompositionTables where
  profiles := (createProfile (fun _ => some [.paper]) [] "user" "profile"
    ⟨.paper, "paper", accountRef, none⟩).toOption.toList
  setups := [⟨"user", gapSetup⟩]
  safety := ⟨false, [], [⟨"user", true⟩], fun _ => true⟩
  decisions := []
  reservations := []
  requests := []
  db := Db.empty

/-- The authorization of a twentieth of a lot. -/
def mintedRecord (accountRef : Option String) : ExecutionAuthorization :=
  (mintInput ⟨"user", "profile", "paper", .paper, accountRef, none, some "setup", some "decision"⟩
    (composedEntryIdsForAttempt sampleEnv (sampleEnv.identityHash "user" "setup" "profile" .open_long) 1) gapDecision
    (5 / 100)).record "authorization" (.fin 1700000000000)

def promptLook (accountRef : Option String) : AuthorizationLook := ⟨[mintedRecord accountRef], .fin 1700000000000⟩

def handoffInputs (accountRef : Option String) : CompositionInputs where
  risk := ⟨defaultRow, { lossContext with account := freshAccount, closed := [] }, "decision", 1700000000000⟩
  providerReady := true
  instrumentKnown := true
  requestId := "request"
  authorizationId := "authorization"
  mintStore := []
  mintClock := ⟨.fin 1700000000000, .fin 1700000000000, .fin 1700000000000⟩
  fenceLook := promptLook accountRef

def handoffRequest : ExecutionCompositionInput := ⟨"user", "profile", "setup", none, none, 1700000000000⟩

/-- Everything is looked at in the same millisecond, with the market at the entry price. -/
def handoffReadings (accountRef : Option String) : EntryReadings :=
  ⟨promptLook accountRef, promptLook accountRef, promptLook accountRef, marketAt (11 / 10), some ⟨true, true⟩⟩

theorem handoffReadings_issued (accountRef : Option String) :
    (handoffReadings accountRef).Issued (mintedRecord accountRef) := by
  have hone : Issued (mintedRecord accountRef) (promptLook accountRef) := fun b hb _ => List.mem_singleton.mp hb
  exact ⟨hone, hone, hone⟩

/-- The composition passes its gates and its fence, and the paper service refuses its own authorization. -/
theorem labelled_profile_is_refused :
    ∃ h, composeAndSubmit sampleEnv .default (handoffInputs (some "Main")) handoffRequest (paperTables (some "Main")) =
        .ok h ∧
      (handoffReadings (some "Main")).Issued h.authorization ∧
      ¬ (executeComposedEntry sampleEnv .default h.tables h.entryInput (handoffReadings (some "Main"))).Uncontradicted := by
  have hrun : (composeAndSubmit sampleEnv .default (handoffInputs (some "Main")) handoffRequest
      (paperTables (some "Main"))).toOption.map (fun h => (decide (h.authorization = mintedRecord (some "Main")),
        (executeComposedEntry sampleEnv .default h.tables h.entryInput (handoffReadings (some "Main"))).refusal?)) =
      some (true, some (.text "execution authorization does not match the submission context")) := by
    decide +kernel
  cases hcompose : composeAndSubmit sampleEnv .default (handoffInputs (some "Main")) handoffRequest
      (paperTables (some "Main")) with
  | error e =>
    rw [hcompose] at hrun
    cases hrun
  | ok h =>
    rw [hcompose] at hrun
    simp only [Except.toOption, Option.map_some, Option.some.injEq, Prod.mk.injEq, decide_eq_true_eq] at hrun
    refine ⟨h, rfl, hrun.1 ▸ handoffReadings_issued _, fun hagrees => ?_⟩
    cases hend : executeComposedEntry sampleEnv .default h.tables h.entryInput (handoffReadings (some "Main")) with
    | rejected refusal =>
      rw [hend] at hrun hagrees
      rw [Option.some.inj hrun.2] at hagrees
      exact hagrees
    | _ =>
      rw [hend] at hrun
      cases hrun.2

/-- Without a label the same handoff is not contradicted. -/
theorem unlabelled_profile_is_accepted :
    ∃ h, composeAndSubmit sampleEnv .default (handoffInputs none) handoffRequest (paperTables none) = .ok h ∧
      (executeComposedEntry sampleEnv .default h.tables h.entryInput (handoffReadings none)).Uncontradicted := by
  have hrun : (composeAndSubmit sampleEnv .default (handoffInputs none) handoffRequest
      (paperTables none)).toOption.map (fun h => (decide (h.authorization = mintedRecord none),
        decide (h.profile.accountRef = none),
        decide (∃ size ∈ h.verdict.positionSize, |size.toRat - size.toNumber 8| ≤ 1 / 10 ^ 9))) =
      some (true, true, true) := by
    decide +kernel
  cases hcompose : composeAndSubmit sampleEnv .default (handoffInputs none) handoffRequest (paperTables none) with
  | error e =>
    rw [hcompose] at hrun
    cases hrun
  | ok h =>
    rw [hcompose] at hrun
    simp only [Except.toOption, Option.map_some, Option.some.injEq, Prod.mk.injEq, decide_eq_true_eq] at hrun
    obtain ⟨hminted, haccount, hsize⟩ := hrun
    have hissued : (handoffReadings none).Issued h.authorization := hminted ▸ handoffReadings_issued none
    have hheld : Held .default h.authorization (promptLook none) := by
      rw [hminted]
      exact ⟨List.mem_singleton_self _, by decide +kernel⟩
    exact ⟨h, rfl, (handoff_consistent_iff sampleEnv .default (handoffInputs none) handoffRequest (paperTables none) h
      hcompose (handoffReadings none) hissued).mpr (.inr ⟨haccount, hsize, hheld, .inr ⟨hheld, .inr hheld⟩⟩)⟩

end VeltrixEye
