import VeltrixEye.Execution.FillTransaction
import VeltrixEye.Execution.PaperGates

/-!
# From a setup to an authorized entry (`PaperExecutionService.simulate`)

The server builds the execution decision from the stored setup, the risk engine issues a verdict on
it, the gates check both against the current market price, and what passes becomes the
authorization of the entry order.

* `buildServerExecutionDecision_ok` — what a built decision satisfies.
-/

namespace VeltrixEye

/-! ## The server-built decision -/

/-- `SetupDecisionSource`: the setup row with its version's configuration.  An unknown timeframe
    reads as none. -/
structure SetupDecisionSource where
  setupId : String
  strategyId : String
  assetClass : String
  symbol : String
  direction : Direction
  state : SetupState
  asOfMs : ℤ
  entryPrice : Option (Numeric 24 10)
  stopLossPrice : Option (Numeric 24 10)
  tp1Price : Option (Numeric 24 10)
  qualityScore : Option ℤ
  minQualityScore : Option ℤ
  timeframe : Option Timeframe

/-- Why no decision was built.  `invalidDecision` carries the list of schema issues in the source. -/
inductive DecisionRefusal where
  | text (message : String)
  | invalidDecision
  deriving DecidableEq

def impliedRr (entry stopLoss takeProfit : ℚ) : Option ℚ :=
  if 0 < |entry - stopLoss| then some (|takeProfit - entry| / |entry - stopLoss|) else none

/-- `executionDecisionSchema`, the checks that are not about the text format of an id. -/
def validExecutionDecision (d : ExecutionDecision) (expectedRr : ℚ) : Bool :=
  0 < d.entryPrice && 0 < d.stopLossPrice && 0 < d.takeProfitPrice &&
  0 < expectedRr && expectedRr ≤ 100 &&
  0 ≤ d.qualityScore && d.qualityScore ≤ 100 && 0 ≤ d.minQualityScore && d.minQualityScore ≤ 100 &&
  0 < d.asOfMs && d.asOfMs ≤ 9999999999999 &&
  (match d.direction with
    | .long => d.stopLossPrice < d.entryPrice && d.entryPrice < d.takeProfitPrice
    | .short => d.entryPrice < d.stopLossPrice && d.takeProfitPrice < d.entryPrice) &&
  (match d.action with
    | .open_long => d.direction = .long
    | .open_short => d.direction = .short
    | .close_position => true) &&
  !(0 < |d.entryPrice - d.stopLossPrice| &&
    |d.takeProfitPrice - d.entryPrice| / |d.entryPrice - d.stopLossPrice| + 1 / 10 ^ 9 < expectedRr)

/-- A stored price that is present and positive. -/
def validPrice (price : Option (Numeric 24 10)) (message : String) : Except DecisionRefusal ℚ :=
  match price with
  | some p => if 0 < p.toRat then .ok p.toRat else .error (.text message)
  | none => .error (.text message)

def orRefuse {α : Type} (x : Option α) (message : String) : Except DecisionRefusal α :=
  match x with
  | some a => .ok a
  | none => .error (.text message)

def refuseUnless (p : Prop) [Decidable p] (refusal : DecisionRefusal) : Except DecisionRefusal Unit :=
  if p then .ok () else .error refusal

/-- The action a setup's direction stands for. -/
def entryAction : Direction → RiskAction
  | .long => .open_long
  | .short => .open_short

theorem entryAction_ne_close (direction : Direction) : entryAction direction ≠ .close_position := by
  cases direction <;> simp [entryAction]

def buildServerExecutionDecision (src : SetupDecisionSource) : Except DecisionRefusal ExecutionDecision := do
  refuseUnless (src.state = .confirmed ∨ src.state = .triggered)
    (.text ("setup state \"" ++ src.state.text ++ "\" is not eligible for execution"))
  let entryPrice ← validPrice src.entryPrice "setup has no valid entry price"
  let stopLossPrice ← validPrice src.stopLossPrice "setup has no valid stop loss"
  let takeProfitPrice ← validPrice src.tp1Price "setup has no valid take profit"
  let qualityScore ← orRefuse src.qualityScore "setup has not been scored"
  let minQualityScore ← orRefuse src.minQualityScore "strategy version has no risk configuration"
  refuseUnless (minQualityScore ≤ qualityScore) (.text "setup quality is below the configured minimum")
  let timeframe ← orRefuse src.timeframe "strategy version has no usable setup timeframe"
  let rr ← orRefuse ((impliedRr entryPrice stopLossPrice takeProfitPrice).filter (0 < ·))
    "setup levels imply an invalid reward:risk"
  let decision : ExecutionDecision := {
    strategyId := src.strategyId
    setupId := src.setupId
    action := entryAction src.direction
    assetClass := src.assetClass
    symbol := src.symbol
    timeframe
    direction := src.direction
    entryPrice
    stopLossPrice
    takeProfitPrice
    qualityScore
    minQualityScore
    asOfMs := src.asOfMs }
  refuseUnless (validExecutionDecision decision rr) .invalidDecision
  return decision

/-- What the server built from a setup. -/
structure BuiltFrom (src : SetupDecisionSource) (d : ExecutionDecision) : Prop where
  setupId_eq : d.setupId = src.setupId
  assetClass_eq : d.assetClass = src.assetClass
  symbol_eq : d.symbol = src.symbol
  direction_eq : d.direction = src.direction
  action_eq : d.action = entryAction src.direction
  entry : ∃ p, src.entryPrice = some p ∧ d.entryPrice = p.toRat
  stop : ∃ p, src.stopLossPrice = some p ∧ d.stopLossPrice = p.toRat
  long_levels : d.direction = .long → d.stopLossPrice < d.entryPrice
  short_levels : d.direction = .short → d.entryPrice < d.stopLossPrice

section Built

variable {src : SetupDecisionSource} {d : ExecutionDecision}

@[simp] theorem refuseUnless_ok {p : Prop} [Decidable p] {refusal : DecisionRefusal} {u : Unit} :
    refuseUnless p refusal = .ok u ↔ p := by
  unfold refuseUnless
  split <;> simp_all

theorem validPrice_ok {price : Option (Numeric 24 10)} {message : String} {q : ℚ}
    (h : validPrice price message = .ok q) : ∃ p, price = some p ∧ q = p.toRat := by
  unfold validPrice at h
  split at h
  · rename_i p
    split at h
    · cases h
      exact ⟨p, rfl, rfl⟩
    · cases h
  · cases h

theorem validExecutionDecision_levels {rr : ℚ} (h : validExecutionDecision d rr = true) :
    (d.direction = .long → d.stopLossPrice < d.entryPrice) ∧
      (d.direction = .short → d.entryPrice < d.stopLossPrice) := by
  simp only [validExecutionDecision, Bool.and_eq_true] at h
  obtain ⟨⟨⟨-, hlevels⟩, -⟩, -⟩ := h
  constructor
  · intro hdir
    rw [hdir] at hlevels
    simp only [Bool.and_eq_true, decide_eq_true_eq] at hlevels
    exact hlevels.1
  · intro hdir
    rw [hdir] at hlevels
    simp only [Bool.and_eq_true, decide_eq_true_eq] at hlevels
    exact hlevels.1

theorem buildServerExecutionDecision_ok (h : buildServerExecutionDecision src = .ok d) :
    BuiltFrom src d := by
  unfold buildServerExecutionDecision at h
  simp only [Except.bind_ok_iff, refuseUnless_ok] at h
  obtain ⟨-, -, entry, hentry, stop, hstop, target, -, quality, -, minQuality, -, -, -, timeframe, -, rr, -,
    -, hvalid, h⟩ := h
  cases h
  obtain ⟨hlong, hshort⟩ := validExecutionDecision_levels hvalid
  exact ⟨rfl, rfl, rfl, rfl, rfl, validPrice_ok hentry, validPrice_ok hstop, hlong, hshort⟩

end Built

/-! ## Verdict, gates and authorization -/

/-- The candidate `evaluate` makes of a decision; a simulation brings no spread or slippage. -/
def candidateOf (d : ExecutionDecision) : RiskCandidate where
  action := d.action
  symbol := d.symbol
  direction := d.direction
  entryPrice := .fin d.entryPrice
  stopLossPrice := .fin d.stopLossPrice
  takeProfitPrice := .fin d.takeProfitPrice
  spreadPips := none
  slippagePips := none

/-- `positionSize` of the persisted decision: eight decimals. -/
def issuedSize (verdict : RiskEngineVerdict) : Option ℚ := verdict.positionSize.map fun size => size.toNumber 8

/-- What `validateCitedDecision` found, when the caller cites a risk decision. -/
inductive CitedDecision where
  | fresh
  | not_found
  | rejected (reason decisionId engineVersion : String)
  deriving DecidableEq

/-- What `simulate` has loaded for one call. -/
structure SimulateContext where
  userId : String
  executionProfileId : String
  profile : GateProfile
  killSwitches : GateKillSwitches
  providerHealth : Option GateHealth
  setup : SetupDecisionSource
  cited : CitedDecision
  riskDecisionId : String
  nowMs : ℤ

/-- The verdict as the gates see it: a rejected citation replaces it. -/
def gateRiskDecision (ctx : SimulateContext) (verdict : RiskEngineVerdict) : GateRiskDecision :=
  match ctx.cited with
  | .rejected reason decisionId engineVersion =>
    ⟨.rejected, some reason, some decisionId, some engineVersion, none, none⟩
  | _ => ⟨verdict.outcome, some verdict.reason, some ctx.riskDecisionId, some verdict.engineVersion,
      (issuedSize verdict).map JsNumber.fin, some verdict.exposureWithinLimits⟩

def simulateGateInput (env : PaperEnv) (ctx : SimulateContext) (decision : ExecutionDecision)
    (verdict : RiskEngineVerdict) (market : Except MarketRefusal SimulatorMarketPrice) :
    PaperSimulationGateInput where
  authenticated := true
  authorized := true
  profile := some ctx.profile
  killSwitches := ctx.killSwitches
  providerHealth := ctx.providerHealth
  decision := some decision
  setup := some ⟨ctx.setup.setupId, ctx.setup.direction, ctx.setup.state⟩
  riskDecision := some (gateRiskDecision ctx verdict)
  effectiveMinRr := some verdict.effectiveMinRr
  instrumentSpec := env.instrumentSpec ctx.setup.assetClass ctx.setup.symbol
  fillPrice := market.toOption.map SimulatorMarketPrice.price
  marketPrice := market.toOption.map fun p => ⟨p.price, p.ageMs, p.thresholdMs⟩
  marketPriceError := match market with | .ok _ => none | .error refusal => some refusal.reason

/-- The client order id of an attempt: a retry keeps a shorter prefix of the hash. -/
def entryClientOrderId (hash : String) (attempt : ℕ) : String :=
  if attempt = 1 then paperClientOrderId hash .entry
  else "ve-" ++ sliceTo 20 hash ++ "-r" ++ toString attempt

/-- `baseHash` of an entry. -/
def entryIdentity (env : PaperEnv) (ctx : SimulateContext) (decision : ExecutionDecision) : String :=
  env.identityHash ctx.userId ctx.setup.setupId ctx.executionProfileId decision.action

def entryAuthorization (env : PaperEnv) (ctx : SimulateContext) (decision : ExecutionDecision) (size : ℚ)
    (price : SimulatorMarketPrice) (spec : InstrumentRiskSpec) (attempt : ℕ) : PaperAuthorization where
  userId := ctx.userId
  executionProfileId := ctx.executionProfileId
  setupId := ctx.setup.setupId
  assetClass := ctx.setup.assetClass
  symbol := ctx.setup.symbol
  side := if decision.direction = .long then .buy else .sell
  kind := .entry
  quantity := .fin size
  clientOrderId := entryClientOrderId (entryIdentity env ctx decision) attempt
  idempotencyKey := env.orderIdempotencyKey (entryIdentity env ctx decision) .entry attempt
  decision := decision
  positionId := none
  positionKey := entryIdentity env ctx decision
  referencePrice := price.price
  referencePriceMs := price.timeMs
  spec := spec
  createdMs := ctx.nowMs

structure GateRefusal where
  gate : PaperSimulationGateId
  reason : GateReason
  deriving DecidableEq

/-- `simulate` from the verdict to the authorization of the entry. -/
def authorizeEntry (env : PaperEnv) (ctx : SimulateContext) (decision : ExecutionDecision)
    (verdict : RiskEngineVerdict) (market : Except MarketRefusal SimulatorMarketPrice) (attempt : ℕ) :
    Except GateRefusal PaperAuthorization :=
  if ctx.cited = .not_found then
    .error ⟨.risk_decision_issued, .text "risk decision was not found for this account"⟩
  else match evaluatePaperSimulationGates (simulateGateInput env ctx decision verdict market) with
  | ⟨false, failedGate, reason, _⟩ =>
    .error ⟨failedGate.getD .valid_signal, reason.getD (.text "paper simulation refused")⟩
  | ⟨true, _, _, _⟩ =>
    match market, issuedSize verdict, env.instrumentSpec ctx.setup.assetClass ctx.setup.symbol with
    | .ok price, some size, some spec => .ok (entryAuthorization env ctx decision size price spec attempt)
    | .error refusal, _, _ => .error ⟨.market_price_fresh, .text refusal.reason⟩
    -- the gates let no missing size or specification through
    | _, none, _ => .error ⟨.valid_position_size, .text "risk decision carries no usable position size"⟩
    | _, _, none => .error ⟨.valid_symbol, .text "symbol is not in the platform market universe"⟩

section Authorize

variable {env : PaperEnv} {ctx : SimulateContext} {decision : ExecutionDecision} {verdict : RiskEngineVerdict}
  {market : Except MarketRefusal SimulatorMarketPrice}

theorem approved_of_passed
    (h : (evaluatePaperSimulationGates (simulateGateInput env ctx decision verdict market)).passed = true) :
    verdict.outcome = .approved := by
  have hgate := passed_iff.mp h .risk_approved
  simp only [gateCheck, simulateGateInput, firstOf_eq_none, List.mem_singleton, forall_eq,
    decide_eq_false_iff_not, not_not] at hgate
  unfold gateRiskDecision at hgate
  split at hgate
  · cases hgate
  · exact hgate

/-- **What an authorization was made from.** -/
theorem authorizeEntry_ok {attempt : ℕ} {auth : PaperAuthorization}
    (h : authorizeEntry env ctx decision verdict market attempt = .ok auth) :
    ∃ price size spec, market = .ok price ∧ issuedSize verdict = some size ∧
      env.instrumentSpec ctx.setup.assetClass ctx.setup.symbol = some spec ∧
      verdict.outcome = .approved ∧
      (∃ fill, price.price = .fin fill ∧
        FillLevels decision fill (requiredRr (some verdict.effectiveMinRr))) ∧
      auth = entryAuthorization env ctx decision size price spec attempt := by
  unfold authorizeEntry at h
  split at h
  · cases h
  split at h
  · cases h
  rename_i hgate
  have hpassed : (evaluatePaperSimulationGates
      (simulateGateInput env ctx decision verdict market)).passed = true := by rw [hgate]
  split at h
  · rename_i price size spec hsize hspec
    cases h
    obtain ⟨fill, hfill, hlevels⟩ := passed_levels rfl rfl hpassed
    exact ⟨price, size, spec, rfl, hsize, hspec, approved_of_passed hpassed, ⟨fill, hfill, hlevels⟩, rfl⟩
  all_goals cases h

end Authorize

/-! ## What the next evaluation sees -/

/-- The snapshot `evaluate` takes of an open position. -/
def openPositionSnapshot (env : PaperEnv) (row : PositionRow) : OpenPositionSnapshot where
  symbol := row.symbol
  direction := row.direction
  quantity := (Dec.fromUnknown row.quantity).getD Dec.zero
  entry := (Dec.fromUnknown row.averageEntryPrice).getD Dec.zero
  stopLoss := row.stopLossPrice.bind Dec.fromUnknown
  spec := env.instrumentSpec row.assetClass row.symbol

/-- The open positions of a profile. -/
def Db.openPositions (db : Db) (userId executionProfileId : String) : List PositionRow :=
  db.positions.filter fun p =>
    p.userId = userId ∧ p.executionProfileId = executionProfileId ∧ p.status = .«open»

/-- `loadOpenPositions` of the risk service. -/
def RiskEngineService.loadOpenPositions (env : PaperEnv) (db : Db) (userId executionProfileId : String) :
    List OpenPositionSnapshot :=
  (db.openPositions userId executionProfileId).map (openPositionSnapshot env)

end VeltrixEye
