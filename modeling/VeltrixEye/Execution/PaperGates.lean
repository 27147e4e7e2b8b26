import VeltrixEye.Risk.Service
import VeltrixEye.Execution.Rows

/-!
# The paper simulation gates (`execution/paper-gates.ts`)

The checklist a simulation passes before an order may exist: evaluated in a pinned order, stopping
at the first failure.

* `FillLevels` / `passed_levels` — what a passing simulation says about its levels at the fill
  price: the stop protects the fill, the target rewards it and the reward:risk floor holds there.
  Nothing bounds the distance of the fill from the approved entry.
-/

namespace VeltrixEye

/-- `PAPER_SIMULATION_GATE_IDS`. -/
inductive PaperSimulationGateId where
  | authenticated
  | authorized
  | paper_profile
  | kill_switch
  | provider_ready
  | valid_signal
  | risk_decision_issued
  | risk_approved
  | valid_position_size
  | valid_symbol
  | market_price_fresh
  | valid_order_params
  | valid_stop_loss
  | valid_take_profit
  | acceptable_rr
  | exposure_limits
  deriving DecidableEq

/-- The pinned order. -/
def PAPER_SIMULATION_GATE_IDS : List PaperSimulationGateId :=
  [.authenticated, .authorized, .paper_profile, .kill_switch, .provider_ready, .valid_signal,
    .risk_decision_issued, .risk_approved, .valid_position_size, .valid_symbol, .market_price_fresh,
    .valid_order_params, .valid_stop_loss, .valid_take_profit, .acceptable_rr, .exposure_limits]

/-- `SETUP_STATES`. -/
inductive SetupState where
  | developing
  | watching
  | almost_ready
  | confirmed
  | triggered
  | invalidated
  | expired
  | completed
  deriving DecidableEq

def SetupState.text : SetupState → String
  | developing => "developing"
  | watching => "watching"
  | almost_ready => "almost_ready"
  | confirmed => "confirmed"
  | triggered => "triggered"
  | invalidated => "invalidated"
  | expired => "expired"
  | completed => "completed"

inductive ExecutionEnvironment where
  | paper
  | demo
  | live
  deriving DecidableEq

def ExecutionEnvironment.text : ExecutionEnvironment → String
  | paper => "paper"
  | demo => "demo"
  | live => "live"

structure GateProfile where
  enabled : Bool
  environment : ExecutionEnvironment

structure GateKillSwitches where
  global : Bool
  user : Bool
  strategy : Bool
  profile : Bool

/-- The health snapshot of the gate: both conditions are stated as booleans. -/
structure GateHealth where
  healthy : Bool
  configured : Bool

structure GateSetup where
  id : String
  direction : Direction
  state : SetupState

structure GateRiskDecision where
  outcome : RiskOutcome
  reason : Option String
  decisionId : Option String
  engineVersion : Option String
  positionSize : Option JsNumber
  exposureWithinLimits : Option Bool

structure GateMarketPrice where
  price : JsNumber
  ageMs : ℤ
  thresholdMs : ℤ

structure PaperSimulationGateInput where
  authenticated : Bool
  authorized : Bool
  profile : Option GateProfile
  killSwitches : GateKillSwitches
  providerHealth : Option GateHealth
  decision : Option ExecutionDecision
  setup : Option GateSetup
  riskDecision : Option GateRiskDecision
  effectiveMinRr : Option JsNumber
  instrumentSpec : Option InstrumentRiskSpec
  fillPrice : Option JsNumber
  marketPrice : Option GateMarketPrice
  marketPriceError : Option String

/-- Why a gate failed.  `rrBelowMinimum` is the text that names the reward:risk at the fill price
    and the required one. -/
inductive GateReason where
  | text (message : String)
  | rrBelowMinimum (rr minRr : JsNumber)
  deriving DecidableEq

/-- The message of the first condition that holds. -/
def firstOf (conditions : List (Bool × String)) : Option GateReason :=
  (conditions.find? fun c => c.1).map fun c => .text c.2

/-- `fillRr`: the reward:risk at the actual fill price. -/
def fillRr (fill stop target : ℚ) : Option ℚ :=
  if 0 < |fill - stop| then some (|target - fill| / |fill - stop|) else none

/-- `Math.max(input.effectiveMinRr ?? platform, platform)`. -/
def requiredRr (effectiveMinRr : Option JsNumber) : JsNumber :=
  JsNumber.max (effectiveMinRr.getD (.fin PLATFORM_RISK_CEILINGS.minRr)) (.fin PLATFORM_RISK_CEILINGS.minRr)

/-- `rr + 1e-9 < minRr`. -/
def rrTooLow (rr : ℚ) (minRr : JsNumber) : Bool := JsNumber.lt (.fin (rr + 1 / 10 ^ 9)) minRr

/-- The size check: inside the instrument's and the platform's bounds and on the step. -/
def checkPositionSize (size : JsNumber) (spec : InstrumentRiskSpec) : Option GateReason :=
  match Dec.fromNumber size, Dec.fromNumber spec.quantityStep, Dec.fromNumber spec.minQuantity,
    Dec.fromNumber spec.maxQuantity, Dec.fromNumber (.fin PLATFORM_RISK_CEILINGS.maxPositionSize) with
  | some qty, some step, some minQty, some specMax, some platformMax =>
    firstOf [(qty < minQty, "position size is below the instrument minimum"),
      (min specMax platformMax < qty, "position size exceeds the permitted maximum"),
      (qty.floorToStep step ≠ .ok (some qty),
        "position size is not aligned to the instrument quantity step")]
  | _, _, _, _, _ => some (.text "instrument risk specification is invalid")

/-- One `case` of the gate switch: `none` when the gate lets the simulation through. -/
def gateCheck (input : PaperSimulationGateInput) : PaperSimulationGateId → Option GateReason
  | .authenticated => firstOf [(!input.authenticated, "authentication required")]
  | .authorized =>
    firstOf [(!input.authorized, "caller does not own the referenced setup or execution profile")]
  | .paper_profile =>
    match input.profile with
    | none => some (.text "execution profile not found")
    | some p =>
      firstOf [(!p.enabled, "execution profile is disabled"),
        (p.environment ≠ .paper, "execution environment \"" ++ p.environment.text ++ "\" is not permitted")]
  | .kill_switch =>
    firstOf [(input.killSwitches.global, "global kill switch is active"),
      (input.killSwitches.user, "user kill switch is active"),
      (input.killSwitches.strategy, "strategy kill switch is active"),
      (input.killSwitches.profile, "execution profile kill switch is active")]
  | .provider_ready =>
    match input.providerHealth with
    | none => some (.text "paper simulator health is unknown")
    | some health =>
      firstOf [(!health.configured, "paper simulator is not configured"),
        (!health.healthy, "paper simulator is not healthy")]
  | .valid_signal =>
    match input.decision, input.setup with
    | none, _ => some (.text "no server-issued execution decision available")
    | _, none => some (.text "setup referenced by the decision was not found")
    | some d, some s =>
      firstOf [(s.id ≠ d.setupId, "decision does not reference the resolved setup"),
        (s.state ≠ .confirmed ∧ s.state ≠ .triggered,
          "setup state \"" ++ s.state.text ++ "\" is not eligible for execution"),
        (s.direction ≠ d.direction, "decision direction conflicts with the setup direction"),
        (d.qualityScore < d.minQualityScore, "setup quality is below the configured minimum")]
  | .risk_decision_issued =>
    match input.riskDecision with
    | none => some (.text "no server-issued risk decision available")
    | some r =>
      firstOf [(r.decisionId.getD "" = "", "risk decision id is missing"),
        (r.engineVersion.getD "" = "", "risk decision engine version is missing"),
        (r.engineVersion ≠ some RISK_ENGINE_VERSION,
          "risk engine version \"" ++ r.engineVersion.getD "" ++ "\" is not recognized")]
  | .risk_approved =>
    match input.riskDecision with
    | none => some (.text "no server-issued risk decision available")
    | some r =>
      firstOf [(r.outcome ≠ .approved, r.reason.getD "risk decision rejected the simulation")]
  | .valid_position_size =>
    match input.riskDecision with
    | none => some (.text "no server-issued risk decision available")
    | some r =>
      match r.positionSize with
      | none => some (.text "risk decision carries no usable position size")
      | some size =>
        if !size.isFinite || !JsNumber.lt 0 size then
          some (.text "risk decision carries no usable position size")
        else
          match input.instrumentSpec with
          | none => some (.text "instrument risk specification is unavailable")
          | some spec => checkPositionSize size spec
  | .valid_symbol =>
    firstOf [(input.instrumentSpec.isNone, "symbol is not in the platform market universe")]
  | .market_price_fresh =>
    match input.marketPrice with
    | none => some (.text (input.marketPriceError.getD "no server market data is available for this instrument"))
    | some m =>
      firstOf [(!m.price.isFinite || !JsNumber.lt 0 m.price,
          "server market price is not a positive finite number"),
        (m.ageMs < 0, "server market data timestamp is in the future (clock skew)"),
        (m.thresholdMs < m.ageMs, "server market data is stale (" ++ secondsText m.ageMs ++
          "s old, limit " ++ secondsText m.thresholdMs ++ "s)")]
  | .valid_order_params =>
    match input.decision with
    | none => some (.text "no server-issued execution decision available")
    | some d =>
      firstOf [(¬ (0 < d.entryPrice ∧ 0 < d.stopLossPrice ∧ 0 < d.takeProfitPrice),
          "order price parameters must be positive"),
        (¬ 0 < d.asOfMs, "decision anchor is invalid"),
        (¬ ∃ fill ∈ input.fillPrice, fill.isFinite ∧ JsNumber.lt 0 fill,
          "a positive server market price is required")]
  | .valid_stop_loss =>
    match input.decision, input.fillPrice with
    | some d, some fill =>
      firstOf [(!(match d.direction with
          | .long => JsNumber.lt (.fin d.stopLossPrice) fill
          | .short => JsNumber.lt fill (.fin d.stopLossPrice)),
        "stop loss does not protect the entry for this direction at the fill price")]
    | _, _ => some (.text "no server-issued execution decision available")
  | .valid_take_profit =>
    match input.decision, input.fillPrice with
    | some d, some fill =>
      firstOf [(!(match d.direction with
          | .long => JsNumber.lt fill (.fin d.takeProfitPrice)
          | .short => JsNumber.lt (.fin d.takeProfitPrice) fill),
        "take profit does not reward the entry for this direction at the fill price")]
    | _, _ => some (.text "no server-issued execution decision available")
  | .acceptable_rr =>
    match input.decision, input.fillPrice with
    | some d, some (.fin fill) =>
      match fillRr fill d.stopLossPrice d.takeProfitPrice with
      | none => some (.text "reward:risk could not be computed from the levels")
      | some rr =>
        if rrTooLow rr (requiredRr input.effectiveMinRr) then
          some (.rrBelowMinimum (.fin rr) (requiredRr input.effectiveMinRr))
        else none
    -- a fill price that is not finite was refused by `valid_order_params`
    | some _, some _ => some (.text "reward:risk could not be computed from the levels")
    | _, _ => some (.text "no server-issued execution decision available")
  | .exposure_limits =>
    match input.riskDecision with
    | none => some (.text "no server-issued risk decision available")
    | some r =>
      firstOf [(r.exposureWithinLimits.isNone, "exposure limits have not been evaluated"),
        (r.exposureWithinLimits = some false, "exposure limits would be exceeded")]

structure PaperSimulationGateResult where
  passed : Bool
  failedGate : Option PaperSimulationGateId
  reason : Option GateReason
  evaluated : List PaperSimulationGateId

/-- The gate loop. -/
def runGates (input : PaperSimulationGateInput) :
    List PaperSimulationGateId → List PaperSimulationGateId → PaperSimulationGateResult
  | evaluated, [] => ⟨true, none, none, evaluated⟩
  | evaluated, gate :: gates =>
    match gateCheck input gate with
    | some reason => ⟨false, some gate, some reason, evaluated ++ [gate]⟩
    | none => runGates input (evaluated ++ [gate]) gates

def evaluatePaperSimulationGates (input : PaperSimulationGateInput) : PaperSimulationGateResult :=
  runGates input [] PAPER_SIMULATION_GATE_IDS

/-! ## What passing means -/

theorem runGates_passed {input : PaperSimulationGateInput} {evaluated gates : List PaperSimulationGateId} :
    (runGates input evaluated gates).passed = true ↔ ∀ gate ∈ gates, gateCheck input gate = none := by
  induction gates generalizing evaluated with
  | nil => simp [runGates]
  | cons gate gates ih =>
    cases hgate : gateCheck input gate with
    | none => simp [runGates, hgate, ih]
    | some reason => simp [runGates, hgate]

theorem mem_PAPER_SIMULATION_GATE_IDS (gate : PaperSimulationGateId) :
    gate ∈ PAPER_SIMULATION_GATE_IDS := by
  cases gate <;> decide

/-- **A simulation passes exactly when every gate does.** -/
theorem passed_iff {input : PaperSimulationGateInput} :
    (evaluatePaperSimulationGates input).passed = true ↔ ∀ gate, gateCheck input gate = none := by
  rw [evaluatePaperSimulationGates, runGates_passed]
  exact ⟨fun h gate => h gate (mem_PAPER_SIMULATION_GATE_IDS gate), fun h gate _ => h gate⟩

theorem firstOf_eq_none {conditions : List (Bool × String)} :
    firstOf conditions = none ↔ ∀ c ∈ conditions, c.1 = false := by
  simp [firstOf]

/-- The levels of a decision at a fill price. -/
structure FillLevels (d : ExecutionDecision) (fill : ℚ) (minRr : JsNumber) : Prop where
  fill_pos : 0 < fill
  stop_pos : 0 < d.stopLossPrice
  protected_long : d.direction = .long → d.stopLossPrice < fill
  protected_short : d.direction = .short → fill < d.stopLossPrice
  rewarded_long : d.direction = .long → fill < d.takeProfitPrice
  rewarded_short : d.direction = .short → d.takeProfitPrice < fill
  rr : rrTooLow (|d.takeProfitPrice - fill| / |fill - d.stopLossPrice|) minRr = false

/-- **What passing says about the levels.** -/
theorem passed_levels {input : PaperSimulationGateInput} {d : ExecutionDecision} {price : JsNumber}
    (hd : input.decision = some d) (hprice : input.fillPrice = some price)
    (h : (evaluatePaperSimulationGates input).passed = true) :
    ∃ fill, price = .fin fill ∧ FillLevels d fill (requiredRr input.effectiveMinRr) := by
  rw [passed_iff] at h
  have hparams := h .valid_order_params
  have hstop := h .valid_stop_loss
  have htarget := h .valid_take_profit
  have hrr := h .acceptable_rr
  simp only [gateCheck, hd, hprice, firstOf_eq_none] at hparams hstop htarget hrr
  simp only [List.mem_cons, List.not_mem_nil, or_false, forall_eq_or_imp, forall_eq,
    decide_eq_false_iff_not, not_not, Bool.not_eq_false', Option.mem_def, Option.some.injEq,
    exists_eq_left'] at hparams hstop htarget
  obtain ⟨⟨-, hstop_pos, -⟩, -, hfinite, hpos⟩ := hparams
  cases price with
  | fin fill =>
    simp only at hrr
    split at hrr
    · cases hrr
    rename_i rr hfill
    unfold fillRr at hfill
    split at hfill
    · cases hfill
      split at hrr
      · cases hrr
      rename_i hlow
      refine ⟨fill, rfl, ?_, hstop_pos, ?_, ?_, ?_, ?_, by simpa using hlow⟩
      · exact of_decide_eq_true hpos
      · intro hdir
        rw [hdir] at hstop
        exact of_decide_eq_true hstop
      · intro hdir
        rw [hdir] at hstop
        exact of_decide_eq_true hstop
      · intro hdir
        rw [hdir] at htarget
        exact of_decide_eq_true htarget
      · intro hdir
        rw [hdir] at htarget
        exact of_decide_eq_true htarget
    · cases hfill
  | _ => cases hfinite

end VeltrixEye
