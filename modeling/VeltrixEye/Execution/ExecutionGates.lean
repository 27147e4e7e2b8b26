import VeltrixEye.Execution.Simulate

/-!
# The execution gates (`execution/gates.ts`)

The checklist an execution attempt passes before anything is submitted: evaluated in a pinned order,
stopping at the first failure.  A checklist is generic in its gates and in its reasons.

* `runChecklist_passed` — a checklist passes exactly when every gate on it does.
-/

namespace VeltrixEye

/-! ## Checklists -/

structure ChecklistResult (ι ρ : Type) where
  passed : Bool
  failedGate : Option ι
  reason : Option ρ
  evaluated : List ι

section Checklist

variable {ι ρ : Type}

/-- The gates in order, up to the first that gives a reason. -/
def runChecklist (check : ι → Option ρ) : List ι → List ι → ChecklistResult ι ρ
  | evaluated, [] => ⟨true, none, none, evaluated⟩
  | evaluated, gate :: gates =>
    match check gate with
    | some reason => ⟨false, some gate, some reason, evaluated ++ [gate]⟩
    | none => runChecklist check (evaluated ++ [gate]) gates

theorem runChecklist_passed {check : ι → Option ρ} {evaluated gates : List ι} :
    (runChecklist check evaluated gates).passed = true ↔ ∀ gate ∈ gates, check gate = none := by
  induction gates generalizing evaluated with
  | nil => simp [runChecklist]
  | cons gate gates ih =>
    cases hgate : check gate with
    | none => simp [runChecklist, hgate, ih]
    | some reason => simp [runChecklist, hgate]

end Checklist

/-! ## The gates -/

/-- `EXECUTION_GATE_IDS`. -/
inductive ExecutionGateId where
  | authenticated
  | authorized
  | entitlement
  | automation_on
  | profile_enabled
  | kill_switch
  | valid_signal
  | risk_decision
  | valid_symbol
  | valid_order_params
  | valid_stop_loss
  | valid_take_profit
  | acceptable_rr
  | exposure_limits
  | provider_healthy
  | environment_safety
  | broker_authorized
  | account_authorized
  deriving DecidableEq

/-- The pinned order. -/
def EXECUTION_GATE_IDS : List ExecutionGateId :=
  [.authenticated, .authorized, .entitlement, .automation_on, .profile_enabled, .kill_switch, .valid_signal,
    .risk_decision, .valid_symbol, .valid_order_params, .valid_stop_loss, .valid_take_profit, .acceptable_rr,
    .exposure_limits, .provider_healthy, .environment_safety, .broker_authorized, .account_authorized]

structure GateAutomation where
  entitled : Bool
  automationEnabled : Bool

/-- The risk verdict of gate 8. -/
structure GateVerdict where
  approved : Bool
  reason : Option String
  decisionId : Option String
  engineVersion : Option String

/-- `ExecutionGateInput`.  The decision's `expectedRr` stands beside it, and the provider's health is what
    the readiness resolver made of it. -/
structure ExecutionGateInput where
  authenticated : Bool
  authorized : Bool
  canAccessAutomation : Bool
  automation : GateAutomation
  profile : Option GateProfile
  killSwitches : GateKillSwitches
  decision : Option ExecutionDecision
  expectedRr : ℚ
  setup : Option GateSetup
  instrumentKnown : Bool
  riskDecision : Option GateVerdict
  minRr : Option JsNumber
  exposureWithinLimits : Option Bool
  providerHealthy : Option Bool
  environmentSafe : Bool
  brokerAuthorized : Bool
  accountAuthorized : Bool

/-- The reward:risk the levels of a decision achieve. -/
def ExecutionDecision.achievableRr (d : ExecutionDecision) : ℚ :=
  if 0 < |d.entryPrice - d.stopLossPrice| then
    |d.takeProfitPrice - d.entryPrice| / |d.entryPrice - d.stopLossPrice|
  else 0

/-- One `case` of the switch: `none` when the gate lets the attempt through. -/
def executionGateCheck (input : ExecutionGateInput) : ExecutionGateId → Option GateReason
  | .authenticated => firstOf [(!input.authenticated, "authentication required")]
  | .authorized => firstOf [(!input.authorized, "caller does not own the referenced resources")]
  | .entitlement =>
    firstOf [(!input.canAccessAutomation, "subscription plan does not include automation")]
  | .automation_on =>
    firstOf [(!input.automation.entitled || !input.automation.automationEnabled,
      "automation is OFF (entitlement and explicit switch are both required)")]
  | .profile_enabled =>
    match input.profile with
    | none => some (.text "execution profile not found")
    | some p =>
      firstOf [(!p.enabled, "execution profile is disabled"),
        (p.environment = .live, "execution environment \"" ++ p.environment.text ++
          "\" is not permitted in this platform version")]
  | .kill_switch =>
    firstOf [(input.killSwitches.global, "global kill switch is active"),
      (input.killSwitches.user, "user kill switch is active"),
      (input.killSwitches.strategy, "strategy kill switch is active"),
      (input.killSwitches.profile, "execution profile kill switch is active")]
  | .valid_signal =>
    match input.decision, input.setup with
    | none, _ => some (.text "no validated execution decision present")
    | _, none => some (.text "setup referenced by the decision was not found")
    | some d, some s =>
      firstOf [(s.id ≠ d.setupId, "decision does not reference the resolved setup"),
        (s.state ≠ .confirmed ∧ s.state ≠ .triggered,
          "setup state \"" ++ s.state.text ++ "\" is not eligible for execution"),
        (s.direction ≠ d.direction, "decision direction conflicts with the setup direction"),
        (d.qualityScore < d.minQualityScore, "setup quality is below the configured minimum")]
  | .risk_decision =>
    match input.riskDecision with
    | none => some (.text "no risk decision available (risk engine required before execution)")
    | some r =>
      firstOf [(r.decisionId.getD "" = "" ∨ r.engineVersion.getD "" = "",
          "risk decision is not server-issued (decisionId and engineVersion required)"),
        (r.engineVersion ≠ some RISK_ENGINE_VERSION, "risk decision engine version is not recognized"),
        (!r.approved, r.reason.getD "risk decision rejected the execution")]
  | .valid_symbol => firstOf [(!input.instrumentKnown, "symbol is not in the platform market universe")]
  | .valid_order_params =>
    match input.decision with
    | none => some (.text "no validated execution decision present")
    | some d =>
      firstOf [(¬ (0 < d.entryPrice ∧ 0 < d.stopLossPrice ∧ 0 < d.takeProfitPrice),
          "order price parameters must be positive"),
        (¬ 0 < d.asOfMs, "decision anchor is invalid")]
  | .valid_stop_loss =>
    match input.decision with
    | none => some (.text "no validated execution decision present")
    | some d =>
      firstOf [(!(match d.direction with
          | .long => d.stopLossPrice < d.entryPrice
          | .short => d.entryPrice < d.stopLossPrice),
        "stop loss does not protect the entry for this direction")]
  | .valid_take_profit =>
    match input.decision with
    | none => some (.text "no validated execution decision present")
    | some d =>
      firstOf [(!(match d.direction with
          | .long => d.entryPrice < d.takeProfitPrice
          | .short => d.takeProfitPrice < d.entryPrice),
        "take profit does not reward the entry for this direction")]
  | .acceptable_rr =>
    match input.decision with
    | none => some (.text "no validated execution decision present")
    | some d =>
      -- the module has a `DEFAULT_MIN_RR` of its own, of the same value
      if JsNumber.lt (.fin input.expectedRr) (input.minRr.getD (.fin DEFAULT_MIN_RR)) ∨
          d.achievableRr + 1 / 10 ^ 9 < input.expectedRr then
        some (.rrBelowMinimum (.fin input.expectedRr) (input.minRr.getD (.fin DEFAULT_MIN_RR)))
      else none
  | .exposure_limits =>
    firstOf [(input.exposureWithinLimits.isNone, "exposure limits have not been evaluated"),
      (input.exposureWithinLimits = some false, "exposure limits would be exceeded")]
  | .provider_healthy =>
    firstOf [(input.providerHealthy.isNone, "provider health is unknown"),
      (input.providerHealthy = some false, "execution provider is not healthy")]
  | .environment_safety =>
    firstOf [(!input.environmentSafe || input.profile.any fun p => p.environment = .live,
      "execution environment is not authorized by the M8.4 safety boundary")]
  | .broker_authorized => firstOf [(!input.brokerAuthorized, "broker is not server-authorized")]
  | .account_authorized => firstOf [(!input.accountAuthorized, "broker account is not server-authorized")]

def evaluateExecutionGates (input : ExecutionGateInput) : ChecklistResult ExecutionGateId GateReason :=
  runChecklist (executionGateCheck input) [] EXECUTION_GATE_IDS

section Passing

variable {input : ExecutionGateInput}

theorem mem_EXECUTION_GATE_IDS (gate : ExecutionGateId) : gate ∈ EXECUTION_GATE_IDS := by
  cases gate <;> decide

/-- **An attempt passes exactly when every gate does.** -/
theorem executionGates_passed_iff :
    (evaluateExecutionGates input).passed = true ↔ ∀ gate, executionGateCheck input gate = none := by
  rw [evaluateExecutionGates, runChecklist_passed]
  exact ⟨fun h gate => h gate (mem_EXECUTION_GATE_IDS gate), fun h gate _ => h gate⟩

theorem gates_approved (h : (evaluateExecutionGates input).passed = true) :
    ∃ r, input.riskDecision = some r ∧ r.approved = true ∧ r.engineVersion = some RISK_ENGINE_VERSION := by
  have hgate := executionGates_passed_iff.mp h .risk_decision
  simp only [executionGateCheck] at hgate
  split at hgate
  · cases hgate
  rename_i r hr
  simp only [firstOf_eq_none, List.mem_cons, List.not_mem_nil, or_false, forall_eq_or_imp, forall_eq,
    decide_eq_false_iff_not, not_not, Bool.not_eq_false'] at hgate
  exact ⟨r, hr, hgate.2.2, hgate.2.1⟩

theorem gates_enabled (h : (evaluateExecutionGates input).passed = true) :
    ∃ p, input.profile = some p ∧ p.enabled = true := by
  have hgate := executionGates_passed_iff.mp h .profile_enabled
  simp only [executionGateCheck] at hgate
  split at hgate
  · cases hgate
  rename_i p hp
  simp only [firstOf_eq_none, List.mem_cons, List.not_mem_nil, or_false, forall_eq_or_imp, forall_eq,
    Bool.not_eq_false'] at hgate
  exact ⟨p, hp, hgate.1⟩

end Passing

end VeltrixEye
