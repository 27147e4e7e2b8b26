import VeltrixEye.Execution.Authorization
import VeltrixEye.Execution.ExecutionGates
import VeltrixEye.Execution.KillSwitch
import VeltrixEye.Execution.Slots

/-!
# The final safety fence (`execution/composition-fence.ts`)

What the fence reads: the execution profile (`profiles.ts`), the automation state (`automation.ts`), the
kill switches (`kill-switch.ts`), the authorization and the risk reservation.
-/

namespace VeltrixEye

/-! ## Profiles -/

/-- The checks of `execution_profiles` (`0016`, `0019`).  `mode` equals `environment`. -/
def ProfileChecks (environment : ExecutionEnvironment) (providerSlug : String)
    (accountRef brokerServer : Option String) : Prop :=
  environment ≠ .live ∧ (1 ≤ providerSlug.length ∧ providerSlug.length ≤ 64) ∧
    (∀ r ∈ accountRef, 1 ≤ r.length ∧ r.length ≤ 128) ∧
    (∀ s ∈ brokerServer, 1 ≤ s.length ∧ s.length ≤ 128) ∧
    (providerSlug = "paper" ∧ environment = .paper ∧ brokerServer = none ∨
      providerSlug = "mt5" ∧ environment = .demo)

instance (environment : ExecutionEnvironment) (providerSlug : String) (accountRef brokerServer : Option String) :
    Decidable (ProfileChecks environment providerSlug accountRef brokerServer) :=
  inferInstanceAs (Decidable (_ ∧ _))

/-- `execution_profiles`, the columns the composition reads. -/
structure ExecutionProfileRow where
  id : String
  userId : String
  environment : ExecutionEnvironment
  providerSlug : String
  accountRef : Option String
  brokerServer : Option String
  enabled : Bool
  checks : ProfileChecks environment providerSlug accountRef brokerServer

theorem ExecutionProfileRow.paper (p : ExecutionProfileRow) (h : p.providerSlug = "paper") :
    p.environment = .paper ∧ p.brokerServer = none := by
  obtain ⟨-, -, -, -, hfields⟩ := p.checks
  rcases hfields with ⟨-, henvironment, hserver⟩ | ⟨hslug, -⟩
  · exact ⟨henvironment, hserver⟩
  · rw [h] at hslug
    exact absurd hslug (by decide)

/-- `executionProfileCreateSchema`. -/
structure ExecutionProfileCreateInput where
  mode : ExecutionEnvironment
  providerSlug : String
  accountRef : Option String
  brokerServer : Option String

inductive ProfileError where
  | forbidden (message : String)
  | invalidInput (message : String)
  | conflict (message : String)
  | constraintViolation (constraint : String)

/-- A missing or an empty text. -/
def falsy (x : Option String) : Bool := x.getD "" = ""

/-- `createProfile`: `registry` gives the modes a registered provider supports. -/
def createProfile (registry : String → Option (List ExecutionEnvironment)) (rows : List ExecutionProfileRow)
    (userId id : String) (input : ExecutionProfileCreateInput) : Except ProfileError ExecutionProfileRow :=
  if input.mode = .live then .error (.forbidden "Live execution is prohibited in M8.4")
  else match registry input.providerSlug with
  | none => .error (.invalidInput ("Unknown execution provider \"" ++ input.providerSlug ++
      "\" — providers are registered server-side only"))
  | some modes =>
    if input.mode ∉ modes then
      .error (.invalidInput ("Execution provider \"" ++ input.providerSlug ++ "\" does not support \"" ++
        input.mode.text ++ "\" execution"))
    else if input.mode = .paper ∧ input.providerSlug ≠ "paper" then
      .error (.invalidInput "Paper profiles must use the internal paper provider")
    else if input.mode = .demo ∧ input.providerSlug ≠ "mt5" then
      .error (.invalidInput "Broker demo profiles must use a registered demo provider")
    else if input.mode = .demo ∧ (falsy input.brokerServer ∨ falsy input.accountRef) then
      .error (.invalidInput "Broker demo profiles require brokerServer and a non-secret accountRef")
    else if hchecks : ProfileChecks input.mode input.providerSlug input.accountRef input.brokerServer then
      if rows.any fun p => p.userId = userId ∧ p.environment = input.mode then
        .error (.conflict ("A \"" ++ input.mode.text ++ "\" execution profile or symbol mapping already exists"))
      else .ok {
        id
        userId
        environment := input.mode
        providerSlug := input.providerSlug
        accountRef := input.accountRef
        brokerServer := input.brokerServer
        enabled := input.mode = .paper
        checks := hchecks }
    else .error (.constraintViolation "execution_profiles_check")

/-! ## Automation and kill switches -/

/-- What the safety reads see: the environment's pin of the global switch, the switch rows, the users and
    what `resolveEntitlements` gives each of them. -/
structure SafetyState where
  globalForced : Bool
  switches : List Safety.KillSwitchRow
  users : List Safety.UserRow
  canAccessAutomation : String → Bool

namespace SafetyState

variable (s : SafetyState)

def isActive (scope : Safety.KillSwitchScope) (targetId : Option String) : Bool :=
  s.switches.any fun r => r.key = ⟨scope, targetId⟩ ∧ r.active

def isGlobalActive : Bool := s.globalForced || s.isActive .global none

def anyActive (userId strategyId executionProfileId : String) : GateKillSwitches where
  global := s.isGlobalActive
  user := s.isActive .user (some userId)
  strategy := strategyId ≠ "" ∧ s.isActive .strategy (some strategyId)
  profile := executionProfileId ≠ "" ∧ s.isActive .execution_profile (some executionProfileId)

/-- `readState`: none when the user is not found. -/
def readState (userId : String) : Option GateAutomation :=
  (s.users.find? fun u => u.id = userId).map fun u => ⟨s.canAccessAutomation userId, u.automationEnabled⟩

end SafetyState

def GateKillSwitches.active (k : GateKillSwitches) : Bool := k.global || k.user || k.strategy || k.profile

/-! ## The tables of a composition -/

/-- A setup joined with its strategy, version and instrument. -/
structure SetupProvenanceRow where
  strategyOwner : String
  source : SetupDecisionSource

/-- `risk_decisions`, the columns a citation reads. -/
structure RiskDecisionRow where
  id : String
  userId : String
  executionProfileId : String
  setupId : String
  outcome : RiskOutcome
  rejectionCode : Option RiskRejectionCode
  reason : String
  engineVersion : String
  positionSize : Option (Numeric 24 10)
  entryPrice : Numeric 24 10
  stopLossPrice : Numeric 24 10
  takeProfitPrice : Numeric 24 10
  evaluatedAt : ℤ

/-- `execution_requests`. -/
structure ExecutionRequestRow where
  id : String
  userId : String
  executionProfileId : String
  setupId : String
  action : RiskAction
  idempotencyKey : String

/-- What a composition reads and writes. -/
structure CompositionTables where
  profiles : List ExecutionProfileRow
  setups : List SetupProvenanceRow
  safety : SafetyState
  decisions : List RiskDecisionRow
  reservations : List ReservationRow
  requests : List ExecutionRequestRow
  db : Db

namespace CompositionTables

variable (t : CompositionTables)

/-- `… WHERE id = $1 AND user_id = $2`. -/
def profile? (executionProfileId userId : String) : Option ExecutionProfileRow :=
  t.profiles.find? fun p => p.id = executionProfileId ∧ p.userId = userId

/-- The owner-checked setup. -/
def setup? (setupId userId : String) : Option SetupProvenanceRow :=
  (t.setups.find? fun s => s.source.setupId = setupId).filter fun s => s.strategyOwner = userId

def decision? (riskDecisionId : String) : Option RiskDecisionRow :=
  t.decisions.find? fun d => d.id = riskDecisionId

def request? (idempotencyKey : String) : Option ExecutionRequestRow :=
  t.requests.find? fun r => r.idempotencyKey = idempotencyKey

def getActiveReservation (riskDecisionId executionProfileId : String) (nowMs : ℤ) : Option ReservationRow :=
  t.reservations.find? fun r =>
    r.riskDecisionId = riskDecisionId ∧ r.executionProfileId = executionProfileId ∧ nowMs < r.expiresAt

end CompositionTables

/-! ## The fence -/

structure FinalFenceInput where
  userId : String
  executionProfileId : String
  strategyId : String
  setupId : Option String
  providerSlug : String
  environment : AuthorizationEnvironment
  accountRef : Option String
  brokerServerRef : Option String
  riskDecisionId : String
  authorizationId : String
  nowMs : ℤ

/-- The context the authorization must have been minted for. -/
def FinalFenceInput.expectedContext (input : FinalFenceInput) : AuthorizationExecutionContext where
  userId := input.userId
  executionProfileId := input.executionProfileId
  providerSlug := input.providerSlug
  environment := input.environment
  accountRef := input.accountRef
  brokerServerRef := input.brokerServerRef
  setupId := input.setupId
  riskDecisionId := some input.riskDecisionId

inductive FinalFenceFailCode where
  | profile_disabled
  | automation_revoked
  | entitlement_revoked
  | kill_switch_active
  | authorization_revoked
  | risk_reservation_lapsed

structure FenceRefusal where
  code : FinalFenceFailCode
  failedGate : ExecutionGateId
  reason : String

def fenceUnless (p : Prop) [Decidable p] (refusal : FenceRefusal) : Except FenceRefusal Unit :=
  if p then .ok () else .error refusal

@[simp] theorem fenceUnless_ok {p : Prop} [Decidable p] {refusal : FenceRefusal} {u : Unit} :
    fenceUnless p refusal = .ok u ↔ p := by
  unfold fenceUnless
  split <;> simp_all

/-- One look at the authorization store: what it holds and what the service's clock says. -/
structure AuthorizationLook where
  store : List ExecutionAuthorization
  now : JsNumber

/-- `peekAuthorization` at a look. -/
def AuthorizationLook.peek (opts : AuthorizationOptions) (id : String) (look : AuthorizationLook) :
    Option ExecutionAuthorization :=
  (peekAuthorization opts id look.now look.store).2

def runFinalSafetyFence (opts : AuthorizationOptions) (t : CompositionTables) (input : FinalFenceInput)
    (look : AuthorizationLook) : Except FenceRefusal Unit := do
  fenceUnless (∃ p ∈ t.profile? input.executionProfileId input.userId, p.enabled = true)
    ⟨.profile_disabled, .profile_enabled, "execution profile is disabled or no longer available"⟩
  match t.safety.readState input.userId with
  | none => .error ⟨.automation_revoked, .automation_on,
      "automation state is unavailable at the final safety fence"⟩
  | some automation =>
    fenceUnless automation.entitled
      ⟨.entitlement_revoked, .entitlement, "automation entitlement was revoked before submission"⟩
    fenceUnless automation.automationEnabled
      ⟨.automation_revoked, .automation_on, "automation was disabled before submission"⟩
    fenceUnless (¬ (t.safety.anyActive input.userId input.strategyId input.executionProfileId).active)
      ⟨.kill_switch_active, .kill_switch, "a kill switch was activated before submission"⟩
    match look.peek opts input.authorizationId with
    | none => .error ⟨.authorization_revoked, .authorized,
        "execution authorization was revoked or expired before submission"⟩
    | some live =>
      fenceUnless (diffAuthorizationContext live.context input.expectedContext = none)
        ⟨.authorization_revoked, .authorized, "execution authorization does not match the submission context"⟩
      fenceUnless (t.getActiveReservation input.riskDecisionId input.executionProfileId input.nowMs).isSome
        ⟨.risk_reservation_lapsed, .risk_decision, "risk reservation lapsed before submission"⟩

/-- What the fence has seen when it passes. -/
structure FencePassed (opts : AuthorizationOptions) (t : CompositionTables) (input : FinalFenceInput)
    (look : AuthorizationLook) : Prop where
  profile : ∃ p ∈ t.profile? input.executionProfileId input.userId, p.enabled = true
  automation : t.safety.readState input.userId = some ⟨true, true⟩
  switches : (t.safety.anyActive input.userId input.strategyId input.executionProfileId).active = false
  authorization : ∃ live, look.peek opts input.authorizationId = some live ∧ live.context = input.expectedContext
  reservation : (t.getActiveReservation input.riskDecisionId input.executionProfileId input.nowMs).isSome = true

/-- **The fence passes exactly when each of its reads does.** -/
theorem runFinalSafetyFence_ok {opts : AuthorizationOptions} {t : CompositionTables} {input : FinalFenceInput}
    {look : AuthorizationLook} {u : Unit} :
    runFinalSafetyFence opts t input look = .ok u ↔ FencePassed opts t input look := by
  unfold runFinalSafetyFence
  simp only [Except.bind_ok_iff, fenceUnless_ok]
  constructor
  · rintro ⟨_, hprofile, h⟩
    split at h
    · cases h
    rename_i automation hautomation
    simp only [Except.bind_ok_iff, fenceUnless_ok] at h
    obtain ⟨_, hentitled, _, henabled, _, hswitches, h⟩ := h
    split at h
    · cases h
    rename_i live hlive
    simp only [Except.bind_ok_iff, fenceUnless_ok, diffAuthorizationContext_eq_none] at h
    obtain ⟨_, hcontext, hreservation⟩ := h
    refine ⟨hprofile, ?_, by simpa using hswitches, ⟨live, hlive, hcontext⟩, hreservation⟩
    rw [hautomation]
    cases automation
    simp_all
  · rintro ⟨hprofile, hautomation, hswitches, ⟨live, hlive, hcontext⟩, hreservation⟩
    refine ⟨(), hprofile, ?_⟩
    rw [hautomation]
    simp [hswitches, hlive, hcontext, hreservation, Except.bind_ok_iff, diffAuthorizationContext_eq_none]

end VeltrixEye
