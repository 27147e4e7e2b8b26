import VeltrixEye.Execution.Handoff

/-!
# Decision intake (`execution/intake.ts`)

`submitExecutionDecision` looks its identity up, evaluates the risk engine and the gates, inserts the
request row and reads back whichever row the unique indexes let stand.  Everything a call reads may change
between its statements.

* `intakeStep` — any number of calls of one identity, between changes of what the gates read and other
  callers of the risk engine.
* `TwinsAgree` — what every call returns, and what is left when all calls have ended.
-/

namespace VeltrixEye.Intake

open Runs

abbrev GateResult := ChecklistResult ExecutionGateId GateReason

/-- The derived identity of a request. -/
structure RequestIdentity where
  userId : String
  setupId : String
  executionProfileId : String
  action : RiskAction
  deriving DecidableEq

/-- `executionIdempotencyHash`. -/
def RequestIdentity.hash (env : PaperEnv) (I : RequestIdentity) : String :=
  env.identityHash I.userId I.setupId I.executionProfileId I.action

inductive RequestStatus where
  | requested
  | rejected
  deriving DecidableEq

/-- `execution_requests`, with the verdict it stores. -/
structure RequestRow extends ExecutionRequestRow where
  status : RequestStatus
  rejectionGate : Option ExecutionGateId
  rejectionReason : Option GateReason

/-- The tables of an intake.  `composition` holds what the gates and the risk engine read and write. -/
structure IntakeTables where
  composition : CompositionTables
  /-- `strategy_version_id` of a setup. -/
  strategyVersionId : String → String
  requests : List RequestRow

namespace IntakeTables

variable (d : IntakeTables)

def findByKey (idempotencyKey : String) : Option RequestRow :=
  d.requests.find? fun r => r.idempotencyKey = idempotencyKey

/-- The two unique indexes. -/
def taken (I : RequestIdentity) (idempotencyKey : String) : Bool :=
  d.requests.any fun r => r.idempotencyKey = idempotencyKey ||
    (r.setupId = I.setupId && r.executionProfileId = I.executionProfileId && r.action = I.action)

end IntakeTables

/-! ## One call -/

/-- A call, with its inputs and the ids its rows get. -/
structure IntakeCall where
  userId : String
  executionProfileId : String
  decision : ExecutionDecision
  strategyVersionId : String
  expectedRr : ℚ
  /-- The provider's health record as the readiness resolver decides it. -/
  providerReady : Bool
  risk : RiskInputs
  requestId : String

def IntakeCall.identity (call : IntakeCall) : RequestIdentity :=
  ⟨call.userId, call.decision.setupId, call.executionProfileId, call.decision.action⟩

inductive IntakeError where
  | invalidDecision
  | invalidInput (message : String)
  | notFound (message : String)
  | internal (message : String)
  | service (e : ServiceError)

structure IntakeResult where
  accepted : Bool
  replayed : Bool
  request : RequestRow
  gate : GateResult

/-- The gate input of an intake. -/
def IntakeCall.gateInput (call : IntakeCall) (profile : ExecutionProfileRow) (setup : SetupProvenanceRow)
    (automation : GateAutomation) (killSwitches : GateKillSwitches) (verdict : RiskEngineVerdict) :
    ExecutionGateInput where
  authenticated := true
  authorized := true
  canAccessAutomation := automation.entitled
  automation := automation
  profile := some ⟨profile.enabled, profile.environment⟩
  killSwitches := killSwitches
  decision := some call.decision
  expectedRr := call.expectedRr
  setup := some ⟨setup.source.setupId, setup.source.direction, setup.source.state⟩
  instrumentKnown := true
  riskDecision := some ⟨verdict.outcome = .approved, some verdict.reason, some call.risk.decisionId,
    some RISK_ENGINE_VERSION⟩
  minRr := some verdict.effectiveMinRr
  exposureWithinLimits := some verdict.exposureWithinLimits
  providerHealthy := some call.providerReady
  environmentSafe := profile.environment = .paper ∨ profile.environment = .demo
  brokerAuthorized := resolveBrokerAccountAuthorization profile.providerSlug profile.environment
  accountAuthorized := resolveBrokerAccountAuthorization profile.providerSlug profile.environment

/-- `accepted ? 'requested' : 'rejected'`. -/
def statusOf (gate : GateResult) : RequestStatus := if gate.passed then .requested else .rejected

/-- The row a call inserts. -/
def IntakeCall.row (env : PaperEnv) (call : IntakeCall) (gate : GateResult) : RequestRow where
  id := call.requestId
  userId := call.userId
  executionProfileId := call.executionProfileId
  setupId := call.decision.setupId
  action := call.decision.action
  idempotencyKey := call.identity.hash env
  status := statusOf gate
  rejectionGate := gate.failedGate
  rejectionReason := gate.reason

/-- What a call that finds its identity returns. -/
def replayResult (request : RequestRow) : IntakeResult where
  accepted := request.status = .requested
  replayed := true
  request := request
  gate := ⟨request.status = .requested, request.rejectionGate, request.rejectionReason, []⟩

/-- The checks of the setup against the decision. -/
def IntakeCall.checkSetup (call : IntakeCall) (d : IntakeTables) : Except IntakeError SetupProvenanceRow :=
  match d.composition.setup? call.decision.setupId call.userId with
  | none => .error (.notFound "Setup not found")
  | some setup =>
    if setup.source.strategyId ≠ call.decision.strategyId ∨
        d.strategyVersionId call.decision.setupId ≠ call.strategyVersionId then
      .error (.invalidInput "Execution decision does not match the setup it references")
    else if setup.source.assetClass ≠ call.decision.assetClass ∨ setup.source.symbol ≠ call.decision.symbol then
      .error (.invalidInput "Execution decision instrument does not match the setup")
    else if setup.source.asOfMs ≠ call.decision.asOfMs then
      .error (.invalidInput "Execution decision anchor does not match the setup")
    else .ok setup

inductive IntakePhase where
  | idle
  | owned (profile : ExecutionProfileRow)
  | resolved (profile : ExecutionProfileRow) (setup : SetupProvenanceRow)
  | unclaimed (profile : ExecutionProfileRow) (setup : SetupProvenanceRow)
  | armed (profile : ExecutionProfileRow) (setup : SetupProvenanceRow) (automation : GateAutomation)
  | evaluating (profile : ExecutionProfileRow) (setup : SetupProvenanceRow) (automation : GateAutomation)
      (killSwitches : GateKillSwitches)
  | inserting (gate : GateResult)
  | reading (gate : GateResult)
  | releasing (gate : GateResult) (request : RequestRow)
  | returned (result : IntakeResult)
  | threw (e : IntakeError)

structure IntakeTask where
  call : IntakeCall
  phase : IntakePhase
  /-- The risk engine has issued the call's decision. -/
  issued : Bool

namespace IntakeTask

/-- The call has not started or has ended. -/
def quiet (t : IntakeTask) : Bool :=
  match t.phase with
  | .idle | .returned _ | .threw _ => true
  | _ => false

/-- The call is past its insert, with gates that passed. -/
def accepted (t : IntakeTask) : Bool :=
  match t.phase with
  | .reading gate | .releasing gate _ => gate.passed
  | .returned result => !result.replayed && result.gate.passed
  | _ => false

/-- The reservation of the call's decision is in the table. -/
def holds (d : IntakeTables) (t : IntakeTask) : Bool :=
  t.issued && d.composition.reservations.any fun r => r.riskDecisionId = t.call.risk.decisionId

def goto (t : IntakeTask) (phase : IntakePhase) : IntakeTask := { t with phase }

/-- The next statement of a call.  `anyActive` and `evaluate` are one step each. -/
def step (env : PaperEnv) (d : IntakeTables) (t : IntakeTask) : IntakeTables × IntakeTask :=
  match t.phase with
  | .idle =>
    if validExecutionDecision t.call.decision t.call.expectedRr then
      match d.composition.profile? t.call.executionProfileId t.call.userId with
      | none => (d, t.goto (.threw (.notFound "Execution profile not found")))
      | some profile => (d, t.goto (.owned profile))
    else (d, t.goto (.threw .invalidDecision))
  | .owned profile =>
    match t.call.checkSetup d with
    | .error e => (d, t.goto (.threw e))
    | .ok setup => (d, t.goto (.resolved profile setup))
  | .resolved profile setup =>
    match d.findByKey (t.call.identity.hash env) with
    | some request => (d, t.goto (.returned (replayResult request)))
    | none => (d, t.goto (.unclaimed profile setup))
  | .unclaimed profile setup =>
    match d.composition.safety.readState t.call.userId with
    | none => (d, t.goto (.threw (.notFound "User not found")))
    | some automation => (d, t.goto (.armed profile setup automation))
  | .armed profile setup automation =>
    (d, t.goto (.evaluating profile setup automation
      (d.composition.safety.anyActive t.call.userId t.call.decision.strategyId t.call.executionProfileId)))
  | .evaluating profile setup automation killSwitches =>
    match evaluateAndReserve env t.call.risk d.composition t.call.userId t.call.executionProfileId t.call.decision with
    | .error e => (d, t.goto (.threw (.service e)))
    | .ok (verdict, composition) =>
      ({ d with composition }, { t with
        phase := .inserting (evaluateExecutionGates
          (t.call.gateInput profile setup automation killSwitches verdict))
        issued := true })
  | .inserting gate =>
    -- a unique violation is swallowed: the loser reads the winner's row
    if d.taken t.call.identity (t.call.identity.hash env) then (d, t.goto (.reading gate))
    else ({ d with requests := d.requests ++ [t.call.row env gate] }, t.goto (.reading gate))
  | .reading gate =>
    match d.findByKey (t.call.identity.hash env) with
    | none => (d, t.goto (.threw (.internal "Execution request could not be resolved after insert")))
    | some request => (d, t.goto (.releasing gate request))
  | .releasing gate request =>
    let composition := if gate.passed then d.composition else
      { d.composition with reservations := releaseReservation t.call.risk.decisionId d.composition.reservations }
    ({ d with composition }, t.goto (.returned ⟨gate.passed, false, request, gate⟩))
  | .returned _ => (d, t)
  | .threw _ => (d, t)

end IntakeTask

/-! ## The system -/

abbrev IntakePool := Pool IntakeTables IntakeTask

/-- What the gates read, changed by anyone. -/
structure GateInputs where
  profiles : List ExecutionProfileRow
  setups : List SetupProvenanceRow
  safety : SafetyState
  db : Db
  strategyVersionId : String → String

inductive IntakeAction where
  | submit (call : IntakeCall)
  | work (w : ℕ)
  | change (inputs : GateInputs)
  /-- An evaluation of another decision: a composition, a simulation. -/
  | evaluate (risk : RiskInputs) (userId executionProfileId : String) (decision : ExecutionDecision)
  /-- The release of a decision that no intake call was issued. -/
  | release (riskDecisionId : String)

def IntakeTables.change (d : IntakeTables) (inputs : GateInputs) : IntakeTables :=
  { d with
    composition := { d.composition with
      profiles := inputs.profiles
      setups := inputs.setups
      safety := inputs.safety
      db := inputs.db }
    strategyVersionId := inputs.strategyVersionId }

/-- The decision was issued to a call. -/
def issuedTo (tasks : List IntakeTask) (riskDecisionId : String) : Bool :=
  tasks.any fun t => t.issued && t.call.risk.decisionId = riskDecisionId

def intakeStep (env : PaperEnv) (p : IntakePool) : IntakeAction → IntakePool
  | .submit call => p.spawn ⟨call, .idle, false⟩
  | .work w => p.advance (fun d _ t => t.step env d) w
  | .change inputs => p.update fun d _ => d.change inputs
  | .evaluate risk userId executionProfileId decision => p.update fun d _ =>
    match evaluateAndReserve env risk d.composition userId executionProfileId decision with
    | .error _ => d
    | .ok (_, composition) => { d with composition }
  | .release riskDecisionId => p.update fun d tasks =>
    if issuedTo tasks riskDecisionId then d
    else { d with composition := { d.composition with
      reservations := releaseReservation riskDecisionId d.composition.reservations } }

/-- Every submitted call is one of the identity. -/
def OfIdentity (I : RequestIdentity) : IntakeAction → Prop
  | .submit call => call.identity = I
  | _ => True

/-! ## Twins agree -/

/-- A gate verdict is the one the row stores. -/
structure Stores (r : RequestRow) (gate : GateResult) : Prop where
  passed : gate.passed = true ↔ r.status = .requested
  failedGate : gate.failedGate = r.rejectionGate
  reason : gate.reason = r.rejectionReason

/-- The rows of the identity. -/
def IntakeTables.requestsOf (d : IntakeTables) (key : String) : List RequestRow :=
  d.requests.filter fun r => r.idempotencyKey = key

/-- The unexpired reservations of the identity's calls. -/
def liveOf (p : IntakePool) (nowMs : ℤ) : List ReservationRow :=
  p.shared.composition.reservations.filter fun r => nowMs < r.expiresAt && issuedTo p.tasks r.riskDecisionId

structure TwinsAgree (key : String) (p : IntakePool) : Prop where
  one_request : (p.shared.requestsOf key).length ≤ 1
  returned : ∀ t ∈ p.tasks, ∀ result, t.phase = .returned result →
    p.shared.requestsOf key = [result.request] ∧
      (result.accepted = true ↔ result.request.status = .requested) ∧ Stores result.request result.gate
  quiescent : (∀ t ∈ p.tasks, t.quiet = true) → ∀ nowMs,
    (liveOf p nowMs).length ≤ 1 ∧
      ∀ r ∈ p.shared.requestsOf key, r.status = .rejected → liveOf p nowMs = []

/-- A call whose insert finds the identity taken has found the gates as the stored row has them, and when
    they passed, it is not the second accepted call with a reservation in the table. -/
def NoContraryTwin (key : String) (p : IntakePool) : IntakeAction → Prop
  | .work w => ∀ t ∈ p.tasks[w]?, ∀ gate, t.phase = .inserting gate →
    ∀ r ∈ p.shared.requestsOf key, Stores r gate ∧
      (gate.passed = true → t.holds p.shared = true →
        ∀ u ∈ p.tasks, u.accepted = true → u.holds p.shared = false)
  | _ => True

end VeltrixEye.Intake
