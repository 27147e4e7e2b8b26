import VeltrixEye.Execution.Rows
import VeltrixEye.Mutations.Ledger

/-!
# The canonical submit boundary (`execution/submit-boundary.ts`)

`submitOrderThroughGate9` checks its input, runs `submitOnce` of the ledger and projects the result.
Here are the checks before the ledger and the projections after it; `Mutations.System` runs the
ledger in between.
-/

namespace VeltrixEye

/-- The validated request: the members that are read, and the frozen copy as a whole. -/
structure ExecutionSubmitRequest where
  clientOrderId : String
  idempotencyKey : String
  symbol : String
  side : OrderSide
  frozen : JsValue

/-- `CanonicalSubmitInput`; `described` is what `provider.describe()` returns, if an object. -/
structure CanonicalSubmitInput where
  described : Option (List (String × JsValue))
  userId : String
  executionProfileId : String
  providerSlug : String
  environment : ProviderEnvironment
  accountRef : Option String
  brokerServerRef : Option String
  credentialRef : Option String
  credentialFingerprint : Option String
  riskDecisionId : Option String
  riskReservationId : Option String
  monetaryRisk : Option String
  riskExpiresAt : Option ℤ
  request : Option ExecutionSubmitRequest

inductive CanonicalSubmitErrorKind where
  | validation
  | preCallPersistenceFailed
  | barrierNotConsumable
  | providerBindingMismatch
  | providerUncertain
  | duplicateUnresolved

inductive ProjectedStatus where
  | accepted
  | rejected

inductive CanonicalSubmitResult where
  | ok (duplicate : Bool) (result : MutationExecutionResult) (status : ProjectedStatus)
      (providerOrderId : Option String) (receiptId : Option Uuid)
  | error (kind : CanonicalSubmitErrorKind) (message : String)
      (result : Option MutationExecutionResult)

/-- `verifyProviderBinding`: the field on which the provider disagrees. -/
def verifyProviderBinding (input : CanonicalSubmitInput) : Option String :=
  match input.described with
  | none => some "describe"
  | some described =>
    let declared (key : String) : Option String :=
      (JsValue.lookup described key).text?.filter (fun s => !s.isEmpty)
    if input.providerSlug.isEmpty then some "providerSlug"
    else if declared "id" ≠ some input.providerSlug then some "providerSlug"
    else if declared "environment" ≠ some input.environment.text then some "environment"
    else if declared "accountRef" ≠ input.accountRef then some "accountRef"
    else if declared "server" ≠ input.brokerServerRef then some "brokerServerRef"
    else none

/-- The checks before any persistence, and the ledger's input. -/
def canonicalIntentInput (input : CanonicalSubmitInput) :
    Except CanonicalSubmitResult SubmitIntentInput :=
  match input.request with
  | none => .error (.error .validation "execution request is missing" none)
  | some request =>
    if request.clientOrderId.isEmpty then
      .error (.error .validation "execution request is missing a client order identity" none)
    else if request.idempotencyKey.isEmpty then
      .error (.error .validation "execution request is missing an idempotency identity" none)
    else
      match verifyProviderBinding input with
      | some field =>
        .error (.error .providerBindingMismatch
          s!"provider binding mismatch on {field}: the durable authorization and the provider instance disagree; no persistence or provider call is permitted" none)
      | none =>
        .ok
          { userId := input.userId
            executionProfileId := input.executionProfileId
            orderId := none
            clientOrderId := request.clientOrderId
            idempotencyKey := request.idempotencyKey
            canonicalRequest := request.frozen
            providerSlug := input.providerSlug
            environment := input.environment
            accountRef := input.accountRef
            brokerServerRef := input.brokerServerRef
            credentialRef := input.credentialRef
            credentialFingerprint := input.credentialFingerprint
            riskDecisionId := input.riskDecisionId
            riskReservationId := input.riskReservationId
            symbol := some request.symbol
            direction := some (if request.side = .buy then .long else .short)
            monetaryRisk := some (input.monetaryRisk.getD "0")
            riskExpiresAt := input.riskExpiresAt }

def ProviderMutationErrorCode.text : ProviderMutationErrorCode → String
  | .invalidMutationIdentity => "invalid_mutation_identity"
  | .invalidBinding => "invalid_binding"
  | .duplicateMutation => "duplicate_mutation"
  | .preCallPersistenceFailed => "pre_call_persistence_failed"
  | .barrierNotConsumable => "barrier_not_consumable"
  | .intentNotFound => "intent_not_found"
  | .intentOwnershipMismatch => "intent_ownership_mismatch"
  | .concurrentStateChange => "concurrent_state_change"
  | .uncertaintyUnresolved => "uncertainty_unresolved"
  | .retryIdentityReuse => "retry_identity_reuse"
  | .retryRequiresFreshAuthorization => "retry_requires_fresh_authorization"
  | .operatorEvidenceRequired => "operator_evidence_required"
  | .resolutionRequiresUnresolvedIntent => "resolution_requires_unresolved_intent"
  | .invalidObservation => "invalid_observation"
  | .unresolvedOrderMutation => "unresolved_order_mutation"
  | .parentAlreadySuperseded => "parent_already_superseded"
  | .staleParentIntent => "stale_parent_intent"
  | .bindingMismatch => "binding_mismatch"

/-- What an error thrown by the ledger is surfaced as. -/
def projectError : MutationError → CanonicalSubmitResult
  | .mutation .barrierNotConsumable message => .error .barrierNotConsumable message none
  | .mutation .invalidMutationIdentity message => .error .validation message none
  | .mutation .invalidBinding message => .error .validation message none
  | .mutation .preCallPersistenceFailed message => .error .preCallPersistenceFailed message none
  | .mutation code _ =>
    .error .preCallPersistenceFailed
      s!"Gate 9 refused the submit ({code.text}); no provider call is permitted" none
  | .database _ => .error .preCallPersistenceFailed "unknown persistence failure" none

/-- The result reported for a duplicate. -/
def duplicateResult (intent : IntentRow) : MutationExecutionResult where
  providerCalled := false
  outcome := intent.outcome.getD .uncertain
  intentId := intent.id.text
  clientOrderId := intent.clientOrderId
  idempotencyKey := intent.idempotencyKey
  attempt := .fin intent.attempt
  intentState := intent.status
  reservationState := none
  uncertaintyReason := intent.uncertaintyReason
  requiresReconciliation := intent.status == .uncertain || intent.status == .submitting
  receiptId := none
  providerOrderId := none
  evidence := intent.terminalEvidence
  persistenceFailure := none

/-- A duplicate: only a durably confirmed or rejected intent is projected. -/
def projectDuplicate (intent : IntentRow) (receipt : Option ProviderReceiptRow) :
    CanonicalSubmitResult :=
  let result := duplicateResult intent
  let ticket := receipt.bind (·.providerOrderId)
  match intent.status with
  | .rejected => .ok true result .rejected ticket (receipt.map (·.id))
  | .confirmed =>
    match ticket.filter (fun t => !t.isEmpty) with
    | none =>
      .error .duplicateUnresolved
        s!"duplicate resolution reached a confirmed intent without a durable provider order id (intent {intent.id.text}); an acceptance is never projected without its verified ticket — reconcile the intent before resubmitting"
        (some result)
    | some t => .ok true result .accepted (some t) (receipt.map (·.id))
  | status =>
    .error .duplicateUnresolved
      s!"duplicate resolution reached an intent in state '{status.text}'; the provider outcome is not durably resolved and is never projected as accepted or rejected"
      (some result)

def ProviderUncertaintyReason.text : ProviderUncertaintyReason → String
  | .timeout => "timeout"
  | .connectionFailure => "connection_failure"
  | .lostResponse => "lost_response"
  | .malformedResponse => "malformed_response"
  | .unknownProviderStatus => "unknown_provider_status"
  | .identityVerificationFailed => "identity_verification_failed"
  | .receiptPersistenceFailure => "receipt_persistence_failure"
  | .stateCommitFailed => "state_commit_failed"
  | .processRestart => "process_restart"
  | .crashBeforeProviderCall => "crash_before_provider_call"

/-- A submission: the in-memory outcome decides. -/
def projectSubmitted (result : MutationExecutionResult) : CanonicalSubmitResult :=
  match result.outcome with
  | .uncertain =>
    let reason := (result.uncertaintyReason.map (·.text)).getD "unknown reason"
    .error .providerUncertain
      s!"the provider call was made but its outcome could not be durably established ({reason}); intent {result.intentId} is recorded '{result.intentState.text}' and requires reconciliation"
      (some result)
  | .rejected => .ok false result .rejected result.providerOrderId result.receiptId
  | .accepted =>
    match result.providerOrderId.filter (fun t => !t.isEmpty) with
    | none =>
      .error .providerUncertain
        "an accepted outcome without a verified provider order identity cannot be projected; the intent requires reconciliation"
        (some result)
    | some t => .ok false result .accepted (some t) result.receiptId

end VeltrixEye
