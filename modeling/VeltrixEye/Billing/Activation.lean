import VeltrixEye.Billing.Checkout
import VeltrixEye.Billing.Confirmation

/-!
# Activation (`billing/activation.ts`, migration 0035)

One `activate` call: everything happens in one transaction, under the user's subscription row
`FOR UPDATE`.

* `activationCoherent` — the trigger `billing_subscription_activations_coherent`.
* `locateEvidence` — the pinned evidence, or the newest successful one of the subscription.
* `activateStep` — the next statement of a call.
-/

namespace VeltrixEye.Billing

/-- `BillingActivationErrorReason`. -/
inductive ActivationRefusal where
  | invalid_operator_input
  | user_not_found
  | subscription_not_found
  | pricing_lock_required
  | pricing_snapshot_not_found
  | invalid_snapshot
  | forbidden_plan
  | excluded_provider_plan
  | plan_not_registered
  | incoherent_subscription
  | payment_evidence_not_found
  | evidence_not_successful
  | reconciliation_failed (reason : BillingPaymentReconciliationFailure)
  | invalid_evidence_row
  | incoherent_activation
  | conflict
  | database
  deriving DecidableEq

structure ActivationRequest where
  user : String
  operatorId : String
  reason : String
  evidenceId : Option Uuid
  activatedAt : Option String
  deriving DecidableEq

inductive ActivateStage where
  /-- `BEGIN`, then the user is about to be read. -/
  | locating
  /-- The subscription is about to be read `FOR UPDATE`. -/
  | locking (user : UserRow)
  /-- Locked; an existing fact is about to be looked up. -/
  | replaying (user : UserRow) (row : SubscriptionRow)
  /-- The locked snapshot is about to be read and verified. -/
  | pricing (user : UserRow) (row : SubscriptionRow) (snapshotId : Uuid)
  /-- The evidence is about to be located. -/
  | locatingEvidence (user : UserRow) (row : SubscriptionRow) (stored : StoredSnapshot)
  /-- The local customer is about to be read and the evidence reconciled. -/
  | reconciling (user : UserRow) (row : SubscriptionRow) (stored : StoredSnapshot)
      (evidence : EvidenceRow)
  /-- The fact is about to be inserted. -/
  | inserting (user : UserRow) (row : SubscriptionRow) (stored : StoredSnapshot)
      (evidence : EvidenceRow)
  /-- Inserted, not committed. -/
  | committing (fact : ActivationRow)
  | activated (fact : ActivationRow) (replayed : Bool)
  | refused (reason : ActivationRefusal)
  deriving DecidableEq

structure ActivateCall where
  request : ActivationRequest
  stage : ActivateStage
  deriving DecidableEq

/-- The operator and the reason are explicit, bounded and not credential-shaped. -/
def startActivate (request : ActivationRequest) : ActivateCall :=
  ⟨request,
    if boundedText 128 (jsTrim request.operatorId) && boundedText 500 (jsTrim request.reason) then
      .locating
    else .refused .invalid_operator_input⟩

theorem startActivate_stage (request : ActivationRequest) :
    (startActivate request).stage = .locating ∨
      (startActivate request).stage = .refused .invalid_operator_input := by
  unfold startActivate
  dsimp only
  split
  · exact .inl rfl
  · exact .inr rfl

def ActivateCall.locks (call : ActivateCall) : List Lock :=
  match call.stage with
  | .replaying _ row => [.subscriptionUpdate row.id]
  | .pricing _ row _ => [.subscriptionUpdate row.id]
  | .locatingEvidence _ row _ => [.subscriptionUpdate row.id]
  | .reconciling _ row _ _ => [.subscriptionUpdate row.id]
  | .inserting _ row _ _ => [.subscriptionUpdate row.id]
  | .committing fact => [.subscriptionUpdate fact.subscriptionId, .userKeyShare fact.userId]
  | _ => []

def billingSubscriptionActivationIdempotencyKey (runtime : BillingRuntime)
    (providerReference : String) (pricingSnapshotId : Uuid) : String :=
  runtime.sha256Hex ("|".intercalate
    ["billing-activation/v1", "paystack", providerReference, pricingSnapshotId.text])

def assertActivatableBillingPlan (s : BillingPricingSnapshot) : Except ActivationRefusal Unit :=
  if s.cataloguePlan = .starter then .error .forbidden_plan
  else if s.providerPlanId = none ∨ s.providerPlanId.map jsTrim = some "" then
    .error .plan_not_registered
  else if s.providerPlanId.map jsTrim = some EXCLUDED_PLAN then .error .excluded_provider_plan
  else .ok ()

/-- `assertSubscriptionCoherent`. -/
def subscriptionCoherent (row : SubscriptionRow) (s : BillingPricingSnapshot) : Bool :=
  row.provider = some .paystack && row.cataloguePlan = some s.cataloguePlan &&
    row.billingInterval = some s.interval && row.providerPlanId = s.providerPlanId &&
    some row.plan = internalPlanForCommercialPlan s.cataloguePlan

/-- `locateEvidence`; the rows of one pair are in insertion order, so the newest is the last. -/
def locateEvidence (runtime : BillingRuntime) (mode : BillingProviderMode) (db : BillingTables)
    (evidenceId : Option Uuid) (subscriptionId pricingSnapshotId : Uuid) :
    Except ActivationRefusal (Option EvidenceRow) :=
  match evidenceId with
  | some id =>
    match db.transactions.find? fun e => e.id = id with
    | none => .ok none
    | some pinned =>
      match fromEvidenceRow runtime pinned with
      | none => .error .invalid_evidence_row
      | some pinned =>
        if pinned.subscriptionId ≠ subscriptionId ∨ pinned.pricingSnapshotId ≠ pricingSnapshotId then
          .ok none
        else .ok (some pinned)
  | none =>
    match (db.transactions.filter fun e => e.subscriptionId = subscriptionId &&
        e.pricingSnapshotId = pricingSnapshotId && e.providerDomain = mode &&
        e.providerStatus = "success").getLast? with
    | none => .ok none
    | some evidence =>
      match fromEvidenceRow runtime evidence with
      | none => .error .invalid_evidence_row
      | some evidence => .ok (some evidence)

/-- The facts of a stored evidence row, as activation reconciles them again. -/
def evidenceFacts (e : EvidenceRow) : BillingVerifiedTransaction where
  providerReference := e.providerReference
  providerTransactionId := e.providerTransactionId
  providerStatus := e.providerStatus
  providerDomain := e.providerDomain
  paymentCurrency := e.paymentCurrency
  paymentAmountMinor := e.paymentAmountMinor
  paymentAmountExponent := e.paymentAmountExponent
  providerCustomerId := e.providerCustomerId
  providerCustomerCode := e.providerCustomerCode
  paidAt := some e.paidAt
  verifiedAt := e.verifiedAt

/-- The fact an activation inserts. -/
def activationFact (runtime : BillingRuntime) (id : Uuid) (request : ActivationRequest)
    (now : String) (user : UserRow) (row : SubscriptionRow) (stored : StoredSnapshot)
    (evidence : EvidenceRow) : ActivationRow where
  id := id
  userId := user.id
  subscriptionId := row.id
  pricingSnapshotId := stored.id
  evidenceId := evidence.id
  cataloguePlan := stored.snapshot.cataloguePlan
  billingInterval := stored.snapshot.interval
  providerPlanId := stored.snapshot.providerPlanId
  providerReference := evidence.providerReference
  paymentCurrency := evidence.paymentCurrency
  paymentAmountMinor := evidence.paymentAmountMinor
  paymentAmountExponent := evidence.paymentAmountExponent
  evidenceHash := evidence.evidenceHash
  operatorId := jsTrim request.operatorId
  activationReason := jsTrim request.reason
  activatedAt := runtime.storedInstant (request.activatedAt.getD now)
  idempotencyKey := billingSubscriptionActivationIdempotencyKey runtime evidence.providerReference
    stored.id

/-- The trigger `billing_subscription_activations_coherent` (every domain is `test` or `live`). -/
def activationCoherent (db : BillingTables) (fact : ActivationRow) : Bool :=
  match db.subscriptions.find? fun r => r.id = fact.subscriptionId with
  | none => false
  | some sub =>
    sub.userId = fact.userId && sub.provider = some .paystack &&
    sub.lockedPricingSnapshotId = some fact.pricingSnapshotId &&
    sub.cataloguePlan = some fact.cataloguePlan && sub.billingInterval = some fact.billingInterval &&
    sub.providerPlanId = fact.providerPlanId && fact.cataloguePlan ≠ .starter &&
    fact.providerPlanId ≠ some EXCLUDED_PLAN &&
    match db.snapshots.find? fun s => s.id = fact.pricingSnapshotId with
    | none => false
    | some snap =>
      snap.snapshot.cataloguePlan = fact.cataloguePlan &&
      snap.snapshot.interval = fact.billingInterval &&
      snap.snapshot.payment = ⟨fact.paymentCurrency, fact.paymentAmountMinor,
        fact.paymentAmountExponent⟩ &&
      snap.snapshot.providerPlanId = fact.providerPlanId &&
      match db.transactions.find? fun e => e.id = fact.evidenceId with
      | none => false
      | some ev =>
        ev.userId = fact.userId && ev.subscriptionId = fact.subscriptionId &&
        ev.pricingSnapshotId = fact.pricingSnapshotId && ev.providerStatus = "success" &&
        ev.providerReference = fact.providerReference &&
        ev.paymentCurrency = fact.paymentCurrency &&
        ev.paymentAmountMinor = fact.paymentAmountMinor &&
        ev.paymentAmountExponent = fact.paymentAmountExponent &&
        ev.evidenceHash = fact.evidenceHash

/-- The snapshot of a locked row, read back, verified and compared with the row. -/
def activatableSnapshot (runtime : BillingRuntime) (db : BillingTables) (row : SubscriptionRow)
    (snapshotId : Uuid) : Except ActivationRefusal StoredSnapshot :=
  match findSnapshotById runtime db.snapshots snapshotId with
  | .error _ => .error .conflict
  | .ok none => .error .pricing_snapshot_not_found
  | .ok (some stored) =>
    match verifyPricingSnapshot stored.snapshot with
    | .error _ => .error .invalid_snapshot
    | .ok snapshot =>
      match assertActivatableBillingPlan snapshot with
      | .error reason => .error reason
      | .ok () =>
        if subscriptionCoherent row snapshot then .ok { stored with snapshot := snapshot }
        else .error .incoherent_subscription

/-- `fromActivationRow`: the key must be the one of the fact's identity. -/
def fromActivationRow (runtime : BillingRuntime) (row : ActivationRow) : Option ActivationRow :=
  if billingSubscriptionActivationIdempotencyKey runtime row.providerReference
      row.pricingSnapshotId = row.idempotencyKey then some row
  else none

/-- The next stage and the tables after one statement of an `activate` call. -/
def activateStep (runtime : BillingRuntime) (mode : BillingProviderMode) (input : StepInput)
    (db : BillingTables) (held : List Lock) (call : ActivateCall) : BillingTables × ActivateStage :=
  match call.stage with
  | .locating =>
    match db.readUser (jsTrim call.request.user) with
    | none => (db, .refused .user_not_found)
    | some user => (db, .locking user)
  | .locking user =>
    match db.subscriptionOf user.id with
    | none => (db, .refused .subscription_not_found)
    | some row =>
      if blocked held (.subscriptionUpdate row.id) then (db, call.stage)
      else (db, .replaying user row)
  | .replaying user row =>
    match db.activations.find? fun a => a.subscriptionId = row.id with
    | some existing =>
      match fromActivationRow runtime existing with
      | some fact => (db, .activated fact true)
      | none => (db, .refused .invalid_evidence_row)
    | none =>
      match row.lockedPricingSnapshotId with
      | none => (db, .refused .pricing_lock_required)
      | some snapshotId => (db, .pricing user row snapshotId)
  | .pricing user row snapshotId =>
    match activatableSnapshot runtime db row snapshotId with
    | .error reason => (db, .refused reason)
    | .ok stored => (db, .locatingEvidence user row stored)
  | .locatingEvidence user row stored =>
    match locateEvidence runtime mode db call.request.evidenceId row.id stored.id with
    | .error reason => (db, .refused reason)
    | .ok none => (db, .refused .payment_evidence_not_found)
    | .ok (some evidence) =>
      if evidence.providerDomain ≠ mode ∨ evidence.providerStatus ≠ "success" then
        (db, .refused .evidence_not_successful)
      else (db, .reconciling user row stored evidence)
  | .reconciling user row stored evidence =>
    match reconcileBillingPaymentEvidence runtime (evidenceFacts evidence)
        (expectedReference runtime user.id stored) stored.snapshot (db.readLocalCustomer user.id)
        mode with
    | .error reason => (db, .refused (.reconciliation_failed reason))
    | .ok () => (db, .inserting user row stored evidence)
  | .inserting user row stored evidence =>
    let fact := activationFact runtime input.id call.request input.now user row stored evidence
    if db.activations.any fun a => a.idempotencyKey = fact.idempotencyKey then
      -- the deterministic key is taken: the winner's fact is this subscription's, or a conflict
      match db.activations.find? fun a => a.subscriptionId = row.id with
      | some winner =>
        match fromActivationRow runtime winner with
        | some winner => (db, .activated winner true)
        | none => (db, .refused .invalid_evidence_row)
      | none => (db, .refused .conflict)
    else if !activationCoherent db fact then (db, .refused .incoherent_activation)
    else if blocked held (.userKeyShare user.id) then (db, call.stage)
    else if !db.hasUser user.id then (db, .refused .conflict)
    else (db, .committing fact)
  | .committing fact =>
    -- the unique indexes of the table; a key another transaction took meanwhile is a conflict
    if db.activations.any fun a => a.id = fact.id || a.subscriptionId = fact.subscriptionId ||
        a.evidenceId = fact.evidenceId || a.idempotencyKey = fact.idempotencyKey then
      (db, .refused .conflict)
    else ({ db with activations := db.activations ++ [fact] }, .activated fact false)
  | .activated _ _ => (db, call.stage)
  | .refused _ => (db, call.stage)

end VeltrixEye.Billing
