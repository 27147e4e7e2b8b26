import VeltrixEye.Billing.Tables

/-!
# Payment confirmation (`billing/confirmation.ts`, `billing/verified-transactions.ts`)

One `confirm` call, statement by statement: the subscription, its locked snapshot and the local
customer are read, the provider is asked for its view, the facts built from it are reconciled with
the snapshot, and the evidence is found or recorded.  Every statement commits by itself, so a call
holds no lock.

* `ConfirmStage` — where a call stands.
-/

namespace VeltrixEye.Billing

/-- The refusals of a confirmation (a result that is not verified is no refusal). -/
inductive ConfirmRefusal where
  | verification_unavailable
  | invalid_snapshot (failure : BillingPricingFailure)
  | conflict
  | invalid_input
  | database
  deriving DecidableEq

inductive ConfirmStage where
  | reading
  | loading (row : SubscriptionRow) (snapshotId : Uuid)
  | identifying (row : SubscriptionRow) (stored : StoredSnapshot)
  /-- The provider is about to be asked. -/
  | verifying (row : SubscriptionRow) (stored : StoredSnapshot) (customer : Option LocalCustomer)
  /-- Reconciled; the evidence is about to be looked up by its key. -/
  | checking (row : SubscriptionRow) (stored : StoredSnapshot) (customer : Option LocalCustomer)
      (observed : ProviderSubscriptionState) (verifiedAt : String)
  /-- Not found; the evidence is about to be inserted. -/
  | recording (row : SubscriptionRow) (stored : StoredSnapshot) (customer : Option LocalCustomer)
      (observed : ProviderSubscriptionState) (verifiedAt : String)
  /-- The insert wrote nothing; the existing row is about to be read. -/
  | rereading (row : SubscriptionRow) (stored : StoredSnapshot) (customer : Option LocalCustomer)
      (observed : ProviderSubscriptionState) (verifiedAt : String)
  | verified (evidence : EvidenceRow) (replayed : Bool)
  | unverified (reason : BillingPaymentReconciliationFailure)
  | refused (reason : ConfirmRefusal)
  deriving DecidableEq

structure ConfirmCall where
  userId : Uuid
  stage : ConfirmStage
  deriving DecidableEq

def startConfirm (userId : Uuid) : ConfirmCall := ⟨userId, .reading⟩

/-! ## The evidence store -/

/-- `fromRow`: the key must be the one of the row's identity. -/
def fromEvidenceRow (runtime : BillingRuntime) (row : EvidenceRow) : Option EvidenceRow :=
  if billingVerifiedTransactionIdempotencyKey runtime row.providerReference row.pricingSnapshotId =
      row.idempotencyKey then some row
  else none

/-- The row of verified facts, as the database stores and returns it. -/
def recordedRow (runtime : BillingRuntime) (id userId subscriptionId pricingSnapshotId : Uuid)
    (verified : BillingVerifiedTransaction) : EvidenceRow where
  id := id
  userId := userId
  subscriptionId := subscriptionId
  pricingSnapshotId := pricingSnapshotId
  providerReference := verified.providerReference
  providerTransactionId := verified.providerTransactionId
  paymentAmountMinor := verified.paymentAmountMinor
  paymentCurrency := verified.paymentCurrency
  paymentAmountExponent := verified.paymentAmountExponent
  providerStatus := verified.providerStatus
  providerDomain := verified.providerDomain
  providerCustomerId := verified.providerCustomerId
  providerCustomerCode := verified.providerCustomerCode
  paidAt := runtime.storedInstant (verified.paidAt.getD "")
  verifiedAt := runtime.storedInstant verified.verifiedAt
  evidenceHash := billingVerifiedTransactionEvidenceHash runtime verified
  idempotencyKey := billingVerifiedTransactionIdempotencyKey runtime verified.providerReference
    pricingSnapshotId

/-- `recordInputSchema` and the checks behind it. -/
def recordInputOk (runtime : BillingRuntime) (mode : BillingProviderMode)
    (verified : BillingVerifiedTransaction) : Bool :=
  verified.paidAt.any runtime.isoDateTime && runtime.isoDateTime verified.verifiedAt &&
    0 < verified.paymentAmountMinor && verified.providerDomain = mode &&
    isPaymentCurrency verified.paymentCurrency &&
    verified.paymentAmountExponent = paymentAmountExponent

/-- `evidenceEqual`: the comparison of the racing loser, hash included. -/
def evidenceEqual (runtime : BillingRuntime) (existing : EvidenceRow)
    (verified : BillingVerifiedTransaction) (userId subscriptionId pricingSnapshotId : Uuid) : Bool :=
  existing.userId = userId && existing.subscriptionId = subscriptionId &&
    existing.pricingSnapshotId = pricingSnapshotId &&
    existing.providerReference = verified.providerReference &&
    existing.providerTransactionId = verified.providerTransactionId &&
    existing.providerStatus = verified.providerStatus &&
    existing.providerDomain = verified.providerDomain &&
    existing.paymentCurrency = verified.paymentCurrency &&
    existing.paymentAmountMinor = verified.paymentAmountMinor &&
    existing.paymentAmountExponent = verified.paymentAmountExponent &&
    existing.providerCustomerId = verified.providerCustomerId &&
    existing.providerCustomerCode = verified.providerCustomerCode &&
    some existing.paidAt = verified.paidAt &&
    existing.evidenceHash = billingVerifiedTransactionEvidenceHash runtime verified

/-- The comparison of the pre-read in `confirm`. -/
def sameEvidence (mode : BillingProviderMode) (existing : EvidenceRow)
    (verified : BillingVerifiedTransaction) : Bool :=
  existing.providerReference = verified.providerReference &&
    existing.paymentAmountMinor = verified.paymentAmountMinor &&
    existing.paymentCurrency = verified.paymentCurrency &&
    existing.providerStatus = verified.providerStatus &&
    some existing.paidAt = verified.paidAt && existing.providerDomain = mode

/-! ## The call -/

/-- The reference and the key of the user's locked snapshot. -/
def expectedReference (runtime : BillingRuntime) (userId : Uuid) (stored : StoredSnapshot) : String :=
  billingCheckoutReference runtime userId stored.idempotencyKey

def evidenceKey (runtime : BillingRuntime) (userId : Uuid) (stored : StoredSnapshot) : String :=
  billingVerifiedTransactionIdempotencyKey runtime (expectedReference runtime userId stored) stored.id

/-- The facts a call built from the view it observed. -/
def observedFacts (runtime : BillingRuntime) (mode : BillingProviderMode) (userId : Uuid)
    (stored : StoredSnapshot) (observed : ProviderSubscriptionState) (verifiedAt : String) :
    BillingVerifiedTransaction :=
  verifiedTransaction mode (expectedReference runtime userId stored) stored.snapshot observed
    verifiedAt

/-- The next stage and the tables after one statement of a `confirm` call. -/
def confirmStep (runtime : BillingRuntime) (mode : BillingProviderMode) (input : StepInput)
    (db : BillingTables) (held : List Lock) (call : ConfirmCall) : BillingTables × ConfirmStage :=
  match call.stage with
  | .reading =>
    match db.subscriptionOf call.userId with
    | none => (db, .unverified .snapshot_mismatch)
    | some row =>
      if row.provider = none then (db, .unverified .snapshot_mismatch)
      else match row.lockedPricingSnapshotId with
        | none => (db, .unverified .snapshot_mismatch)
        | some snapshotId => (db, .loading row snapshotId)
  | .loading row snapshotId =>
    match findSnapshotById runtime db.snapshots snapshotId with
    | .error failure => (db, .refused (.invalid_snapshot failure))
    | .ok none => (db, .unverified .snapshot_mismatch)
    | .ok (some stored) => (db, .identifying row stored)
  | .identifying row stored => (db, .verifying row stored (db.readLocalCustomer call.userId))
  | .verifying row stored customer =>
    match input.view with
    | none => (db, .refused .verification_unavailable)
    | some observed =>
      if observed.providerReference ≠ some (expectedReference runtime call.userId stored) then
        (db, .unverified .reference_mismatch)
      else match reconcileBillingPaymentEvidence runtime
          (observedFacts runtime mode call.userId stored observed input.now)
          (expectedReference runtime call.userId stored) stored.snapshot customer mode with
        | .error reason => (db, .unverified reason)
        | .ok () => (db, .checking row stored customer observed input.now)
  | .checking row stored customer observed verifiedAt =>
    match db.transactions.find? fun e => e.idempotencyKey = evidenceKey runtime call.userId stored with
    | none => (db, .recording row stored customer observed verifiedAt)
    | some existing =>
      match fromEvidenceRow runtime existing with
      | none => (db, .refused .invalid_input)
      | some existing =>
        if sameEvidence mode existing
            (observedFacts runtime mode call.userId stored observed verifiedAt) then
          (db, .verified existing true)
        else (db, .refused .conflict)
  | .recording row stored customer observed verifiedAt =>
    let verified := observedFacts runtime mode call.userId stored observed verifiedAt
    let evidence := recordedRow runtime input.id call.userId row.id stored.id verified
    if !recordInputOk runtime mode verified then (db, .refused .invalid_input)
    else if blocked held (.userKeyShare call.userId) || blocked held (.subscriptionKeyShare row.id) then
      (db, call.stage)
    else if db.transactions.any fun e => e.idempotencyKey = evidence.idempotencyKey ||
        e.providerReference = evidence.providerReference then
      (db, .rereading row stored customer observed verifiedAt)
    else if !db.hasUser call.userId || db.transactions.any fun e => e.id = evidence.id then
      (db, .refused .database)
    else ({ db with transactions := db.transactions ++ [evidence] }, .verified evidence false)
  | .rereading row stored _ observed verifiedAt =>
    match db.transactions.find? fun e => e.idempotencyKey = evidenceKey runtime call.userId stored with
    | none => (db, .refused .conflict)
    | some existing =>
      match fromEvidenceRow runtime existing with
      | none => (db, .refused .invalid_input)
      | some existing =>
        if evidenceEqual runtime existing
            (observedFacts runtime mode call.userId stored observed verifiedAt) call.userId row.id
            stored.id then
          (db, .verified existing false)
        else (db, .refused .conflict)
  | .verified _ _ => (db, call.stage)
  | .unverified _ => (db, call.stage)
  | .refused _ => (db, call.stage)

end VeltrixEye.Billing
