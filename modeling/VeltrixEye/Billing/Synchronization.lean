import VeltrixEye.Billing.Tables

/-!
# Synchronization (`billing/sync.ts`)

One `synchronize` call: the row is read, the provider is asked once outside any transaction, the
effect is planned, and `apply` claims the received ledger rows, moves the row by compare-and-swap on
`state_version` and settles the claimed rows, in one transaction.  The `UPDATE`, the settlement and
the `COMMIT` are one step: the row stays locked between them and other transactions see none of it
before the commit.

* `planSync` — the pure decision.
-/

namespace VeltrixEye.Billing

inductive SyncOutcome where
  | updated
  | unchanged
  | ignored
  | requires_manual_review
  | conflict
  deriving DecidableEq

/-- The fixed reasons of a plan (`BILLING_SYNC_REASONS`). -/
inductive SyncReason where
  | reviewRequired
  | unprovisioned
  | identityConflict
  deriving DecidableEq

def SyncReason.text : SyncReason → String
  | .reviewRequired =>
    "the verified provider state maps to no subscription status; left unchanged for manual review"
  | .unprovisioned =>
    "the provider reports nothing provisioned yet; subscription status left unchanged"
  | .identityConflict =>
    "the verified provider view disagrees with the local billing identity; nothing was applied"

structure SyncPlan where
  outcome : SyncOutcome
  toStatus : Option SubscriptionStatus
  providerState : Option BillingLifecycleState
  providerSubscriptionIdToBind : Option String
  syncState : BillingSyncState
  syncRequired : Bool
  reason : Option SyncReason
  deriving DecidableEq

def subscriptionIdentityConflictPlan : SyncPlan :=
  ⟨.conflict, none, none, none, .conflict, true, some .identityConflict⟩

/-- The verified view disagrees with what is known locally. -/
def identityDisagrees (observed : ProviderSubscriptionState) (reference : String)
    (row : SubscriptionRow) (customer : Option LocalCustomer) : Bool :=
  (match row.providerSubscriptionCode with
    | some code => observed.providerSubscriptionCode ≠ some code
    | none => match row.providerSubscriptionId with
      | some id => observed.providerSubscriptionId ≠ some id
      | none => false) ||
  disagrees observed.providerReference (some reference) ||
  disagrees observed.providerSubscriptionId row.providerSubscriptionId ||
  disagrees observed.providerSubscriptionCode row.providerSubscriptionCode ||
  disagrees observed.providerCustomerCode (customer.bind (·.providerCustomerCode)) ||
  disagrees observed.providerCustomerId (customer.bind (·.providerCustomerId))

def planSync (fromStatus : SubscriptionStatus) (observed : ProviderSubscriptionState)
    (reference : String) (row : SubscriptionRow) (customer : Option LocalCustomer) : SyncPlan :=
  if identityDisagrees observed reference row customer then subscriptionIdentityConflictPlan
  else match subscriptionStatusForProviderState observed.state with
    | none =>
      if observed.state = .unprovisioned then
        ⟨.ignored, none, some observed.state, none, .pending, false, some .unprovisioned⟩
      else
        ⟨.requires_manual_review, none, some observed.state, none, .conflict, true,
          some .reviewRequired⟩
    | some target =>
      ⟨if target = fromStatus then .unchanged else .updated, some target, some observed.state, none,
        .synced, false, none⟩

/-- Where a claimed row goes under a plan. -/
def settlementFor (plan : SyncPlan) (event : EventRow) : BillingEventState :=
  match plan.outcome with
  | .updated => if event.eventType = .unrecognized then .ignored else .processed
  | .unchanged => if event.eventType = .unrecognized then .ignored else .processed
  | .conflict => .failed
  | .ignored => .ignored
  | .requires_manual_review => .ignored

def BILLING_PROVIDER_EVENT_CLAIM_LIMIT : ℕ := 64

/-- `claimReceivedBillingProviderEvents`; rows another transaction has locked are skipped. -/
def claimReceived (db : BillingTables) (held : List Lock) (subscriptionId userId : Uuid) :
    List EventRow :=
  ((db.events.filter fun e => e.subscriptionId = some subscriptionId && e.userId = some userId &&
    e.status = .received && !blocked held (.event e.id)).mergeSort
      fun a b => a.receivedAt ≤ b.receivedAt).take BILLING_PROVIDER_EVENT_CLAIM_LIMIT

inductive SyncStage where
  | reading
  /-- The provider is about to be asked. -/
  | verifying (row : SubscriptionRow) (pricingKey : String)
  /-- Asked at step `readAt` of the run; the local customer is about to be read and the effect
      planned. -/
  | planning (row : SubscriptionRow) (pricingKey : String) (observed : ProviderSubscriptionState)
      (readAt : ℕ)
  /-- `BEGIN`; the owner of the id to bind is about to be looked up. -/
  | probing (row : SubscriptionRow) (plan : SyncPlan) (readAt : ℕ)
  /-- The received ledger rows are about to be claimed. -/
  | claiming (row : SubscriptionRow) (plan : SyncPlan) (readAt : ℕ)
  /-- Claimed; the row is about to be moved and the transaction committed. -/
  | settling (row : SubscriptionRow) (plan : SyncPlan) (claimed : List EventRow) (readAt : ℕ)
  /-- Committed. -/
  | applied (subscriptionId : Uuid) (outcome : SyncOutcome) (readAt : ℕ)
  /-- Nothing was applied. -/
  | unapplied (outcome : SyncOutcome)
  /-- `verification_unavailable`. -/
  | refused
  deriving DecidableEq

structure SyncCall where
  userId : Uuid
  stage : SyncStage
  deriving DecidableEq

def startSync (userId : Uuid) : SyncCall := ⟨userId, .reading⟩

def SyncCall.locks (call : SyncCall) : List Lock :=
  match call.stage with
  | .settling _ _ claimed _ => claimed.map fun e => .event e.id
  | _ => []

/-- The key of the row's locked snapshot (`LEFT JOIN`). -/
def pricingKeyOf (db : BillingTables) (row : SubscriptionRow) : Option String :=
  row.lockedPricingSnapshotId.bind fun id =>
    (db.snapshots.find? fun s => s.id = id).map (·.idempotencyKey)

/-- The plan of a call: an id from an exact subscription read is bound unless the view conflicts. -/
def syncPlan (runtime : BillingRuntime) (row : SubscriptionRow) (pricingKey : String)
    (observed : ProviderSubscriptionState) (customer : Option LocalCustomer) : SyncPlan :=
  let planned := planSync row.status observed
    (billingCheckoutReference runtime row.userId pricingKey) row customer
  let identified := row.providerSubscriptionCode.isSome || row.providerSubscriptionId.isSome
  { planned with
    providerSubscriptionIdToBind :=
      if identified ∧ planned.outcome ≠ .conflict then observed.providerSubscriptionId else none }

/-- The `WHERE` of the `UPDATE`. -/
def movable (r row : SubscriptionRow) (plan : SyncPlan) : Bool :=
  r.id = row.id && r.stateVersion = row.stateVersion && r.provider = some .paystack &&
    (plan.providerSubscriptionIdToBind = none || r.providerSubscriptionId = none ||
      r.providerSubscriptionId = plan.providerSubscriptionIdToBind)

/-- The `SET` of the `UPDATE`. -/
def moveRow (r : SubscriptionRow) (plan : SyncPlan) (syncedAt : String) (lastKey : Option String) :
    SubscriptionRow :=
  { r with
    status := if plan.outcome = .updated then plan.toStatus.getD r.status else r.status
    providerState := plan.providerState.or r.providerState
    providerSubscriptionId := r.providerSubscriptionId.or plan.providerSubscriptionIdToBind
    syncState := plan.syncState
    syncRequired := plan.syncRequired
    lastSyncedAt := some syncedAt
    lastEventIdempotencyKey := lastKey.or r.lastEventIdempotencyKey
    stateVersion := r.stateVersion + 1 }

/-- `settleBillingProviderEvents` for one ledger row. -/
def settleEvent (plan : SyncPlan) (claimed : List EventRow) (processedAt : String) (e : EventRow) :
    EventRow :=
  if e.status = .received ∧ claimed.any (fun c => c.id = e.id) then
    { e with
      status := settlementFor plan e
      processedAt := some processedAt
      failureReason := e.failureReason.or
        (if settlementFor plan e = .processed then none else plan.reason.map SyncReason.text) }
  else e

/-- Another row already has the id the plan binds. -/
def identityTaken (db : BillingTables) (row : SubscriptionRow) (plan : SyncPlan) : Bool :=
  db.subscriptions.any fun r => r.provider = some .paystack && r.id ≠ row.id &&
    r.providerSubscriptionId.isSome && r.providerSubscriptionId = plan.providerSubscriptionIdToBind

/-- The key of the last processed row. -/
def lastAppliedKey (plan : SyncPlan) (claimed : List EventRow) : Option String :=
  (claimed.filter fun e => settlementFor plan e = .processed).getLast?.map (·.idempotencyKey)

/-- The tables after the commit. -/
def applySync (db : BillingTables) (row : SubscriptionRow) (plan : SyncPlan)
    (claimed : List EventRow) (syncedAt : String) : BillingTables :=
  { db with
    subscriptions := db.subscriptions.map fun r =>
      if movable r row plan then moveRow r plan syncedAt (lastAppliedKey plan claimed) else r
    events := db.events.map (settleEvent plan claimed syncedAt) }

/-- The next stage and the tables after one statement of a `synchronize` call; `tick` is the number
    of the step in the run. -/
def syncStep (runtime : BillingRuntime) (tick : ℕ) (input : StepInput) (db : BillingTables)
    (held : List Lock) (call : SyncCall) : BillingTables × SyncStage :=
  match call.stage with
  | .reading =>
    match db.subscriptionOf call.userId with
    | none => (db, .unapplied .ignored)
    | some row =>
      if row.provider = none then (db, .unapplied .ignored)
      else match pricingKeyOf db row with
        | none => (db, .unapplied .requires_manual_review)
        | some pricingKey => (db, .verifying row pricingKey)
  | .verifying row pricingKey =>
    match input.view with
    | none => (db, .refused)
    | some observed => (db, .planning row pricingKey observed tick)
  | .planning row pricingKey observed readAt =>
    (db, .probing row (syncPlan runtime row pricingKey observed (db.readLocalCustomer call.userId))
      readAt)
  | .probing row plan readAt =>
    if plan.providerSubscriptionIdToBind ≠ none ∧ identityTaken db row plan then
      (db, .claiming row subscriptionIdentityConflictPlan readAt)
    else (db, .claiming row plan readAt)
  | .claiming row plan readAt =>
    (db, .settling row plan (claimReceived db held row.id row.userId) readAt)
  | .settling row plan claimed readAt =>
    if db.subscriptions.any fun r => movable r row plan then
      if blocked held (.subscriptionWrite row.id) then (db, call.stage)
      -- the unique index refuses the bound id: the same call starts over with an identity conflict
      else if plan.providerSubscriptionIdToBind ≠ none ∧ identityTaken db row plan then
        (db, .probing row subscriptionIdentityConflictPlan readAt)
      else (applySync db row plan claimed input.now, .applied row.id plan.outcome readAt)
    else (db, .unapplied .conflict)
  | .applied _ _ _ => (db, call.stage)
  | .unapplied _ => (db, call.stage)
  | .refused => (db, call.stage)

end VeltrixEye.Billing
