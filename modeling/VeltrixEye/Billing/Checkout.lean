import VeltrixEye.Billing.Tables

/-!
# Checkout (`billing/checkout.ts`, `billing/snapshots.ts`)

One checkout call, statement by statement: the row is read, a user without one is priced from the
active epoch, and `obtainLock` sells inside one transaction (row lock, epoch re-read under
`FOR SHARE`, snapshot and subscription inserted behind a savepoint, the stored snapshot verified
against the row).  After the commit the local customer is required and the provider is asked for the
checkout session.

What the transaction has inserted and not committed is kept in the stage.  A generated id that is
taken is a database refusal of the commit.

* `CheckoutStage`, `CheckoutCall.locks` — where a call stands and what it holds there.
-/

namespace VeltrixEye.Billing

/-- The refusals of checkout. -/
inductive CheckoutRefusal where
  | invalid_input
  | pricing_lock_required
  | plan_not_registered
  | forbidden_plan
  | unauthorized_amount
  | plan (failure : BillingProviderPlanFailure)
  | fx (failure : BillingFxFailure)
  | pricing (failure : BillingPricingFailure)
  | customer_not_provisioned
  | provider_refused
  | database
  deriving DecidableEq

/-- `EXCLUDED_PLAN`: the evidence-only provider plan. -/
def EXCLUDED_PLAN : String := "PLN" ++ "_" ++ "u0l4961hhipl6ek"

def assertSellableProviderPlan (id : Option String) : Except CheckoutRefusal Unit :=
  if id.map jsTrim = some EXCLUDED_PLAN then .error .forbidden_plan
  else if id = none ∨ id.map jsTrim = some "" then .error .plan_not_registered
  else .ok ()

inductive CheckoutStage where
  /-- The row is about to be read. -/
  | reading
  /-- No row: the active epoch is about to be read. -/
  | selecting
  /-- The epoch's FX version is about to be read and the sale priced. -/
  | pricing (epoch : ProviderPlanRow)
  /-- `BEGIN`, then the row `FOR UPDATE`. -/
  | locking (candidate : Option (BillingPricingSnapshot × Uuid))
  /-- The candidate's epoch is about to be read `FOR SHARE`. -/
  | authorizing (candidate : BillingPricingSnapshot) (epochId : Uuid)
  /-- The snapshot is about to be inserted. -/
  | persisting (candidate : BillingPricingSnapshot) (epochId : Uuid)
  /-- The subscription is about to be inserted; `new` is the uncommitted snapshot. -/
  | inserting (persisted : StoredSnapshot) (new : Option SnapshotRow) (epochId : Uuid)
  /-- Lost the race for the user's row; the savepoint is rolled back. -/
  | reselecting (epochId : Uuid)
  /-- The row is locked or (`inserted`) uncommitted; the stored snapshot is about to be verified. -/
  | verifying (row : SubscriptionRow) (new : Option SnapshotRow) (inserted : Bool)
      (epochId : Option Uuid)
  /-- Committed; `sold` when this call created the row.  The local customer is required. -/
  | admitting (stored : StoredSnapshot) (sold : Bool)
  /-- The provider is asked for the session. -/
  | initializing (stored : StoredSnapshot) (sold : Bool)
  | completed (reference : String)
  | refused (reason : CheckoutRefusal)
  deriving DecidableEq

structure CheckoutCall where
  userId : Uuid
  cataloguePlan : CommercialPlanId
  interval : BillingInterval
  stage : CheckoutStage
  deriving DecidableEq

/-- `billingCheckoutInputSchema`: Starter is not sellable. -/
def startCheckout (userId : Uuid) (plan : CommercialPlanId) (interval : BillingInterval) :
    CheckoutCall :=
  ⟨userId, plan, interval, if plan = .starter then .refused .invalid_input else .reading⟩

theorem startCheckout_stage (userId : Uuid) (plan : CommercialPlanId) (interval : BillingInterval) :
    (startCheckout userId plan interval).stage = .refused .invalid_input ∨
      (startCheckout userId plan interval).stage = .reading := ite_eq_or_eq _ _ _

/-- The locks the open transaction of a call holds. -/
def CheckoutCall.locks (call : CheckoutCall) : List Lock :=
  match call.stage with
  | .persisting _ epochId => [.planShare epochId]
  | .inserting _ new epochId => .planShare epochId :: (new.map fun r => .snapshotKey r.idempotencyKey).toList
  | .reselecting epochId => [.planShare epochId]
  | .verifying row new inserted epochId =>
    (epochId.map .planShare).toList ++
      if inserted then
        [.subscriptionUser call.userId, .userKeyShare call.userId] ++
          (new.map fun r => .snapshotKey r.idempotencyKey).toList
      else [.subscriptionUpdate row.id]
  | _ => []

/-- The epochs `findActive` reads. -/
def findActiveRows (db : BillingTables) (mode : BillingProviderMode) (plan : CommercialPlanId)
    (interval : BillingInterval) : List ProviderPlanRow :=
  (db.plans.filter fun p => p.mode = mode && p.cataloguePlan = plan && p.interval = interval &&
    p.paymentCurrency = "GHS").mergeSort fun p q => q.validFrom ≤ p.validFrom

/-- The trigger `billing_pricing_snapshots_fx_coherence`. -/
def fxCoherent (db : BillingTables) (s : BillingPricingSnapshot) : Bool :=
  match db.fxVersions.find? fun v => v.id = s.fx.fxRateVersionId with
  | none => false
  | some v => v.baseCurrency = "USD" && v.quoteCurrency = s.payment.paymentCurrency &&
    toBillingFxSnapshot v = s.fx

/-- The comparison of the locked row with its snapshot. -/
def rowAgrees (row : SubscriptionRow) (s : BillingPricingSnapshot) : Bool :=
  s.cataloguePlan ≠ .starter && row.provider = some .paystack &&
    some row.plan = internalPlanForCommercialPlan s.cataloguePlan &&
    row.cataloguePlan = some s.cataloguePlan && row.billingInterval = some s.interval &&
    row.providerPlanId = s.providerPlanId

/-- The row checkout inserts. -/
def soldRow (id userId : Uuid) (plan : UserPlan) (persisted : StoredSnapshot) : SubscriptionRow where
  id := id
  userId := userId
  plan := plan
  status := .active
  cataloguePlan := some persisted.snapshot.cataloguePlan
  billingInterval := some persisted.snapshot.interval
  provider := some .paystack
  providerPlanId := persisted.snapshot.providerPlanId
  providerState := some .pending
  providerSubscriptionId := none
  providerSubscriptionCode := none
  billingCustomerId := none
  lockedPricingSnapshotId := some persisted.id
  syncState := .never_synced
  syncRequired := false
  lastSyncedAt := none
  lastEventIdempotencyKey := none
  stateVersion := 1

/-- The active epoch of a user without a row. -/
def selectEpoch (db : BillingTables) (mode : BillingProviderMode) (plan : CommercialPlanId)
    (interval : BillingInterval) : Except CheckoutRefusal ProviderPlanRow :=
  match selectActiveProviderPlan (findActiveRows db mode plan interval) mode with
  | .error .not_found => .error .plan_not_registered
  | .error failure => .error (.plan failure)
  | .ok epoch => (assertSellableProviderPlan (some epoch.providerPlanId)).map fun _ => epoch

/-- The price of the epoch, under the FX version it pins. -/
def priceEpoch (db : BillingTables) (mode : BillingProviderMode) (epoch : ProviderPlanRow)
    (asOf : ℤ) : Except CheckoutRefusal BillingPricingSnapshot :=
  match db.fxVersions.find? fun v => v.id = epoch.fxRateVersionId with
  | none => .error (.fx .missing)
  | some version =>
    match priceFromProviderPlanEpoch epoch version asOf mode with
    | .error (.plan failure) => .error (.plan failure)
    | .error (.fx failure) => .error (.fx failure)
    | .error (.pricing failure) => .error (.pricing failure)
    | .ok snapshot => .ok snapshot

/-- `assertCandidateEpochStillActive`, on the row that was read. -/
def assertCandidateEpochStillActive (row : ProviderPlanRow) (candidate : BillingPricingSnapshot)
    (mode : BillingProviderMode) : Except CheckoutRefusal Unit :=
  match parseProviderPlan row mode with
  | .error failure => .error (.plan failure)
  | .ok epoch =>
    if epoch.status ≠ .active then .error (.plan .retired)
    else match candidate.providerPlanId with
      | none => .error .unauthorized_amount
      | some providerPlanId =>
        if providerPlanMatches epoch candidate providerPlanId mode then .ok ()
        else .error (.plan .mismatch)

/-- `BillingPricingSnapshotStore.create`: the stored snapshot and the row it inserted. -/
def createSnapshot (runtime : BillingRuntime) (db : BillingTables) (id : Uuid)
    (candidate : BillingPricingSnapshot) :
    Except CheckoutRefusal (StoredSnapshot × Option SnapshotRow) :=
  match verifyPricingSnapshot candidate with
  | .error failure => .error (.pricing failure)
  | .ok s =>
    let key := pricingIdempotencyKey runtime s
    match db.snapshots.find? fun r => r.idempotencyKey = key with
    | some row =>
      match fromSnapshotRow runtime row with
      | .error failure => .error (.pricing failure)
      | .ok stored => .ok (stored, none)
    | none =>
      if !fxCoherent db s then .error .database
      else match fromSnapshotRow runtime ⟨id, key, s⟩ with
        | .error failure => .error (.pricing failure)
        | .ok stored => .ok (stored, some ⟨id, key, s⟩)

theorem createSnapshot_ok {runtime : BillingRuntime} {db : BillingTables} {id : Uuid}
    {candidate : BillingPricingSnapshot} {persisted : StoredSnapshot} {new : Option SnapshotRow}
    (h : createSnapshot runtime db id candidate = .ok (persisted, new)) :
    ∃ s, verifyPricingSnapshot candidate = .ok s ∧
      ((new = none ∧ ∃ row ∈ db.snapshots, row.idempotencyKey = pricingIdempotencyKey runtime s ∧
          fromSnapshotRow runtime row = .ok persisted) ∨
        (new = some ⟨id, pricingIdempotencyKey runtime s, s⟩ ∧
          (∀ r ∈ db.snapshots, r.idempotencyKey ≠ pricingIdempotencyKey runtime s) ∧
          fromSnapshotRow runtime ⟨id, pricingIdempotencyKey runtime s, s⟩ = .ok persisted)) := by
  unfold createSnapshot at h
  split at h
  · cases h
  rename_i s hs
  refine ⟨s, hs, ?_⟩
  dsimp only at h
  split at h
  · rename_i row hrow
    split at h
    · cases h
    rename_i stored hstored
    cases h
    exact .inl ⟨rfl, row, List.mem_of_find?_eq_some hrow, by simpa using List.find?_some hrow,
      hstored⟩
  · rename_i hnone
    split at h
    · cases h
    split at h
    · cases h
    rename_i stored hstored
    cases h
    refine .inr ⟨rfl, ?_, hstored⟩
    simpa using List.find?_eq_none.mp hnone

/-- The end of `obtainLock`: the locked snapshot is read back, verified and compared with the row. -/
def verifyLock (runtime : BillingRuntime) (snapshots : List SnapshotRow) (row : SubscriptionRow) :
    Except CheckoutRefusal StoredSnapshot :=
  match row.lockedPricingSnapshotId with
  | none => .error .pricing_lock_required
  | some id =>
    match findSnapshotById runtime snapshots id with
    | .error failure => .error (.pricing failure)
    | .ok none => .error .unauthorized_amount
    | .ok (some stored) =>
      match verifyPricingSnapshot stored.snapshot with
      | .error failure => .error (.pricing failure)
      | .ok s =>
        match assertSellableProviderPlan s.providerPlanId with
        | .error reason => .error reason
        | .ok () => if rowAgrees row s then .ok stored else .error .unauthorized_amount

/-- The tables after the commit of a sale. -/
def commitSale (db : BillingTables) (row : SubscriptionRow) (new : Option SnapshotRow) :
    BillingTables :=
  { db with
    snapshots := db.snapshots ++ new.toList
    subscriptions := db.subscriptions ++ [row] }

/-- The primary keys of a sale are free. -/
def saleIdsFree (db : BillingTables) (row : SubscriptionRow) (new : Option SnapshotRow) : Bool :=
  !(db.subscriptions.any fun r => r.id = row.id) &&
    new.all fun n => !(db.snapshots.any fun r => r.id = n.id)

/-- The next stage and the tables after one statement of a checkout call; a statement that must wait
    for `held` changes nothing. -/
def checkoutStep (runtime : BillingRuntime) (mode : BillingProviderMode) (input : StepInput)
    (db : BillingTables) (held : List Lock) (call : CheckoutCall) : BillingTables × CheckoutStage :=
  match call.stage with
  | .reading =>
    match db.subscriptionOf call.userId with
    | some row =>
      if row.lockedPricingSnapshotId = none then (db, .refused .pricing_lock_required)
      else (db, .locking none)
    | none => (db, .selecting)
  | .selecting =>
    match selectEpoch db mode call.cataloguePlan call.interval with
    | .error reason => (db, .refused reason)
    | .ok epoch => (db, .pricing epoch)
  | .pricing epoch =>
    match priceEpoch db mode epoch input.nowMs with
    | .error reason => (db, .refused reason)
    | .ok snapshot => (db, .locking (some (snapshot, epoch.id)))
  | .locking candidate =>
    match db.subscriptionOf call.userId with
    | some row =>
      if blocked held (.subscriptionUpdate row.id) then (db, call.stage)
      else (db, .verifying row none false none)
    | none =>
      match candidate with
      | none => (db, .refused .pricing_lock_required)
      | some (snapshot, epochId) => (db, .authorizing snapshot epochId)
  | .authorizing candidate epochId =>
    if blocked held (.planShare epochId) then (db, call.stage)
    else match db.plans.find? fun p => p.id = epochId with
      | none => (db, .refused .plan_not_registered)
      | some row =>
        match assertCandidateEpochStillActive row candidate mode with
        | .error reason => (db, .refused reason)
        | .ok () => (db, .persisting candidate epochId)
  | .persisting candidate epochId =>
    match verifyPricingSnapshot candidate with
    | .error failure => (db, .refused (.pricing failure))
    | .ok s =>
      if blocked held (.snapshotKey (pricingIdempotencyKey runtime s)) then (db, call.stage)
      else match createSnapshot runtime db input.id candidate with
        | .error reason => (db, .refused reason)
        | .ok (persisted, new) => (db, .inserting persisted new epochId)
  | .inserting persisted new epochId =>
    if blocked held (.subscriptionUser call.userId) then (db, call.stage)
    else if (db.subscriptionOf call.userId).isSome then (db, .reselecting epochId)
    else if blocked held (.userKeyShare call.userId) then (db, call.stage)
    else if !db.hasUser call.userId then (db, .refused .database)
    else match internalPlanForCommercialPlan persisted.snapshot.cataloguePlan with
      | none => (db, .refused .database)
      | some plan =>
        (db, .verifying (soldRow input.id call.userId plan persisted) new true (some epochId))
  | .reselecting epochId =>
    match db.subscriptionOf call.userId with
    | none => (db, .refused .pricing_lock_required)
    | some row =>
      if blocked held (.subscriptionUpdate row.id) then (db, call.stage)
      else (db, .verifying row none false (some epochId))
  | .verifying row new inserted _ =>
    match verifyLock runtime (db.snapshots ++ new.toList) row with
    | .error reason => (db, .refused reason)
    | .ok stored =>
      if inserted then
        if saleIdsFree db row new then (commitSale db row new, .admitting stored true)
        else (db, .refused .database)
      else (db, .admitting stored false)
  | .admitting stored sold =>
    if db.existingCustomer call.userId then (db, .initializing stored sold)
    else (db, .refused .customer_not_provisioned)
  | .initializing stored _ =>
    if input.accepted then
      (db, .completed (billingCheckoutReference runtime call.userId stored.idempotencyKey))
    else (db, .refused .provider_refused)
  | .completed _ => (db, call.stage)
  | .refused _ => (db, call.stage)

end VeltrixEye.Billing
