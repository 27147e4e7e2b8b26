import VeltrixEye.Billing.Entitlements
import VeltrixEye.Billing.PaymentEvidence
import VeltrixEye.Lib.Pool

/-!
# The billing tables (migrations 0014 and 0031-0036) and the row locks

Every table is a list in insertion order; a row is appended when the transaction that wrote it
commits, so what another transaction has not committed is not in a table.  What such a transaction
holds meanwhile (row locks, and the keys of rows it has inserted under a unique index) are `Lock`s;
a statement that needs a conflicting one waits.

* `BillingTables` — the tables, with the lookups of the stores.
-/

namespace VeltrixEye.Billing

/-! ## Rows -/

structure UserRow where
  id : Uuid
  email : String
  deriving DecidableEq

/-- `billing_customers`; `provisioned` is `status = 'provisioned'`, the only other status an
    operation writes over being `'unprovisioned'`. -/
structure CustomerRow where
  id : Uuid
  userId : Uuid
  email : String
  providerCustomerId : Option String
  providerCustomerCode : Option String
  provisioned : Bool
  deriving DecidableEq

/-- `billing_pricing_snapshots`. -/
structure SnapshotRow where
  id : Uuid
  idempotencyKey : String
  snapshot : BillingPricingSnapshot
  deriving DecidableEq

/-- `subscriptions`. -/
structure SubscriptionRow where
  id : Uuid
  userId : Uuid
  plan : UserPlan
  status : SubscriptionStatus
  cataloguePlan : Option CommercialPlanId
  billingInterval : Option BillingInterval
  provider : Option BillingProviderId
  providerPlanId : Option String
  providerState : Option BillingLifecycleState
  providerSubscriptionId : Option String
  providerSubscriptionCode : Option String
  billingCustomerId : Option Uuid
  lockedPricingSnapshotId : Option Uuid
  syncState : BillingSyncState
  syncRequired : Bool
  lastSyncedAt : Option String
  lastEventIdempotencyKey : Option String
  stateVersion : ℕ
  deriving DecidableEq

/-- `billing_verified_transactions`. -/
structure EvidenceRow where
  id : Uuid
  userId : Uuid
  subscriptionId : Uuid
  pricingSnapshotId : Uuid
  providerReference : String
  providerTransactionId : Option String
  paymentAmountMinor : ℕ
  paymentCurrency : String
  paymentAmountExponent : ℕ
  providerStatus : String
  providerDomain : BillingProviderMode
  providerCustomerId : Option String
  providerCustomerCode : Option String
  paidAt : String
  verifiedAt : String
  evidenceHash : String
  idempotencyKey : String
  deriving DecidableEq

/-- `billing_subscription_activations`. -/
structure ActivationRow where
  id : Uuid
  userId : Uuid
  subscriptionId : Uuid
  pricingSnapshotId : Uuid
  evidenceId : Uuid
  cataloguePlan : CommercialPlanId
  billingInterval : BillingInterval
  providerPlanId : Option String
  providerReference : String
  paymentCurrency : String
  paymentAmountMinor : ℕ
  paymentAmountExponent : ℕ
  evidenceHash : String
  operatorId : String
  activationReason : String
  activatedAt : String
  idempotencyKey : String
  deriving DecidableEq

/-- `billing_entitlement_grants`; the kind is always `owner`. -/
structure GrantRow where
  id : Uuid
  userId : Uuid
  plan : UserPlan
  operatorId : String
  grantReason : String
  grantedAt : String
  idempotencyKey : String
  deriving DecidableEq

/-- `billing_provider_events`; the receipt instant is in milliseconds. -/
structure EventRow where
  id : Uuid
  eventType : BillingEventType
  idempotencyKey : String
  subscriptionId : Option Uuid
  userId : Option Uuid
  providerCustomerId : Option String
  providerSubscriptionId : Option String
  providerReference : Option String
  status : BillingEventState
  failureReason : Option String
  receivedAt : ℤ
  processedAt : Option String
  deriving DecidableEq

structure BillingTables where
  users : List UserRow
  customers : List CustomerRow
  fxVersions : List FxRateVersionRow
  plans : List ProviderPlanRow
  snapshots : List SnapshotRow
  subscriptions : List SubscriptionRow
  transactions : List EvidenceRow
  activations : List ActivationRow
  grants : List GrantRow
  events : List EventRow

/-! ## Lookups -/

/-- `z.string().guid()`: 36 characters, hyphens after digits 8, 12, 16 and 20. -/
def isGuid (s : String) : Bool :=
  s.toList.length = 36 && s.toList.zipIdx.all fun (c, i) =>
    if i ∈ [8, 13, 18, 23] then c = '-' else (hexDigit? c).isSome

namespace BillingTables

variable (db : BillingTables)

/-- `SELECT … FROM subscriptions WHERE user_id = $1`. -/
def subscriptionOf (userId : Uuid) : Option SubscriptionRow :=
  db.subscriptions.find? fun r => r.userId = userId

/-- `readUser`: by id when the reference is a guid, else by email. -/
def readUser (reference : String) : Option UserRow :=
  if isGuid reference then
    match Uuid.ofText? reference with
    | some id => db.users.find? fun r => r.id = id
    | none => none
  else db.users.find? fun r => r.email = reference

/-- The user row a foreign key refers to exists. -/
def hasUser (userId : Uuid) : Bool := db.users.any fun r => r.id = userId

def readLocalCustomer (userId : Uuid) : Option LocalCustomer :=
  (db.customers.find? fun r => r.userId = userId).map fun r =>
    ⟨r.providerCustomerId, r.providerCustomerCode⟩

/-- `requireExistingCustomer`: the local customer has an email and a provider customer code. -/
def existingCustomer (userId : Uuid) : Bool :=
  match db.customers.find? fun r => r.userId = userId with
  | some r => r.email ≠ "" && r.providerCustomerCode.any fun code => jsTrim code ≠ ""
  | none => false

/-- Whether an activation fact exists for the subscription. -/
def activated (subscriptionId : Uuid) : Bool :=
  db.activations.any fun a => a.subscriptionId = subscriptionId

/-- The tier the account's grant names. -/
def grantedPlan (userId : Uuid) : Option UserPlan :=
  (db.grants.find? fun g => g.userId = userId).map (·.plan)

/-- `readPaidTier`: the tier of the account without any grant. -/
def readPaidTier (userId : Uuid) : UserPlan :=
  match db.subscriptionOf userId with
  | some row => resolvePaidTier row.plan row.provider (db.activated row.id)
  | none => .free

/-- The entitlements `getBillingState` reports, and with no grant read. -/
def entitlements (userId : Uuid) (grantedPlan : Option UserPlan) : Entitlements :=
  match db.subscriptionOf userId with
  | some row =>
    resolveEntitlements row.plan row.status row.provider (db.activated row.id) grantedPlan
  | none => resolveEntitlements .free .active none false grantedPlan

end BillingTables

/-! ## Stored snapshots -/

/-- `StoredBillingPricingSnapshot`. -/
structure StoredSnapshot where
  id : Uuid
  idempotencyKey : String
  snapshot : BillingPricingSnapshot
  deriving DecidableEq

/-- `fromRow` of the snapshot store: the row verifies and its key is its own. -/
def fromSnapshotRow (runtime : BillingRuntime) (row : SnapshotRow) :
    Except BillingPricingFailure StoredSnapshot :=
  match verifyPricingSnapshot row.snapshot with
  | .error e => .error e
  | .ok snapshot =>
    if pricingIdempotencyKey runtime snapshot ≠ row.idempotencyKey then .error .invalid_snapshot
    else .ok ⟨row.id, row.idempotencyKey, snapshot⟩

/-- `BillingPricingSnapshotStore.findById`, over the rows the transaction sees. -/
def findSnapshotById (runtime : BillingRuntime) (rows : List SnapshotRow) (id : Uuid) :
    Except BillingPricingFailure (Option StoredSnapshot) :=
  match rows.find? fun r => r.id = id with
  | none => .ok none
  | some row => (fromSnapshotRow runtime row).map some

/-- A row that was read back verifies, and its key is its own. -/
theorem fromSnapshotRow_ok {runtime : BillingRuntime} {row : SnapshotRow} {stored : StoredSnapshot}
    (h : fromSnapshotRow runtime row = .ok stored) :
    stored.id = row.id ∧ stored.idempotencyKey = row.idempotencyKey ∧
      verifyPricingSnapshot row.snapshot = .ok stored.snapshot ∧
      pricingIdempotencyKey runtime stored.snapshot = row.idempotencyKey := by
  unfold fromSnapshotRow at h
  split at h
  · cases h
  rename_i snapshot hsnapshot
  split at h
  · cases h
  rename_i hkey
  cases h
  exact ⟨rfl, rfl, hsnapshot, not_not.mp hkey⟩

theorem findSnapshotById_some {runtime : BillingRuntime} {rows : List SnapshotRow} {id : Uuid}
    {stored : StoredSnapshot} (h : findSnapshotById runtime rows id = .ok (some stored)) :
    ∃ row ∈ rows, row.id = id ∧ fromSnapshotRow runtime row = .ok stored := by
  unfold findSnapshotById at h
  split at h
  · cases h
  rename_i row hrow
  refine ⟨row, List.mem_of_find?_eq_some hrow, by simpa using List.find?_some hrow, ?_⟩
  cases hfrom : fromSnapshotRow runtime row with
  | error e =>
    rw [hfrom] at h
    cases h
  | ok stored' =>
    rw [hfrom] at h
    cases h
    rfl

/-! ## Row locks -/

/-- What an open transaction holds or a statement asks for. -/
inductive Lock where
  /-- A `users` row `FOR UPDATE`. -/
  | userUpdate (id : Uuid)
  /-- A `users` row referred to by an inserted row. -/
  | userKeyShare (id : Uuid)
  /-- A `subscriptions` row `FOR UPDATE`. -/
  | subscriptionUpdate (id : Uuid)
  /-- A `subscriptions` row changed by an `UPDATE` of no key column. -/
  | subscriptionWrite (id : Uuid)
  /-- A `subscriptions` row referred to by an inserted row. -/
  | subscriptionKeyShare (id : Uuid)
  /-- A `billing_provider_plans` row `FOR SHARE`. -/
  | planShare (id : Uuid)
  /-- A `billing_provider_plans` row changed by an `UPDATE`. -/
  | planWrite (id : Uuid)
  /-- A `billing_provider_events` row `FOR UPDATE`. -/
  | event (id : Uuid)
  /-- A snapshot inserted under its unique key and not committed. -/
  | snapshotKey (key : String)
  /-- A subscription inserted for its user and not committed. -/
  | subscriptionUser (userId : Uuid)

/-- Two locks that different transactions cannot hold together. -/
def Lock.conflicts : Lock → Lock → Bool
  | .userUpdate a, .userUpdate b => a = b
  | .userUpdate a, .userKeyShare b => a = b
  | .userKeyShare a, .userUpdate b => a = b
  | .subscriptionUpdate a, .subscriptionUpdate b => a = b
  | .subscriptionUpdate a, .subscriptionWrite b => a = b
  | .subscriptionWrite a, .subscriptionUpdate b => a = b
  | .subscriptionWrite a, .subscriptionWrite b => a = b
  | .subscriptionUpdate a, .subscriptionKeyShare b => a = b
  | .subscriptionKeyShare a, .subscriptionUpdate b => a = b
  | .planShare a, .planWrite b => a = b
  | .planWrite a, .planShare b => a = b
  | .planWrite a, .planWrite b => a = b
  | .event a, .event b => a = b
  | .snapshotKey a, .snapshotKey b => a = b
  | .subscriptionUser a, .subscriptionUser b => a = b
  | _, _ => false

theorem Lock.conflicts_comm (a b : Lock) : a.conflicts b = b.conflicts a := by
  cases a <;> cases b <;> simp only [Lock.conflicts, eq_comm]

/-- Some of `held` keeps `lock` from being taken. -/
def blocked (held : List Lock) (lock : Lock) : Bool := held.any fun l => l.conflicts lock

theorem blocked_eq_false {held : List Lock} {lock : Lock} :
    blocked held lock = false ↔ ∀ l ∈ held, l.conflicts lock = false := by
  simp [blocked]

/-! ## Values a step takes from outside -/

/-- What one step takes from outside: an id the database generates, the clock (printed and in
    milliseconds), the provider's answer, and whether the adapter accepts a request. -/
structure StepInput where
  id : Uuid
  now : String
  nowMs : ℤ
  view : Option ProviderSubscriptionState
  accepted : Bool

end VeltrixEye.Billing
