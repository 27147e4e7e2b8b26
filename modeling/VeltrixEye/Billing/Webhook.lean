import VeltrixEye.Billing.Tables

/-!
# Webhook receipt (`billing/webhook.ts`)

A delivery is resolved to a local subject, recorded once in the ledger and, when it announces a
subscription, its code is bound to the resolved row.  A delivery enters the model as the receiver has
it after the signature check and the seam's normalization; a body that does not parse and a payload
the seam refuses are recorded as `unrecognized` and bound to nobody.
-/

namespace VeltrixEye.Billing

/-! ## Subjects -/

/-- The provider identifiers of a delivery's subject. -/
structure EventSubject where
  providerCustomerId : Option String
  providerSubscriptionId : Option String
  providerReference : Option String
  deriving DecidableEq

/-- `ResolvedBillingEventSubject`. -/
structure ResolvedSubject where
  userId : Uuid
  subscriptionId : Option Uuid
  billingCustomerId : Option Uuid

/-- What the lookups have noted so far. -/
structure Noted where
  userId : Option Uuid
  subscriptionId : Option Uuid
  billingCustomerId : Option Uuid

/-- `noteUser`, `noteSubscription`, `noteCustomer`: a second value must be the first. -/
def note (slot : Option Uuid) (id : Uuid) : Option (Option Uuid) :=
  match slot with
  | none => some (some id)
  | some known => if known = id then some (some id) else none

def Noted.noteUser (n : Noted) (id : Uuid) : Option Noted :=
  (note n.userId id).map fun slot => { n with userId := slot }

def Noted.noteSubscription (n : Noted) (id : Uuid) : Option Noted :=
  (note n.subscriptionId id).map fun slot => { n with subscriptionId := slot }

def Noted.noteCustomer (n : Noted) (id : Option Uuid) : Option Noted :=
  match id with
  | none => some n
  | some id => (note n.billingCustomerId id).map fun slot => { n with billingCustomerId := slot }

/-- A found subscription: its user, itself and the customer it is bound to. -/
def Noted.noteRow (n : Noted) (row : SubscriptionRow) : Option Noted := do
  let n ← n.noteUser row.userId
  let n ← n.noteSubscription row.id
  n.noteCustomer row.billingCustomerId

/-- The rows with the provider subscription id. -/
def rowsById (db : BillingTables) (id : String) : List SubscriptionRow :=
  db.subscriptions.filter fun r => r.provider = some .paystack && r.providerSubscriptionId = some id

/-- The rows with the provider customer id or code. -/
def rowsByCustomer (db : BillingTables) (id : String) : List CustomerRow :=
  db.customers.filter fun r => r.providerCustomerId = some id || r.providerCustomerCode = some id

/-- A provider-backed subscription joined with the key of its locked snapshot. -/
def pricedRows (db : BillingTables) : List (SubscriptionRow × String) :=
  db.subscriptions.filterMap fun r =>
    if r.provider = some .paystack then
      match r.lockedPricingSnapshotId with
      | none => none
      | some id => (db.snapshots.find? fun s => s.id = id).map fun s => (r, s.idempotencyKey)
    else none

def REFERENCE_RESOLUTION_SCAN_LIMIT : ℕ := 4096

/-- The order in which the database returns rows of a query without `ORDER BY`. -/
structure ScanOrder where
  rows : List (SubscriptionRow × String) → List (SubscriptionRow × String)
  perm : ∀ l, (rows l).Perm l

/-- The scanned rows whose reference is `reference`. -/
def rowsByReference (runtime : BillingRuntime) (order : ScanOrder) (db : BillingTables)
    (reference : String) : List SubscriptionRow :=
  (((order.rows (pricedRows db)).take REFERENCE_RESOLUTION_SCAN_LIMIT).filter fun p =>
    billingCheckoutReference runtime p.1.userId p.2 = reference).map Prod.fst

/-- The first lookup. -/
def noteById (db : BillingTables) (id : Option String) (n : Noted) : Option Noted :=
  match id with
  | none => some n
  | some id =>
    match rowsById db id with
    | [] => some n
    | [row] => n.noteRow row
    | _ => none

/-- The second lookup. -/
def noteByCustomer (db : BillingTables) (id : Option String) (n : Noted) : Option Noted :=
  match id with
  | none => some n
  | some id =>
    match rowsByCustomer db id with
    | [] => some n
    | [row] => (n.noteUser row.userId).bind fun n => n.noteCustomer (some row.id)
    | _ => none

/-- The third lookup. -/
def noteByReference (runtime : BillingRuntime) (order : ScanOrder) (db : BillingTables)
    (reference : Option String) (n : Noted) : Option Noted :=
  match reference with
  | none => some n
  | some reference =>
    if checkoutReferenceShape reference then
      match rowsByReference runtime order db reference with
      | [] => some n
      | [row] => n.noteRow row
      | _ => none
    else some n

/-- The completion: a user without a noted subscription gets their own provider-backed row. -/
def completeSubject (db : BillingTables) (n : Noted) : Option ResolvedSubject :=
  match n.userId with
  | none => none
  | some userId =>
    match n.subscriptionId with
    | some id => some ⟨userId, some id, n.billingCustomerId⟩
    | none =>
      match db.subscriptions.filter fun r => r.userId = userId && r.provider = some .paystack with
      | [row] => (n.noteCustomer row.billingCustomerId).map fun n =>
        ⟨userId, some row.id, n.billingCustomerId⟩
      | _ => some ⟨userId, none, n.billingCustomerId⟩

/-- `createBillingEventSubjectResolver`. -/
def resolveSubject (runtime : BillingRuntime) (order : ScanOrder) (db : BillingTables)
    (subject : EventSubject) : Option ResolvedSubject := do
  let n ← noteById db subject.providerSubscriptionId ⟨none, none, none⟩
  let n ← noteByCustomer db subject.providerCustomerId n
  let n ← noteByReference runtime order db subject.providerReference n
  completeSubject db n

/-! ## Deliveries -/

/-- A delivery; `failureReason` is set when its content was refused. -/
structure Delivery where
  signed : Bool
  eventType : BillingEventType
  idempotencyKey : String
  subject : Option EventSubject
  failureReason : Option String
  receivedAt : ℤ
  deriving DecidableEq

/-- `BillingSubscriptionCodeBinding`. -/
inductive CodeBinding where
  | bound
  | already_bound
  | not_applicable
  | unbound_subject
  | conflict
  | failed
  deriving DecidableEq

inductive WebhookRefusal where
  | invalid_signature
  | persistence_failed
  deriving DecidableEq

inductive ReceiveStage where
  | resolving
  /-- Resolved to a subscription and its user, or to nobody; about to be recorded. -/
  | recording (bound : Option (Uuid × Uuid))
  /-- The holders of the code are about to be read. -/
  | owning (subscriptionId userId : Uuid) (code : String)
  /-- The code is about to be written. -/
  | binding (subscriptionId userId : Uuid) (code : String)
  /-- Nothing was written; the row is about to be read again. -/
  | rereading (subscriptionId userId : Uuid) (code : String)
  | received (binding : CodeBinding)
  | refused (reason : WebhookRefusal)
  deriving DecidableEq

structure ReceiveCall where
  delivery : Delivery
  stage : ReceiveStage
  deriving DecidableEq

def startReceive (delivery : Delivery) : ReceiveCall :=
  ⟨delivery, if delivery.signed then .resolving else .refused .invalid_signature⟩

/-- The subject of a delivery whose content was accepted. -/
def Delivery.accepted (d : Delivery) : Option EventSubject :=
  if d.failureReason = none then d.subject else none

/-- The ledger row of a delivery. -/
def eventRow (id : Uuid) (d : Delivery) (bound : Option (Uuid × Uuid)) : EventRow where
  id := id
  eventType := if d.failureReason = none then d.eventType else .unrecognized
  idempotencyKey := d.idempotencyKey
  subscriptionId := bound.map Prod.fst
  userId := bound.map Prod.snd
  providerCustomerId := d.accepted.bind (·.providerCustomerId)
  providerSubscriptionId := d.accepted.bind (·.providerSubscriptionId)
  providerReference := d.accepted.bind (·.providerReference)
  status := .received
  failureReason := d.failureReason
  receivedAt := d.receivedAt
  processedAt := none

/-- `bindSubscriptionCode`, up to the database. -/
def afterRecord (d : Delivery) (bound : Option (Uuid × Uuid)) : ReceiveStage :=
  if d.failureReason ≠ none ∨ d.eventType ≠ .subscriptionCreated then .received .not_applicable
  else match d.subject.bind (·.providerSubscriptionId) with
    | none => .received .not_applicable
    | some code =>
      match bound with
      | none => .received .unbound_subject
      | some (subscriptionId, userId) => .owning subscriptionId userId code

/-- The row the `UPDATE` of `bindProviderSubscriptionCode` matches. -/
def bindable (row : SubscriptionRow) (subscriptionId userId : Uuid) (code : String) : Bool :=
  row.id = subscriptionId && row.userId = userId && row.provider = some .paystack &&
    row.providerSubscriptionCode = none &&
    (row.providerSubscriptionId = none || row.providerSubscriptionId = some code)

/-- The rows holding a provider subscription code. -/
def rowsByCode (db : BillingTables) (code : String) : List SubscriptionRow :=
  db.subscriptions.filter fun r =>
    r.provider = some .paystack && r.providerSubscriptionCode = some code

/-- The `UPDATE`: the matching row gets the code and the next version. -/
def bindCode (db : BillingTables) (subscriptionId userId : Uuid) (code : String) : BillingTables :=
  { db with
    subscriptions := db.subscriptions.map fun r =>
      if bindable r subscriptionId userId code then
        { r with providerSubscriptionCode := some code, stateVersion := r.stateVersion + 1 }
      else r }

/-- The next stage and the tables after one statement of a delivery. -/
def receiveStep (runtime : BillingRuntime) (order : ScanOrder) (input : StepInput)
    (db : BillingTables) (held : List Lock) (call : ReceiveCall) : BillingTables × ReceiveStage :=
  match call.stage with
  | .resolving =>
    match call.delivery.accepted.bind (resolveSubject runtime order db) with
    | some ⟨userId, some subscriptionId, _⟩ => (db, .recording (some (subscriptionId, userId)))
    | _ => (db, .recording none)
  | .recording bound =>
    if bound.any fun b => blocked held (.subscriptionKeyShare b.1) then (db, call.stage)
    else if db.events.any fun e => e.idempotencyKey = call.delivery.idempotencyKey then
      (db, afterRecord call.delivery bound)
    else if db.events.any fun e => e.id = input.id then (db, .refused .persistence_failed)
    else ({ db with events := db.events ++ [eventRow input.id call.delivery bound] },
      afterRecord call.delivery bound)
  | .owning subscriptionId userId code =>
    match rowsByCode db code with
    | [] => (db, .binding subscriptionId userId code)
    | [owner] =>
      (db, .received (if owner.id = subscriptionId then .already_bound else .conflict))
    | _ => (db, .received .conflict)
  | .binding subscriptionId userId code =>
    if db.subscriptions.any fun r => bindable r subscriptionId userId code then
      if blocked held (.subscriptionWrite subscriptionId) then (db, call.stage)
      -- another row holds the code: the unique index refuses
      else if (rowsByCode db code).isEmpty then
        (bindCode db subscriptionId userId code, .received .bound)
      else (db, .received .conflict)
    else (db, .rereading subscriptionId userId code)
  | .rereading subscriptionId userId code =>
    match db.subscriptions.find? fun r => r.id = subscriptionId && r.userId = userId &&
        r.provider = some .paystack with
    | none => (db, .received .conflict)
    | some row => (db, .received
        (if row.providerSubscriptionCode = some code then .already_bound else .conflict))
  | .received _ => (db, call.stage)
  | .refused _ => (db, call.stage)

end VeltrixEye.Billing
