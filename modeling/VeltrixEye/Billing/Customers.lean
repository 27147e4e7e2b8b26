import VeltrixEye.Billing.Tables

/-!
# Customer provisioning (`billing/customers.ts`)

`ensureCustomer` on any number of service instances.  A call reads the account email and the local
row, asks the provider, upserts one `billing_customers` row and, where the upsert wrote nothing,
reads the row again; each of these is one step, and every statement commits by itself.  Calls of one
user text on one instance share the pending call (`inflight`).

* `decideExistingBillingCustomer`, `usableProviderCustomerIdentity` — the pure decisions.
-/

namespace VeltrixEye.Billing

inductive BillingCustomerStatus where
  | unprovisioned
  | provisioned
  | suspended
  | unavailable
  deriving DecidableEq

/-- `BILLING_CUSTOMER_PROVISIONING_ERROR_REASONS`; the last two are no refusals of the service: a
    statement failed, or a stored row does not fit the result's contract. -/
inductive CustomerRefusal where
  | provider_not_registered
  | account_unavailable
  | customer_not_provisionable
  | customer_identity_incomplete
  | customer_identity_conflict
  | provider_unavailable
  | provider_response_unusable
  | database
  | contract
  deriving DecidableEq

/-- What the code under this model calls and does not define, beside `BillingRuntime`: the e-mail
    format of `z.string().email()` and the lower case of a text. -/
structure CustomerRuntime where
  billing : BillingRuntime
  emailShaped : String → Bool
  lower : String → String

/-! ## Rows and identities -/

/-- The columns of `billing_customers` the service reads and writes. -/
structure BillingCustomerRow where
  id : Uuid
  userId : Uuid
  email : String
  providerCustomerId : Option String
  providerCustomerCode : Option String
  status : BillingCustomerStatus
  provisionedAt : Option String

/-- `BillingCustomerIdentity`, as a provider returns it. -/
structure CustomerIdentity where
  id : String
  userId : String
  email : String
  providerCustomerId : Option String
  providerCustomerCode : Option String
  status : BillingCustomerStatus
  lastReference : Option String
  provisionedAt : Option String
  createdAt : String
  updatedAt : String

/-- An identity this build will persist. -/
structure UsableIdentity where
  email : String
  providerCustomerId : Option String
  providerCustomerCode : String
  deriving DecidableEq

/-- The email format of the contracts: at most 254 characters, in lower case. -/
def canonicalEmail (runtime : CustomerRuntime) (email : String) : Bool :=
  runtime.emailShaped email && email.toList.length ≤ 254 && email = runtime.lower email

/-- `accountEmailSchema`. -/
def accountEmail (runtime : CustomerRuntime) (user : Option UserRow) : Option String :=
  match user with
  | some row =>
    let email := runtime.lower (jsTrim row.email)
    if runtime.emailShaped email ∧ 3 ≤ email.toList.length ∧ email.toList.length ≤ 254 then
      some email
    else none
  | none => none

def isCheckoutReadyBillingCustomer (row : BillingCustomerRow) : Bool :=
  row.status = .provisioned && jsTrim row.email ≠ "" &&
    row.providerCustomerCode.any (fun code => jsTrim code ≠ "") && row.provisionedAt.isSome

inductive ExistingDecision where
  | ready
  | provision
  | refuse (reason : CustomerRefusal)

def decideExistingBillingCustomer (row : BillingCustomerRow) (accountEmail : String) :
    ExistingDecision :=
  match row.status with
  | .provisioned =>
    if isCheckoutReadyBillingCustomer row then .ready else .refuse .customer_identity_incomplete
  | .suspended => .refuse .customer_not_provisionable
  | .unavailable => .refuse .customer_not_provisionable
  | .unprovisioned =>
    if row.email = accountEmail then .provision else .refuse .customer_identity_conflict

/-- `PROVIDER_KEY_SHAPED_RE.test(value)`. -/
def providerKeyShaped (s : String) : Bool :=
  let text := (s.toList.dropWhile isJsSpace).map Char.toLower
  ["sk_test_", "sk_live_", "pk_test_", "pk_live_"].any fun key => key.toList.isPrefixOf text

/-- The trimming `billingCustomerIdentitySchema` does. -/
def CustomerIdentity.trimmed (v : CustomerIdentity) : CustomerIdentity :=
  { v with
    providerCustomerId := v.providerCustomerId.map jsTrim
    providerCustomerCode := v.providerCustomerCode.map jsTrim
    lastReference := v.lastReference.map jsTrim }

/-- `billingCustomerIdentitySchema`, on the trimmed identity. -/
def identityOk (runtime : CustomerRuntime) (v : CustomerIdentity) : Bool :=
  isGuid v.id && isGuid v.userId && canonicalEmail runtime v.email &&
    v.providerCustomerId.all (boundedText 128) && v.providerCustomerCode.all (boundedText 128) &&
    v.lastReference.all (boundedText 190) && v.provisionedAt.all runtime.billing.isoDateTime &&
    runtime.billing.isoDateTime v.createdAt && runtime.billing.isoDateTime v.updatedAt &&
    !(v.status = .provisioned && v.providerCustomerId = none && v.providerCustomerCode = none) &&
    !(v.status = .unprovisioned && v.provisionedAt.isSome)

/-- `usableProviderCustomerIdentity`; `none` is a value that is no identity object at all. -/
def usableProviderCustomerIdentity (runtime : CustomerRuntime) (identity : Option CustomerIdentity)
    (userId email : String) : Except CustomerRefusal UsableIdentity :=
  match identity.map CustomerIdentity.trimmed with
  | none => .error .provider_response_unusable
  | some value =>
    if !identityOk runtime value then .error .provider_response_unusable
    else
      match value.providerCustomerCode with
      | none => .error .provider_response_unusable
      | some code =>
        if value.userId ≠ userId ∨ value.status ≠ .provisioned ∨ providerKeyShaped code ∨
            value.providerCustomerId.any providerKeyShaped then
          .error .provider_response_unusable
        else if value.email ≠ email then .error .customer_identity_conflict
        else .ok ⟨value.email, value.providerCustomerId, code⟩

/-! ## The upsert -/

/-- Two rows carry the same provider identifier. -/
def BillingCustomerRow.sharesIdentity (a b : BillingCustomerRow) : Bool :=
  (a.providerCustomerId.isSome && a.providerCustomerId = b.providerCustomerId) ||
    (a.providerCustomerCode.isSome && a.providerCustomerCode = b.providerCustomerCode)

/-- The CHECKs of the table. -/
def BillingCustomerRow.checks (runtime : CustomerRuntime) (r : BillingCustomerRow) : Bool :=
  r.email = runtime.lower r.email && 3 ≤ r.email.toList.length && r.email.toList.length ≤ 254 &&
    r.providerCustomerId.all (fun s => 1 ≤ s.toList.length && s.toList.length ≤ 128) &&
    r.providerCustomerCode.all (fun s => 1 ≤ s.toList.length && s.toList.length ≤ 128) &&
    !(r.status = .provisioned && r.providerCustomerId = none && r.providerCustomerCode = none) &&
    !(r.provisionedAt.isSome && r.status = .unprovisioned)

inductive UpsertReply where
  | written (row : BillingCustomerRow)
  | nothing
  /-- A violation of one of the two provider-identity indexes. -/
  | identityConflict
  | failed

/-- `INSERT … ON CONFLICT (provider, user_id) DO UPDATE … WHERE status = 'unprovisioned' AND email =
    EXCLUDED.email`.  `raced`: the user's own row was inserted while the statement ran, and the
    identity index noticed it before the arbiter index did. -/
def upsertCustomer (runtime : CustomerRuntime) (users : List UserRow)
    (rows : List BillingCustomerRow) (row : BillingCustomerRow) (raced : Bool) :
    List BillingCustomerRow × UpsertReply :=
  let taken := rows.any fun c => c.userId ≠ row.userId && c.sharesIdentity row
  if !row.checks runtime then (rows, .failed)
  else
    match rows.find? fun c => c.userId = row.userId with
    | some own =>
      if raced && own.sharesIdentity row then (rows, .identityConflict)
      else if own.status = .unprovisioned ∧ own.email = row.email then
        if taken then (rows, .identityConflict)
        else
          let next := { row with id := own.id }
          (rows.map fun c => if c.userId = row.userId then next else c, .written next)
      else (rows, .nothing)
    | none =>
      if taken then (rows, .identityConflict)
      else if !(users.any fun u => u.id = row.userId) || rows.any (fun c => c.id = row.id) then
        (rows, .failed)
      else (rows ++ [row], .written row)

/-! ## A call -/

inductive ProvisioningOutcome where
  | already_provisioned
  | created
  | linked
  deriving DecidableEq

/-- `BillingCustomerProvisioningResult`, less its literal members. -/
structure ProvisioningResult where
  outcome : ProvisioningOutcome
  email : String
  provisionedAt : String
  deriving DecidableEq

inductive ProvisionStage where
  | starting
  | reading (email : String)
  /-- `findCustomer` is about to be called. -/
  | finding (email : String)
  /-- The provider has no customer; `createCustomer` is about to be called. -/
  | creating (email : String)
  | persisting (identity : UsableIdentity) (outcome : ProvisioningOutcome)
  | rereading (identity : UsableIdentity) (identityConflict : Bool)
  | resolved (result : ProvisioningResult)
  | rejected (reason : CustomerRefusal)
  /-- The call shares the pending call with this number. -/
  | joined (call : ℕ)
  deriving DecidableEq

/-- A call for the user that the text `user` spells. -/
structure CustomerCall where
  user : String
  userId : Uuid
  stage : ProvisionStage
  deriving DecidableEq

/-- What a provider call comes back with. -/
inductive ProviderAnswer where
  | failed
  | noCustomer
  | value (identity : Option CustomerIdentity)

/-- What a step takes from outside. -/
structure ProvisionInput where
  registered : Bool
  answer : ProviderAnswer
  newId : Uuid
  now : String
  raced : Bool

/-- `result(row, outcome)`. -/
def provisioningResult (runtime : CustomerRuntime) (row : BillingCustomerRow)
    (outcome : ProvisioningOutcome) : ProvisionStage :=
  match row.provisionedAt with
  | some provisionedAt =>
    if canonicalEmail runtime row.email && runtime.billing.isoDateTime provisionedAt then
      .resolved ⟨outcome, row.email, provisionedAt⟩
    else .rejected .contract
  | none => .rejected .contract

/-- The stage after the provider's value was validated. -/
def afterProvider (runtime : CustomerRuntime) (identity : Option CustomerIdentity)
    (user email : String) (outcome : ProvisioningOutcome) : ProvisionStage :=
  match usableProviderCustomerIdentity runtime identity user email with
  | .ok usable => .persisting usable outcome
  | .error reason => .rejected reason

/-- The row `persist` presents to the table. -/
def presentedRow (runtime : CustomerRuntime) (userId : Uuid) (identity : UsableIdentity)
    (input : ProvisionInput) : BillingCustomerRow where
  id := input.newId
  userId := userId
  email := identity.email
  providerCustomerId := identity.providerCustomerId
  providerCustomerCode := some identity.providerCustomerCode
  status := .provisioned
  provisionedAt := some (runtime.billing.storedInstant input.now)

def findLocalCustomer (rows : List BillingCustomerRow) (userId : Uuid) : Option BillingCustomerRow :=
  rows.find? fun c => c.userId = userId

/-- The end of `persist`: nothing of this call landed, and `current` is the row that did. -/
def reportWinner (runtime : CustomerRuntime) (current : Option BillingCustomerRow)
    (identity : UsableIdentity) (identityConflict : Bool) : ProvisionStage :=
  match current with
  | some row =>
    if isCheckoutReadyBillingCustomer row then provisioningResult runtime row .already_provisioned
    else if identityConflict then .rejected .customer_identity_conflict
    else
      match decideExistingBillingCustomer row identity.email with
      | .refuse reason => .rejected reason
      | _ => .rejected .customer_identity_conflict
  | none => .rejected .customer_identity_conflict

/-- The rows and the stage after the next step of a call. -/
def provisionStep (runtime : CustomerRuntime) (input : ProvisionInput) (users : List UserRow)
    (rows : List BillingCustomerRow) (call : CustomerCall) :
    List BillingCustomerRow × ProvisionStage :=
  match call.stage with
  | .starting =>
    match accountEmail runtime (users.find? fun u => u.id = call.userId) with
    | some email => (rows, .reading email)
    | none => (rows, .rejected .account_unavailable)
  | .reading email =>
    match findLocalCustomer rows call.userId with
    | some row =>
      match decideExistingBillingCustomer row email with
      | .ready => (rows, provisioningResult runtime row .already_provisioned)
      | .provision => (rows, .finding email)
      | .refuse reason => (rows, .rejected reason)
    | none => (rows, .finding email)
  | .finding email =>
    if !input.registered then (rows, .rejected .provider_not_registered)
    else
      match input.answer with
      | .failed => (rows, .rejected .provider_unavailable)
      | .noCustomer => (rows, .creating email)
      | .value identity => (rows, afterProvider runtime identity call.user email .linked)
  | .creating email =>
    match input.answer with
    | .failed => (rows, .rejected .provider_unavailable)
    | .noCustomer => (rows, afterProvider runtime none call.user email .created)
    | .value identity => (rows, afterProvider runtime identity call.user email .created)
  | .persisting identity outcome =>
    let r := upsertCustomer runtime users rows (presentedRow runtime call.userId identity input)
      input.raced
    match r.2 with
    | .written row => (r.1, provisioningResult runtime row outcome)
    | .nothing => (r.1, .rereading identity false)
    | .identityConflict => (r.1, .rereading identity true)
    | .failed => (r.1, .rejected .database)
  | .rereading identity identityConflict =>
    (rows, reportWinner runtime (findLocalCustomer rows call.userId) identity identityConflict)
  | .resolved result => (rows, .resolved result)
  | .rejected reason => (rows, .rejected reason)
  | .joined w => (rows, .joined w)

def ProvisionStage.settled : ProvisionStage → Bool
  | .resolved _ => true
  | .rejected _ => true
  | _ => false

/-- The stage after a statement of the call failed. -/
def ProvisionStage.afterFailure : ProvisionStage → ProvisionStage
  | .resolved result => .resolved result
  | .rejected reason => .rejected reason
  | .joined w => .joined w
  | _ => .rejected .database

/-! ## The instances -/

/-- An entry of an instance's `inflight` map: the pending call of a user text. -/
structure InflightEntry where
  serviceInstance : ℕ
  user : String
  call : ℕ

structure CustomerSystem where
  users : List UserRow
  customers : List BillingCustomerRow
  inflight : List InflightEntry
  calls : List CustomerCall

inductive CustomerAction where
  | ensureCustomer (serviceInstance : ℕ) (user : String)
  | advance (w : ℕ) (input : ProvisionInput)
  /-- A statement of the call fails before it has an effect. -/
  | fail (w : ℕ)
  /-- The `finally` of a settled call. -/
  | release (serviceInstance : ℕ) (user : String)

/-- The user a text spells, where `z.string().guid()` accepts it. -/
def callerId (user : String) : Option Uuid :=
  if isGuid user then Uuid.ofText? user else none

namespace CustomerSystem

variable (s : CustomerSystem)

/-- `inflight.get(user)` on one instance. -/
def pending (serviceInstance : ℕ) (user : String) : Option InflightEntry :=
  s.inflight.find? fun e => e.serviceInstance = serviceInstance ∧ e.user = user

/-- A new call: it joins the pending one of its user and instance, or becomes it. -/
def ensure (serviceInstance : ℕ) (user : String) (userId : Uuid) : CustomerSystem :=
  match s.pending serviceInstance user with
  | some e => { s with calls := s.calls ++ [⟨user, userId, .joined e.call⟩] }
  | none => { s with
      calls := s.calls ++ [⟨user, userId, .starting⟩]
      inflight := s.inflight ++ [⟨serviceInstance, user, s.calls.length⟩] }

/-- The stage a call stands at; a joined call stands where the call it shares does. -/
def stageOf (w : ℕ) : Option ProvisionStage :=
  match s.calls[w]? with
  | some call =>
    match call.stage with
    | .joined leader => (s.calls[leader]?).map CustomerCall.stage
    | stage => some stage
  | none => none

end CustomerSystem

/-- One step of the system. -/
def customerStep (runtime : CustomerRuntime) (s : CustomerSystem) : CustomerAction → CustomerSystem
  | .ensureCustomer serviceInstance user =>
    match callerId user with
    | some userId => s.ensure serviceInstance user userId
    | none => s
  | .advance w input =>
    match s.calls[w]? with
    | some call =>
      let r := provisionStep runtime input s.users s.customers call
      { s with customers := r.1, calls := s.calls.set w { call with stage := r.2 } }
    | none => s
  | .fail w =>
    match s.calls[w]? with
    | some call => { s with calls := s.calls.set w { call with stage := call.stage.afterFailure } }
    | none => s
  | .release serviceInstance user =>
    match s.pending serviceInstance user with
    | some e =>
      if (s.calls[e.call]?).any fun call => call.stage.settled then
        { s with inflight := s.inflight.filter fun e' =>
          !(e'.serviceInstance = serviceInstance && e'.user = user) }
      else s
    | none => s

end VeltrixEye.Billing
