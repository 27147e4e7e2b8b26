import VeltrixEye.Lib.Runs
import VeltrixEye.Mutations.Tables

/-!
# The operations of `ProviderMutationLedger` (`execution/provider-mutations.ts`)

Each database transaction is a function of the tables: it returns the tables it commits, or the error
it was rolled back with.  An operation of several transactions, or of reads before a transaction, is
given piece by piece in the order the source runs it; `Mutations.System` interleaves the pieces.
Identifiers arrive as texts and are converted to `uuid` by the database.

* `authorizeIntent_ok`, `supersedeParent_ok`, `transitionIntent_ok`, `consumeSubmitBarrier_ok` — what
  each committed transaction did to the intents and the reservations.
-/

namespace VeltrixEye

/-! ## Errors -/

inductive ProviderMutationErrorCode where
  | invalidMutationIdentity
  | invalidBinding
  | duplicateMutation
  | preCallPersistenceFailed
  | barrierNotConsumable
  | intentNotFound
  | intentOwnershipMismatch
  | concurrentStateChange
  | uncertaintyUnresolved
  | retryIdentityReuse
  | retryRequiresFreshAuthorization
  | operatorEvidenceRequired
  | resolutionRequiresUnresolvedIntent
  | invalidObservation
  | unresolvedOrderMutation
  | parentAlreadySuperseded
  | staleParentIntent
  | bindingMismatch
  deriving DecidableEq

/-- What an operation throws: a `ProviderMutationError`, or an error of the database. -/
inductive MutationError where
  | mutation (code : ProviderMutationErrorCode) (message : String)
  | database (e : DbError)
  deriving DecidableEq

/-- A statement inside a transaction. -/
def liftDb {α : Type} : Except DbError α → Except MutationError α
  | .ok v => .ok v
  | .error e => .error (.database e)

@[simp] theorem liftDb_eq_ok {α : Type} {x : Except DbError α} {v : α} :
    liftDb x = .ok v ↔ x = .ok v := by
  cases x <;> simp [liftDb]

/-! ## Inputs -/

/-- What the ledger takes from outside the repository: the SHA-256 (in hexadecimal) of the canonical
text of a request, and the conversion of a text to `numeric(24, 10)`. -/
structure MutationEnv where
  digest : JsValue → String
  numericIn : String → Option JsNumber

structure SubmitIntentInput where
  userId : String
  executionProfileId : String
  orderId : Option String
  clientOrderId : String
  idempotencyKey : String
  canonicalRequest : JsValue
  providerSlug : String
  environment : ProviderEnvironment
  accountRef : Option String
  brokerServerRef : Option String
  credentialRef : Option String
  credentialFingerprint : Option String
  riskDecisionId : Option String
  riskReservationId : Option String
  symbol : Option String
  direction : Option MutationDirection
  monetaryRisk : Option String
  riskExpiresAt : Option ℤ

/-- `RetryIntentInput`: `riskDecisionId` of the base is not read. -/
structure RetryIntentInput where
  base : SubmitIntentInput
  parentIntentId : String
  riskDecisionId : String
  authorizationId : String

structure SubmitBarrier where
  intentId : String
  clientOrderId : String
  idempotencyKey : String
  requestHash : String
  attempt : JsNumber
  stateVersion : JsNumber
  userId : String
  executionProfileId : String
  providerSlug : String
  environment : String
  accountRef : Option String
  deriving DecidableEq

/-- The identity that `assertSubmitIdentity` returns. -/
structure SubmitIdentity where
  clientOrderId : String
  idempotencyKey : String
  requestHash : String
  deriving DecidableEq

/-- `canonicalMutationRequestHash`, `none` where it throws. -/
def canonicalMutationRequestHash (env : MutationEnv) (request : JsValue) : Option String :=
  match request with
  | .object fields => if anyForbiddenField fields then none else some (env.digest request)
  | _ => none

def isLowerHex (c : Char) : Bool := ('0' ≤ c && c ≤ '9') || ('a' ≤ c && c ≤ 'f')

/-- `CLIENT_ORDER_ID_RETRY` after the prefix: 20 digits, `-r` and a counter of 1 to 9 digits. -/
def isRetryForm (body : List Char) : Bool :=
  (body.take 20).length == 20 && (body.take 20).all isLowerHex &&
    match body.drop 20 with
    | '-' :: 'r' :: d :: rest =>
      '1' ≤ d && d ≤ '9' && rest.length ≤ 8 && rest.all (·.isDigit)
    | _ => false

/-- `validateBridgeClientOrderId(raw).code`. -/
def validateBridgeClientOrderId (raw : String) : String :=
  if 64 < jsLength raw then "client_order_id_too_long"
  else if !raw.startsWith "ve-" then "client_order_id_prefix_invalid"
  else
    let body := raw.toList.drop 3
    if body.length == 24 && body.all isLowerHex then "ok"
    else if isRetryForm body then "ok"
    else if body.tails.any (['-', 'r'].isPrefixOf ·) then "client_order_id_retry_form_invalid"
    else "client_order_id_hash_invalid"

def assertSubmitIdentity (env : MutationEnv) (input : SubmitIntentInput) :
    Except MutationError SubmitIdentity :=
  let code := validateBridgeClientOrderId input.clientOrderId
  if code != "ok" then
    .error (.mutation .invalidMutationIdentity s!"Client order identity rejected ({code})")
  else if !isHex64 input.idempotencyKey then
    .error (.mutation .invalidMutationIdentity
      "Idempotency identity must be a 64-hex sha-256 key")
  else
    match canonicalMutationRequestHash env
        (.object [("clientOrderId", .string input.clientOrderId),
          ("idempotencyKey", .string input.idempotencyKey),
          ("canonicalRequest", input.canonicalRequest.orEmptyObject)]) with
    | some requestHash => .ok ⟨input.clientOrderId, input.idempotencyKey, requestHash⟩
    | none =>
      .error (.mutation .invalidMutationIdentity "Canonical request identity refused")

/-- `assertBinding`: the reference fields are absent or bounded texts. -/
def assertBinding (input : SubmitIntentInput) : Except MutationError Unit :=
  if input.credentialRef.all (boundedText · 128) && input.credentialFingerprint.all isHex64 &&
      input.accountRef.all (boundedText · 128) && input.brokerServerRef.all (boundedText · 128) then
    .ok ()
  else .error (.mutation .invalidBinding "Provider binding rejected before persistence")

/-- A nullable `uuid` parameter. -/
def uuidParam : Option String → Except MutationError (Option Uuid)
  | none => .ok none
  | some s =>
    match Uuid.ofText? s with
    | some u => .ok (some u)
    | none => .error (.database .failed)

/-- A `uuid` parameter. -/
def requiredUuid (s : String) : Except MutationError Uuid :=
  match Uuid.ofText? s with
  | some u => .ok u
  | none => .error (.database .failed)

/-- An `integer` parameter: the decimal text of a JavaScript number. -/
def int4In : JsNumber → Option ℤ
  | .fin q => if q.den = 1 ∧ -2 ^ 31 ≤ q.num ∧ q.num < 2 ^ 31 then some q.num else none
  | _ => none

/-- The values the database and the process choose during one step: new ids, `now()`, `new Date()`
and the rows read from tables outside the ledger. -/
structure StepValues where
  intentId : Uuid
  rowId : Uuid
  now : ℤ
  /-- `SELECT user_id, execution_profile_id FROM risk_decisions WHERE id = $1`. -/
  riskDecision : Option (Uuid × Option Uuid)

/-! ## Reads -/

/-- `ORDER BY created_at ASC LIMIT 1`. -/
def firstCreated (rows : List IntentRow) : Option IntentRow :=
  rows.foldl (fun best r =>
    match best with
    | none => some r
    | some b => if r.createdAt < b.createdAt then some r else some b) none

/-- `ORDER BY created_at DESC LIMIT 1`. -/
def lastCreated (rows : List IntentRow) : Option IntentRow :=
  rows.foldl (fun best r =>
    match best with
    | none => some r
    | some b => if b.createdAt < r.createdAt then some r else some b) none

/-- `findByIdentityIn` and `resolveByIdentity`. -/
def findByIdentity (db : MutationDb) (profile : Uuid) (identity : SubmitIdentity) : Option IntentRow :=
  firstCreated (db.intents.filter fun r =>
    r.executionProfileId == profile &&
      (r.clientOrderId == identity.clientOrderId || r.idempotencyKey == identity.idempotencyKey ||
        r.requestHash == identity.requestHash))

def findLiveOrderMutation (db : MutationDb) (profile orderId : Uuid) : Option IntentRow :=
  lastCreated (db.intents.filter fun r =>
    r.executionProfileId == profile && r.orderId == some orderId && r.live)

def ProviderIntentState.text : ProviderIntentState → String
  | .prepared => "prepared"
  | .submitting => "submitting"
  | .confirmed => "confirmed"
  | .rejected => "rejected"
  | .uncertain => "uncertain"
  | .reconciled => "reconciled"

def liveOrderMutationError (live : IntentRow) : MutationError :=
  if live.status.unresolved then
    .mutation .unresolvedOrderMutation
      s!"An unresolved provider mutation (attempt {live.attempt}, status {live.status.text}) already exists for this managed order; it must be resolved through reconciliation or operator resolution before another mutation is permitted"
  else
    .mutation .duplicateMutation
      s!"The provider already accepted a submit mutation for this managed order (attempt {live.attempt}); another order after confirmation needs a distinct logical order identity"

/-- `assertOrderAcceptsNewMutationIn`, made only for a managed order. -/
def assertOrderAcceptsNewMutation (db : MutationDb) (profile : Uuid) (orderId : Option Uuid) :
    Except MutationError Unit :=
  match orderId with
  | none => .ok ()
  | some o =>
    match findLiveOrderMutation db profile o with
    | some live => .error (liveOrderMutationError live)
    | none => .ok ()

def getIntentByText (db : MutationDb) (intentId : String) : Except MutationError (Option IntentRow) := do
  let id ← requiredUuid intentId
  return db.getIntent id

def requireIntent (db : MutationDb) (intentId userId executionProfileId : String) :
    Except MutationError IntentRow := do
  match ← getIntentByText db intentId with
  | none => throw (.mutation .intentNotFound "Mutation intent not found")
  | some intent =>
    if intent.userId.text ≠ userId ∨ intent.executionProfileId.text ≠ executionProfileId then
      throw (.mutation .intentOwnershipMismatch "Mutation intent belongs to another account")
    return intent

/-- `listUnresolved`, in the order of creation. -/
def listUnresolved (db : MutationDb) (profile : Option Uuid) : List IntentRow :=
  (db.intents.filter fun r =>
    r.status.unresolved && profile.all (fun p => r.executionProfileId == p)).insertionSort
    (fun a b => a.createdAt ≤ b.createdAt)

/-- The open reservations of a profile, in the order of creation. -/
def openReservations (db : MutationDb) (profile : Uuid) : List MutationReservationRow :=
  (db.reservations.filter fun r =>
    r.executionProfileId == profile && (r.state == .reserved || r.state == .uncertain)).insertionSort
    (fun a b => a.createdAt ≤ b.createdAt)

/-- What `unresolvedMutationExposure` returns. -/
structure MutationExposure where
  count : ℕ
  monetaryRisk : JsNumber
  clientOrderIds : List String
  intents : List (Uuid × String × ProviderReservationState)

/-- `unresolvedMutationExposure`; the sum is the database's. -/
def unresolvedMutationExposure (db : MutationDb) (profile : Uuid) : MutationExposure :=
  let rows := openReservations db profile
  { count := rows.length
    monetaryRisk := (rows.map (·.monetaryRisk)).foldl JsNumber.add 0
    clientOrderIds := rows.map (·.clientOrderId)
    intents := rows.map fun r => (r.intentId, r.clientOrderId, r.state) }

/-- `getReceipt`: `ORDER BY observed_at DESC LIMIT 1`. -/
def getReceipt (db : MutationDb) (intentId : Uuid) : Option ProviderReceiptRow :=
  (db.receipts.filter fun r => r.intentId == intentId).foldl (fun best r =>
    match best with
    | none => some r
    | some b => if b.observedAt < r.observedAt then some r else some b) none

/-! ## `prepareSubmit` -/

/-- The `uuid` parameters of an input. -/
structure SubmitIds where
  userId : Uuid
  executionProfileId : Uuid
  orderId : Option Uuid
  riskDecisionId : Option Uuid
  riskReservationId : Option Uuid

def submitIds (input : SubmitIntentInput) : Except MutationError SubmitIds := do
  let userId ← requiredUuid input.userId
  let executionProfileId ← requiredUuid input.executionProfileId
  let orderId ← uuidParam input.orderId
  let riskDecisionId ← uuidParam input.riskDecisionId
  let riskReservationId ← uuidParam input.riskReservationId
  return { userId, executionProfileId, orderId, riskDecisionId, riskReservationId }

/-- The row a preparation inserts, `prepared`. -/
def preparedIntent (input : SubmitIntentInput) (identity : SubmitIdentity) (ids : SubmitIds)
    (parent : Option IntentRow) (values : StepValues) : IntentRow where
  id := values.intentId
  userId := ids.userId
  executionProfileId := ids.executionProfileId
  orderId := ids.orderId
  clientOrderId := identity.clientOrderId
  idempotencyKey := identity.idempotencyKey
  requestHash := identity.requestHash
  providerSlug := input.providerSlug
  environment := input.environment
  accountRef := input.accountRef
  brokerServerRef := input.brokerServerRef
  credentialRef := input.credentialRef
  credentialFingerprint := input.credentialFingerprint
  status := .prepared
  outcome := none
  uncertaintyReason := none
  terminalEvidence := none
  resolution := none
  parentIntentId := parent.map (·.id)
  rootIntentId := parent.map (·.lineage)
  supersededByIntentId := none
  attempt := parent.elim 1 (·.attempt + 1)
  reconciliationRequired := false
  reconciliationState := .notRequired
  riskDecisionId := ids.riskDecisionId
  stateVersion := 1
  resolvedAt := none
  createdAt := values.now

/-- The reservation a preparation inserts. -/
def preparedReservation (input : SubmitIntentInput) (intent : IntentRow) (ids : SubmitIds)
    (monetaryRisk : JsNumber) (values : StepValues) : MutationReservationRow where
  id := values.rowId
  intentId := intent.id
  userId := intent.userId
  executionProfileId := intent.executionProfileId
  orderId := intent.orderId
  riskDecisionId := intent.riskDecisionId
  riskReservationId := ids.riskReservationId
  clientOrderId := intent.clientOrderId
  idempotencyKey := intent.idempotencyKey
  symbol := input.symbol
  direction := input.direction
  monetaryRisk
  state := .reserved
  requiresReconciliation := false
  riskExpiresAt := input.riskExpiresAt
  version := 1
  createdAt := values.now

/-- An event of the ledger itself. -/
def mutationEvent (intent : IntentRow) (fromState : Option ProviderIntentState)
    (toState : ProviderIntentState) (authorizationId : Option String)
    (consumed : Option ℕ) : MutationEventRow where
  intentId := intent.id
  executionProfileId := intent.executionProfileId
  attempt := intent.attempt
  fromState
  toState
  outcome := none
  evidence := none
  uncertaintyReason := none
  actor := "system:mutation-ledger"
  authorizationId
  consumedFromStateVersion := consumed

/-- The writes that a submit and a retry share: the intent, its authorization, its reservation. -/
def authorizeIntent (env : MutationEnv) (input : SubmitIntentInput) (ids : SubmitIds)
    (prepared : IntentRow) (values : StepValues) (db : MutationDb) :
    Except MutationError (MutationDb × IntentRow) := do
  let inserted ← liftDb (insertIntent db.intents prepared)
  match ← liftDb (updateIntent inserted prepared.id
      (fun r => r.status == .prepared && r.stateVersion == prepared.stateVersion)
      (fun r => { r with status := .submitting })) with
  | (_, none) =>
    let kind := if prepared.parentIntentId.isNone then "Submit" else "Retry"
    throw (.mutation .concurrentStateChange
      s!"{kind} intent changed while authorizing the submission")
  | (intents, some intent) =>
    match env.numericIn (input.monetaryRisk.getD "0") with
    | none => throw (.database .failed)
    | some monetaryRisk =>
      let reservations ← liftDb (insertReservationRow db.reservations
        (preparedReservation input intent ids monetaryRisk values))
      return ({ db with intents, reservations }, intent)

/-- The barrier of an authorized intent; the ids are the caller's texts. -/
def submitBarrier (input : SubmitIntentInput) (intent : IntentRow) : SubmitBarrier where
  intentId := intent.id.text
  clientOrderId := intent.clientOrderId
  idempotencyKey := intent.idempotencyKey
  requestHash := intent.requestHash
  attempt := .fin intent.attempt
  stateVersion := .fin intent.stateVersion
  userId := input.userId
  executionProfileId := input.executionProfileId
  providerSlug := input.providerSlug
  environment := input.environment.text
  accountRef := input.accountRef

/-- The reads of `prepareSubmit` under its locks: a duplicate, or nothing in the way. -/
def prepareSubmitReads (input : SubmitIntentInput) (identity : SubmitIdentity) (db : MutationDb) :
    Except MutationError (Option IntentRow) := do
  let ids ← submitIds input
  match findByIdentity db ids.executionProfileId identity with
  | some existing => return some existing
  | none =>
    assertOrderAcceptsNewMutation db ids.executionProfileId ids.orderId
    return none

/-- The writes of `prepareSubmit`, up to its COMMIT. -/
def prepareSubmitWrites (env : MutationEnv) (input : SubmitIntentInput) (identity : SubmitIdentity)
    (values : StepValues) (db : MutationDb) : Except MutationError (MutationDb × SubmitBarrier) := do
  let ids ← submitIds input
  let (db, intent) ← authorizeIntent env input ids
    (preparedIntent input identity ids none values) values db
  return ({ db with events := db.events ++
    [mutationEvent intent none .prepared none none,
      mutationEvent intent (some .prepared) .submitting none none] }, submitBarrier input intent)

/-- What a failed preparation reports, from the tables after its ROLLBACK. -/
def preparationError (db : MutationDb) (profile : Option Uuid) (orderId : Option Uuid)
    (identity : SubmitIdentity) (message : String) (e : MutationError) :
    Except MutationError IntentRow :=
  match e with
  | .mutation code text => .error (.mutation code text)
  | .database e =>
    let other : Except MutationError IntentRow :=
      match profile.bind (findByIdentity db · identity) with
      | some existing => .ok existing
      | none => .error (.mutation .preCallPersistenceFailed message)
    match e, profile, orderId with
    | .unique constraint, some p, some o =>
      if constraint = IntentIndex.orderLive.name then
        match findLiveOrderMutation db p o with
        | some live => .error (liveOrderMutationError live)
        | none => .error (.mutation .unresolvedOrderMutation
            "Another provider mutation for this managed order was committed concurrently; no provider call is permitted")
      else other
    | .unique _, _, _ => other
    | _, _, _ => .error (.mutation .preCallPersistenceFailed message)

/-! ## `consumeSubmitBarrier` -/

/-- The converted parameters of the consumption. -/
structure BarrierParams where
  intentId : Uuid
  stateVersion : ℤ
  userId : Uuid
  executionProfileId : Uuid
  attempt : ℤ

/-- Every parameter is converted before a row is looked at. -/
def SubmitBarrier.params (b : SubmitBarrier) : Option BarrierParams := do
  let intentId ← Uuid.ofText? b.intentId
  let stateVersion ← int4In b.stateVersion
  let userId ← Uuid.ofText? b.userId
  let executionProfileId ← Uuid.ofText? b.executionProfileId
  let attempt ← int4In b.attempt
  guard (storable b.clientOrderId && storable b.idempotencyKey && storable b.requestHash &&
    storable b.providerSlug && storable b.environment && b.accountRef.all storable)
  return { intentId, stateVersion, userId, executionProfileId, attempt }

/-- The WHERE clause of the consumption, `id = $1` apart. -/
def SubmitBarrier.claims (b : SubmitBarrier) (p : BarrierParams) (r : IntentRow) : Bool :=
  r.status == .submitting && (r.stateVersion : ℤ) == p.stateVersion && r.userId == p.userId &&
    r.executionProfileId == p.executionProfileId && r.clientOrderId == b.clientOrderId &&
    r.idempotencyKey == b.idempotencyKey && (r.attempt : ℤ) == p.attempt &&
    r.requestHash == b.requestHash && r.providerSlug == b.providerSlug &&
    r.environment.text == b.environment && r.accountRef == b.accountRef

def consumeSubmitBarrier (b : SubmitBarrier) (db : MutationDb) : Except MutationError MutationDb :=
  let persistenceFailed : MutationError := .mutation .preCallPersistenceFailed
    "Durable barrier consumption failed; no provider call is permitted"
  match b.params with
  | none => .error persistenceFailed
  | some p =>
    match updateIntent db.intents p.intentId (b.claims p) id with
    | .error _ => .error persistenceFailed
    | .ok (_, none) =>
      .error (.mutation .barrierNotConsumable
        "The submit barrier could not be consumed: it was already used, superseded, or never matched durable state; no provider call is permitted")
    | .ok (intents, some intent) =>
      .ok { db with
        intents
        events := db.events ++ [mutationEvent intent (some .submitting) .submitting none
          (some (intent.stateVersion - 1))] }

/-! ## `prepareRetry` -/

/-- The whitespace that `String.prototype.trim` removes. -/
def isJsWhitespace (c : Char) : Bool :=
  [0x9, 0xA, 0xB, 0xC, 0xD, 0x20, 0xA0, 0x1680, 0x2028, 0x2029, 0x202F, 0x205F, 0x3000,
    0xFEFF].contains c.toNat || (0x2000 ≤ c.toNat && c.toNat ≤ 0x200A)

/-- `!value?.trim()`. -/
def isBlank (s : String) : Bool := s.toList.all isJsWhitespace

/-- `UUID_RE`. -/
def isUuidText (s : String) : Bool :=
  s.toList.length == 36 && s.toList.zipIdx.all fun (c, i) =>
    if i = 8 ∨ i = 13 ∨ i = 18 ∨ i = 23 then c == '-' else (hexDigit? c).isSome

def assertIntentOwnership (intent : IntentRow) (userId executionProfileId : String) :
    Except MutationError Unit :=
  if intent.userId.text ≠ userId ∨ intent.executionProfileId.text ≠ executionProfileId then
    .error (.mutation .intentOwnershipMismatch "Original mutation intent belongs to another account")
  else .ok ()

/-- The preliminary read, made outside the transaction: the root of the lineage. -/
def retryLocate (input : RetryIntentInput) (db : MutationDb) : Except MutationError Uuid := do
  match ← getIntentByText db input.parentIntentId with
  | none => throw (.mutation .intentNotFound "Original mutation intent not found")
  | some preliminary =>
    assertIntentOwnership preliminary input.base.userId input.base.executionProfileId
    return preliminary.lineage

/-- The parent re-read under the lineage lock. -/
def retryParent (input : RetryIntentInput) (root : Uuid) (db : MutationDb) :
    Except MutationError IntentRow := do
  match ← getIntentByText db input.parentIntentId with
  | none => throw (.mutation .intentNotFound "Original mutation intent not found")
  | some parent =>
    assertIntentOwnership parent input.base.userId input.base.executionProfileId
    if parent.lineage ≠ root then
      throw (.mutation .concurrentStateChange
        "Original mutation intent changed lineage while the retry was being prepared")
    return parent

/-- The retry continues its parent's managed order unless the caller names one. -/
def retryOrderText (input : RetryIntentInput) (parent : IntentRow) : Option String :=
  input.base.orderId <|> parent.orderId.map (·.text)

/-- What the retry is prepared from: its order is the inherited one, its decision the fresh one. -/
def retryBase (input : RetryIntentInput) (parent : IntentRow) : SubmitIntentInput :=
  { input.base with
    orderId := retryOrderText input parent
    riskDecisionId := some input.riskDecisionId }

/-- The checks up to the identity lookup: a duplicate, or nothing in the way. -/
def retryIdentityReads (input : RetryIntentInput) (identity : SubmitIdentity) (parent : IntentRow)
    (db : MutationDb) : Except MutationError (Option IntentRow) := do
  if parent.status.unresolved then
    throw (.mutation .uncertaintyUnresolved
      "The original mutation is unresolved; a retry requires resolution through verified reconciliation or authorized operator resolution")
  if input.base.clientOrderId = parent.clientOrderId ∨
      input.base.idempotencyKey = parent.idempotencyKey then
    throw (.mutation .retryIdentityReuse "A retry must carry a new mutation identity")
  if isBlank input.riskDecisionId || isBlank input.authorizationId then
    throw (.mutation .retryRequiresFreshAuthorization
      "A retry requires a fresh risk decision and execution authorization")
  let profile ← requiredUuid input.base.executionProfileId
  return findByIdentity db profile identity

/-- `lineageMembersIn`, oldest attempt first. -/
def lineageMembers (db : MutationDb) (root : Uuid) : List IntentRow :=
  (db.intents.filter fun r => r.id == root || r.rootIntentId == some root).insertionSort
    fun a b => a.attempt < b.attempt ∨ (a.attempt = b.attempt ∧ a.createdAt ≤ b.createdAt)

/-- `lineage.reduce(...)`: the first member with the greatest attempt. -/
def newestMember (members : List IntentRow) : Option IntentRow :=
  members.foldl (fun best r =>
    match best with
    | none => some r
    | some b => if b.attempt < r.attempt then some r else some b) none

/-- The retry continues the newest attempt, which no other retry continues. -/
def assertCurrentParent (parent : IntentRow) (members : List IntentRow) : Except MutationError Unit :=
  if parent.supersededByIntentId.isSome then
    .error (.mutation .parentAlreadySuperseded
      "The original mutation intent was already superseded by a retry; a parent intent may have at most one retry")
  else if (newestMember members).all (fun r => r.id != parent.id) then
    let attempt := (newestMember members).elim "?" fun r => toString r.attempt
    .error (.mutation .staleParentIntent
      s!"The original mutation intent is not the newest attempt of its lineage (newest attempt {attempt}); a retry must continue the current lineage member")
  else .ok ()

/-- An accepted parent is never retried, and only a rejected or absent one is. -/
def assertEligibleParent (parent : IntentRow) : Except MutationError Unit :=
  if parent.providerAccepted then
    .error (.mutation .duplicateMutation
      "The original mutation was accepted by the provider; Gate 9 never retries a confirmed or provider-accepted intent — another order after confirmation needs a distinct logical order identity")
  else if !parent.retryEligible then
    .error (.mutation .uncertaintyUnresolved
      "The original mutation is not resolved as rejected or absent; it cannot be retried")
  else .ok ()

/-- The retry keeps the binding and the managed order of its parent. -/
def assertRetryBinding (input : RetryIntentInput) (parent : IntentRow) : Except MutationError Unit :=
  if input.base.providerSlug ≠ parent.providerSlug ∨ input.base.environment ≠ parent.environment ∨
      input.base.accountRef ≠ parent.accountRef then
    .error (.mutation .bindingMismatch
      "A retry must keep the provider, environment and account binding of the mutation it continues")
  else if input.base.orderId.isSome ∧ parent.orderId.isSome ∧
      input.base.orderId ≠ parent.orderId.map (·.text) then
    .error (.mutation .bindingMismatch
      "A retry must continue the managed order identity of the mutation it continues")
  else .ok ()

/-- No member of the lineage is unresolved. -/
def assertMembersResolved (members : List IntentRow) : Except MutationError Unit :=
  match members.find? (fun r => r.status.unresolved) with
  | some r =>
    .error (.mutation .uncertaintyUnresolved
      s!"Attempt {r.attempt} of this lineage is unresolved; a retry requires every prior attempt to be resolved")
  | none => .ok ()

/-- The lineage, eligibility, binding and order checks. -/
def retryLineageReads (input : RetryIntentInput) (root : Uuid) (parent : IntentRow)
    (db : MutationDb) : Except MutationError Unit := do
  let members := lineageMembers db root
  assertCurrentParent parent members
  assertEligibleParent parent
  assertRetryBinding input parent
  assertMembersResolved members
  let profile ← requiredUuid input.base.executionProfileId
  let orderId ← uuidParam (retryOrderText input parent)
  assertOrderAcceptsNewMutation db profile orderId

/-- `assertFreshRetryAuthorizationIn`. -/
def assertFreshRetryAuthorization (input : RetryIntentInput) (values : StepValues) (db : MutationDb) :
    Except MutationError Unit := do
  let notFresh (message : String) : MutationError :=
    .mutation .retryRequiresFreshAuthorization message
  if !isUuidText input.riskDecisionId then
    throw (notFresh "A retry requires a fresh risk decision reference")
  let decision ← requiredUuid input.riskDecisionId
  match values.riskDecision with
  | none => throw (notFresh "A retry requires an existing risk decision reference")
  | some (owner, ownerProfile) =>
    if owner.text ≠ input.base.userId ∨
        ownerProfile.map (·.text) ≠ some input.base.executionProfileId then
      throw (notFresh
        "The risk decision cited by the retry belongs to another account or execution profile")
    let profile ← requiredUuid input.base.executionProfileId
    match db.intents.find? (fun r =>
        r.executionProfileId == profile && r.riskDecisionId == some decision) with
    | some consumer =>
      throw (notFresh
        s!"The risk decision cited by the retry already backs mutation attempt {consumer.attempt}; a retry requires a fresh risk decision")
    | none =>
      if db.events.any (fun e =>
          e.executionProfileId == profile && e.authorizationId == some input.authorizationId) then
        throw (notFresh
          "The execution authorization cited by the retry was already consumed; a retry requires a fresh authorization")

/-- `UPDATE … SET superseded_by_intent_id … WHERE id = parent AND superseded_by_intent_id IS NULL AND
state_version = …`. -/
def supersedeParent (parent : IntentRow) (intentId : Uuid) (db : MutationDb) :
    Except MutationError MutationDb := do
  match ← liftDb (updateIntent db.intents parent.id
      (fun r => r.supersededByIntentId.isNone && r.stateVersion == parent.stateVersion)
      (fun r => { r with supersededByIntentId := some intentId })) with
  | (_, none) =>
    throw (.mutation .parentAlreadySuperseded
      "The original mutation intent was superseded concurrently; the retry was refused")
  | (intents, some _) => return { db with intents }

/-- The writes of `prepareRetry`, up to its COMMIT. -/
def prepareRetryWrites (env : MutationEnv) (input : RetryIntentInput) (identity : SubmitIdentity)
    (parent : IntentRow) (values : StepValues) (db : MutationDb) :
    Except MutationError (MutationDb × SubmitBarrier) := do
  let base := retryBase input parent
  let ids ← submitIds base
  let (db, intent) ← authorizeIntent env base ids
    (preparedIntent base identity ids (some parent) values) values db
  let db ← supersedeParent parent intent.id db
  return ({ db with events := db.events ++
    [mutationEvent intent none .prepared none none,
      mutationEvent intent (some .prepared) .submitting (some input.authorizationId) none] },
    submitBarrier base intent)

/-- What a failed retry reports, from the tables after its ROLLBACK. -/
def retryError (db : MutationDb) (profile : Option Uuid) (orderId : Option Uuid)
    (identity : SubmitIdentity) (e : MutationError) : Except MutationError IntentRow :=
  if e = .database (.unique IntentIndex.parent.name) then
    .error (.mutation .parentAlreadySuperseded
      "The original mutation intent already has a retry; a parent intent may have at most one retry")
  else if e = .database (.unique IntentIndex.lineageAttempt.name) then
    .error (.mutation .staleParentIntent
      "The lineage already contains this attempt; a retry must continue the current lineage member")
  else
    preparationError db profile orderId identity
      "Durable retry persistence failed; no provider call is permitted" e

/-! ## `transitionIntent` -/

/-- The arguments of a transition. -/
structure TransitionArgs where
  toState : ProviderIntentState
  outcome : Option ProviderMutationOutcome
  resolution : Option ProviderResolution
  evidence : Option ProviderTerminalEvidence
  uncertaintyReason : Option ProviderUncertaintyReason
  actor : String

/-- The reservation state a transition writes. -/
def TransitionArgs.reservationState (args : TransitionArgs) : ProviderReservationState :=
  if args.toState = .confirmed ∨ args.outcome = some .accepted then .knownCompleted
  else if args.toState = .rejected ∨ args.resolution = some .providerRejected then .knownRejected
  else if args.toState = .reconciled ∧ args.resolution = some .providerAbsent then .knownRejected
  else if args.toState = .reconciled then .knownCompleted
  else .uncertain

/-- The columns a transition sets. -/
def TransitionArgs.write (args : TransitionArgs) (now : ℤ) (r : IntentRow) : IntentRow :=
  { r with
    status := args.toState
    outcome := args.outcome
    uncertaintyReason := args.uncertaintyReason
    terminalEvidence := args.evidence
    resolution := args.resolution
    reconciliationRequired := args.toState == .uncertain
    reconciliationState :=
      if args.toState = .uncertain then .pending
      else if args.toState = .reconciled then .resolved else .notRequired
    resolvedAt := if args.toState.terminal then some now else none }

/-- `transitionIntent`, on the row its caller read. -/
def transitionIntent (intent : IntentRow) (args : TransitionArgs) (now : ℤ) (db : MutationDb) :
    Except MutationError (MutationDb × ProviderReservationState) := do
  if intent.idempotencyKey.isEmpty then
    throw (.mutation .invalidMutationIdentity
      "Mutation intent is missing its idempotency identity")
  match ← liftDb (updateIntent db.intents intent.id (fun r => r.stateVersion == intent.stateVersion)
      (args.write now)) with
  | (_, none) =>
    throw (.mutation .concurrentStateChange
      "Mutation intent changed concurrently; the write was refused")
  | (intents, some _) =>
    match db.getReservation intent.id with
    | none => throw (.mutation .intentNotFound "Mutation reservation missing")
    | some reservation =>
      let reservations ← liftDb (updateReservation db.reservations intent.id reservation.version
        args.reservationState)
      let event : MutationEventRow :=
        { mutationEvent intent (some intent.status) args.toState none none with
          outcome := args.outcome
          evidence := args.evidence
          uncertaintyReason := args.uncertaintyReason
          actor := args.actor }
      return ({ db with intents, reservations, events := db.events ++ [event] },
        args.reservationState)

/-! ## `executeSubmit` after the consumption -/

/-- How the injected provider call ended: a value, or an error with its `code`. -/
inductive ProviderReply where
  | returned (raw : JsValue)
  | threw (code : Option String)

def classifyTransportFailure (code : Option String) : ProviderUncertaintyReason :=
  if code = some "timeout" then .timeout else .connectionFailure

/-- The probe a response has to echo. -/
def SubmitBarrier.probe (b : SubmitBarrier) : SubmitIdentityProbe :=
  ⟨b.clientOrderId, b.idempotencyKey, b.accountRef⟩

def normalizeReply (b : SubmitBarrier) (now : ℤ) : ProviderReply → NormalizedSubmitOutcome
  | .returned raw => normalizeSubmitOutcome b.probe now raw
  | .threw code => .failed (classifyTransportFailure code)

theorem normalizeReply_coherent (b : SubmitBarrier) (now : ℤ) (reply : ProviderReply) :
    (normalizeReply b now reply).Coherent := by
  cases reply with
  | returned raw => exact normalizeSubmitOutcome_coherent _ _ _
  | threw code => exact NormalizedSubmitOutcome.failed_coherent _

def persistReceipt (b : SubmitBarrier) (n : NormalizedSubmitOutcome) (values : StepValues)
    (db : MutationDb) : Except MutationError MutationDb := do
  let intentId ← requiredUuid b.intentId
  let receipts ← liftDb (insertReceipt db.intents db.receipts
    { id := values.rowId
      intentId
      providerOrderId := n.providerOrderId
      outcome := n.outcome
      uncertaintyReason := n.uncertaintyReason
      providerStatus := n.providerStatus
      statusUncertain := n.statusUncertain
      identityVerified := n.outcome != .uncertain
      evidence := if n.outcome = .uncertain then none else some .providerResponseVerified
      receipt := n.receipt
      observedAt := values.now })
  return { db with receipts }

/-- The transition `applyOutcome` makes. -/
def outcomeTransition (n : NormalizedSubmitOutcome) : TransitionArgs where
  toState :=
    match n.outcome with
    | .accepted => .confirmed
    | .rejected => .rejected
    | .uncertain => .uncertain
  outcome := some n.outcome
  resolution := none
  evidence := if n.outcome = .uncertain then none else some .providerResponseVerified
  uncertaintyReason := if n.outcome = .uncertain then n.uncertaintyReason else none
  actor := "system:mutation-ledger"

/-- The read of `applyOutcome`. -/
def applyOutcomeRead (b : SubmitBarrier) (db : MutationDb) : Except MutationError IntentRow := do
  match ← getIntentByText db b.intentId with
  | none => throw (.mutation .intentNotFound "Mutation intent disappeared")
  | some intent => return intent

structure MutationExecutionResult where
  providerCalled : Bool
  outcome : ProviderMutationOutcome
  intentId : String
  clientOrderId : String
  idempotencyKey : String
  attempt : JsNumber
  intentState : ProviderIntentState
  reservationState : Option ProviderReservationState
  uncertaintyReason : Option ProviderUncertaintyReason
  requiresReconciliation : Bool
  receiptId : Option Uuid
  providerOrderId : Option String
  evidence : Option ProviderTerminalEvidence
  persistenceFailure : Option ProviderUncertaintyReason

/-- What `executeSubmit` returns. -/
def executionResult (b : SubmitBarrier) (n : NormalizedSubmitOutcome) (receiptId : Option Uuid)
    (intentState : ProviderIntentState) (reservationState : Option ProviderReservationState)
    (persistenceFailure : Option ProviderUncertaintyReason) : MutationExecutionResult where
  providerCalled := true
  outcome := n.outcome
  intentId := b.intentId
  clientOrderId := b.clientOrderId
  idempotencyKey := b.idempotencyKey
  attempt := b.attempt
  intentState
  reservationState
  uncertaintyReason := if n.outcome = .uncertain then n.uncertaintyReason else none
  requiresReconciliation := intentState.unresolved
  receiptId
  providerOrderId := n.providerOrderId
  evidence := if n.outcome = .uncertain then none else some .providerResponseVerified
  persistenceFailure

/-- The result after a failed `applyOutcome`: the states read back. -/
def commitFailedResult (b : SubmitBarrier) (n : NormalizedSubmitOutcome) (receiptId : Option Uuid)
    (db : MutationDb) : MutationExecutionResult :=
  let intentId := Uuid.ofText? b.intentId
  executionResult b n receiptId (((intentId.bind db.getIntent).map (·.status)).getD .submitting)
    ((intentId.bind db.getReservation).map (·.state)) (some .stateCommitFailed)

/-! ## `recordReconciliationObservation` -/

structure ReconciliationObservationInput where
  intentId : String
  userId : String
  executionProfileId : String
  outcome : ProviderReconciliationOutcome
  providerStatus : Option BridgeNormalizedStatus
  statusUncertain : Bool
  providerOrderId : Option String
  observedAt : Option ℤ
  actor : Option String

def validateObservation (input : ReconciliationObservationInput) : Except MutationError Unit :=
  match input.outcome with
  | .notFound =>
    if input.providerStatus.isSome || input.statusUncertain then
      .error (.mutation .invalidObservation
        "A proven not-found observation carries no provider status")
    else .ok ()
  | .uncertain =>
    if !input.statusUncertain then
      .error (.mutation .invalidObservation "An uncertain observation must state its uncertainty")
    else .ok ()
  | _ =>
    if input.providerStatus.isNone then
      .error (.mutation .invalidObservation
        "A matched or mismatched observation must state the observed provider status")
    else .ok ()

/-- The read and the validation. -/
def observationRead (input : ReconciliationObservationInput) (db : MutationDb) :
    Except MutationError IntentRow := do
  let intent ← requireIntent db input.intentId input.userId input.executionProfileId
  validateObservation input
  return intent

/-- The resolution a certain match leads to: the list a status is in. -/
def observedResolution (input : ReconciliationObservationInput) : Option ProviderResolution :=
  match input.outcome, input.statusUncertain, input.providerStatus with
  | .matched, false, some status =>
    if PROVIDER_ACCEPTED_STATUSES.contains status.text then some .providerAccepted
    else if PROVIDER_REJECTED_STATUSES.contains status.text then some .providerRejected
    else none
  | _, _, _ => none

/-- The resolution an observation applies to the row read: only an unresolved one. -/
def appliedResolution (intent : IntentRow) (input : ReconciliationObservationInput) :
    Option ProviderResolution :=
  if intent.status.terminal then none else observedResolution input

def resolutionTransition (resolution : ProviderResolution) (evidence : ProviderTerminalEvidence)
    (actor : String) : TransitionArgs where
  toState := .reconciled
  outcome :=
    match resolution with
    | .providerAccepted => some .accepted
    | .providerRejected => some .rejected
    | .providerAbsent => none
  resolution := some resolution
  evidence := some evidence
  uncertaintyReason := none
  actor

/-- `INSERT INTO execution_provider_resolutions`. -/
def insertResolution (row : ResolutionRow) (db : MutationDb) : Except MutationError MutationDb :=
  if !row.checks then .error (.database (.check "execution_provider_resolutions"))
  else .ok { db with resolutions := db.resolutions ++ [row] }

/-- The row an observation is recorded as, before the staleness trigger. -/
def observationRow (intent : IntentRow) (input : ReconciliationObservationInput)
    (values : StepValues) : ObservationRow where
  id := values.rowId
  intentId := intent.id
  providerOrderId := input.providerOrderId
  attempt := intent.attempt
  outcome := input.outcome
  providerStatus := input.providerStatus
  statusUncertain := input.statusUncertain
  observedAt := input.observedAt.getD values.now
  stale := false
  supersededByIntentId := none
  applied := (appliedResolution intent input).isSome
  evidence := (appliedResolution intent input).map fun _ => .reconciliationVerified

/-- The transition and the resolution row of a current observation. -/
def applyObservation (intent : IntentRow) (actor : String) (observationId : Uuid)
    (resolution : ProviderResolution) (values : StepValues) (db : MutationDb) :
    Except MutationError MutationDb := do
  let (db, _) ← transitionIntent intent
    (resolutionTransition resolution .reconciliationVerified actor) values.now db
  insertResolution
    { id := values.rowId
      intentId := intent.id
      actor
      resolvedBy := none
      resolution
      evidence := .reconciliationVerified
      evidenceReference := "reconciliation-observation:" ++ observationId.text
      note := none
      fromStatus := intent.status } db

/-- The transaction of `recordReconciliationObservation`, on the row read before it; it returns the
resolution applied. -/
def observationWrites (intent : IntentRow) (input : ReconciliationObservationInput)
    (values : StepValues) (db : MutationDb) :
    Except MutationError (MutationDb × Option ProviderResolution) :=
  let observation := staleObservation db.intents (observationRow intent input values)
  let recorded := { db with observations := db.observations ++ [observation] }
  if !observation.checks then
    .error (.database (.check "execution_provider_reconciliation_observations"))
  else
    match appliedResolution intent input with
    | none => .ok (recorded, none)
    | some resolution =>
      if observation.stale then .ok (recorded, none)
      else do
        let db ← applyObservation intent (input.actor.getD "system:reconciliation") observation.id
          resolution values recorded
        return (db, some resolution)

/-! ## `resolveByOperator` -/

structure OperatorResolutionInput where
  intentId : String
  userId : String
  executionProfileId : String
  actor : String
  resolvedBy : String
  resolution : ProviderResolution
  evidence : ProviderTerminalEvidence
  evidenceReference : String
  note : Option String

/-- The read and the checks. -/
def resolutionRead (input : OperatorResolutionInput) (db : MutationDb) :
    Except MutationError IntentRow := do
  let intent ← requireIntent db input.intentId input.userId input.executionProfileId
  if intent.status.terminal then
    throw (.mutation .resolutionRequiresUnresolvedIntent
      "Only an unresolved mutation may be resolved")
  if !isActorText input.actor then
    throw (.mutation .operatorEvidenceRequired "A resolution must identify who resolved it")
  if isBlank input.evidenceReference then
    throw (.mutation .operatorEvidenceRequired "A resolution requires documented evidence")
  if input.evidence = .operatorResolution ∧ isBlank input.resolvedBy then
    throw (.mutation .operatorEvidenceRequired
      "An operator resolution must identify the operator")
  return intent

/-- The transaction of `resolveByOperator`, on the row read before it. -/
def resolutionWrites (intent : IntentRow) (input : OperatorResolutionInput) (values : StepValues)
    (db : MutationDb) : Except MutationError MutationDb := do
  let (db, _) ← transitionIntent intent
    (resolutionTransition input.resolution input.evidence input.actor) values.now db
  let resolvedBy ← uuidParam
    (if input.evidence = .operatorResolution then some input.resolvedBy else none)
  insertResolution
    { id := values.rowId
      intentId := intent.id
      actor := input.actor
      resolvedBy
      resolution := input.resolution
      evidence := input.evidence
      evidenceReference := input.evidenceReference
      note := input.note
      fromStatus := intent.status } db

/-! ## `recoverAfterRestart` -/

/-- The intents a recovery goes through. -/
def recoveryCandidates (profile : Option Uuid) (excluded : List Uuid) (db : MutationDb) :
    List IntentRow :=
  (listUnresolved db profile).filter fun r => r.status == .submitting && !excluded.contains r.id

def recoveryTransition : TransitionArgs where
  toState := .uncertain
  outcome := some .uncertain
  resolution := none
  evidence := none
  uncertaintyReason := some .processRestart
  actor := "system:restart-recovery"

end VeltrixEye
