import VeltrixEye.Billing.Tables

/-!
# Entitlement grants (`billing/entitlement-grants.ts`)

One `grant` call: one transaction, under the account's `users` row `FOR UPDATE`.  A dry run reads what
the real run reads, takes no lock and writes nothing.

* `grantNarrowsPaidTier` — the test of `assertGrantDoesNotNarrow`.
* `grantStep` — the next statement of a call.
-/

namespace VeltrixEye.Billing

/-- `BillingEntitlementGrantErrorReason`, as far as `grant` reaches it. -/
inductive GrantRefusal where
  | invalid_operator_input
  | forbidden_plan
  | user_not_found
  | grant_exists
  | would_narrow_paid_tier
  | grant_refused
  | database
  deriving DecidableEq

structure GrantRequest where
  user : String
  plan : String
  operatorId : String
  reason : String
  grantedAt : Option String
  dryRun : Bool
  deriving DecidableEq

/-- `assertGrantableEntitlementPlan`: `pro` and `premium` are grantable. -/
def grantableEntitlementPlan (plan : String) : Option UserPlan :=
  if plan = "pro" then some .pro
  else if plan = "premium" then some .premium
  else none

def grantNarrowsPaidTier (paidTier plan : UserPlan) : Bool := tierRank plan < tierRank paidTier

inductive GrantStage where
  /-- `BEGIN`, then the account is about to be read. -/
  | locating (plan : UserPlan)
  /-- The account row is about to be locked. -/
  | locking (plan : UserPlan) (user : UserRow)
  /-- An existing grant is about to be looked up. -/
  | replaying (plan : UserPlan) (user : UserRow)
  /-- The paid tier is about to be read. -/
  | checking (plan : UserPlan) (user : UserRow)
  /-- Does not narrow; the fact is about to be inserted. -/
  | inserting (plan : UserPlan) (user : UserRow)
  /-- Inserted, not committed. -/
  | committing (grant : GrantRow)
  | granted (grant : GrantRow) (replayed : Bool)
  /-- A dry run that would have granted. -/
  | wouldGrant (plan : UserPlan) (user : UserRow)
  | refused (reason : GrantRefusal)
  deriving DecidableEq

structure GrantCall where
  request : GrantRequest
  stage : GrantStage
  deriving DecidableEq

/-- The operator, the reason and the tier are checked before a row is read. -/
def startGrant (request : GrantRequest) : GrantCall :=
  ⟨request,
    if !(boundedText 128 (jsTrim request.operatorId) && boundedText 500 (jsTrim request.reason)) then
      .refused .invalid_operator_input
    else match grantableEntitlementPlan (jsTrim request.plan) with
      | none => .refused .forbidden_plan
      | some plan => .locating plan⟩

theorem startGrant_stage (request : GrantRequest) :
    (∃ reason, (startGrant request).stage = .refused reason) ∨
      ∃ plan, (startGrant request).stage = .locating plan := by
  unfold startGrant
  dsimp only
  split
  · exact .inl ⟨_, rfl⟩
  split
  · exact .inl ⟨_, rfl⟩
  · exact .inr ⟨_, rfl⟩

def GrantCall.locks (call : GrantCall) : List Lock :=
  if call.request.dryRun then []
  else match call.stage with
    | .replaying _ user => [.userUpdate user.id]
    | .checking _ user => [.userUpdate user.id]
    | .inserting _ user => [.userUpdate user.id]
    | .committing grant => [.userUpdate grant.userId]
    | _ => []

def UserPlan.text : UserPlan → String
  | .free => "free"
  | .pro => "pro"
  | .premium => "premium"

def billingEntitlementGrantIdempotencyKey (runtime : BillingRuntime) (userId : Uuid)
    (plan : UserPlan) : String :=
  runtime.sha256Hex ("|".intercalate
    ["billing-entitlement-grant/v1", "owner", userId.text, plan.text])

/-- `candidateGrant`, with the id the database generates. -/
def candidateGrant (runtime : BillingRuntime) (id : Uuid) (request : GrantRequest) (now : String)
    (plan : UserPlan) (user : UserRow) : GrantRow where
  id := id
  userId := user.id
  plan := plan
  operatorId := jsTrim request.operatorId
  grantReason := jsTrim request.reason
  grantedAt := runtime.storedInstant (request.grantedAt.getD now)
  idempotencyKey := billingEntitlementGrantIdempotencyKey runtime user.id plan

/-- The next stage and the tables after one statement of a `grant` call. -/
def grantStep (runtime : BillingRuntime) (input : StepInput) (db : BillingTables)
    (held : List Lock) (call : GrantCall) : BillingTables × GrantStage :=
  match call.stage with
  | .locating plan =>
    match db.readUser (jsTrim call.request.user) with
    | none => (db, .refused .user_not_found)
    | some user => (db, .locking plan user)
  | .locking plan user =>
    if !call.request.dryRun && blocked held (.userUpdate user.id) then (db, call.stage)
    else (db, .replaying plan user)
  | .replaying plan user =>
    match db.grants.find? fun g => g.userId = user.id with
    | some existing =>
      if existing.plan ≠ plan then (db, .refused .grant_exists) else (db, .granted existing true)
    | none => (db, .checking plan user)
  | .checking plan user =>
    if grantNarrowsPaidTier (db.readPaidTier user.id) plan then
      (db, .refused .would_narrow_paid_tier)
    else if call.request.dryRun then (db, .wouldGrant plan user)
    else (db, .inserting plan user)
  | .inserting plan user =>
    let grant := candidateGrant runtime input.id call.request input.now plan user
    if db.grants.any fun g => g.idempotencyKey = grant.idempotencyKey then
      match db.grants.find? fun g => g.userId = user.id with
      | some winner => (db, .granted winner true)
      | none => (db, .refused .grant_refused)
    else if !db.hasUser user.id then (db, .refused .user_not_found)
    else (db, .committing grant)
  | .committing grant =>
    -- the unique indexes of the table; a key another transaction took meanwhile is a refusal
    if db.grants.any fun g => g.id = grant.id || g.userId = grant.userId ||
        g.idempotencyKey = grant.idempotencyKey then
      (db, .refused .grant_exists)
    else ({ db with grants := db.grants ++ [grant] }, .granted grant false)
  | .granted _ _ => (db, call.stage)
  | .wouldGrant _ _ => (db, call.stage)
  | .refused _ => (db, call.stage)

end VeltrixEye.Billing
