import VeltrixEye.Lib.Uuid

/-!
# The notification outbox (`notifications/outbox.ts`)

One table of jobs for each channel and the fairness ledger.  Every function below is one statement, or
one transaction, on the tables at an instant `now`; instants and spans count microseconds.

* `JobRow`, `Outbox` — the rows and the tables.
* `claimTable`, `claimBatch` — claims under a fencing token, balanced over the channels.
* `renewLease`, `markDelivered`, `scheduleRetry`, `markFailed`, `markUnavailable` — what a
  worker that holds the token may do before its lease ends.
-/

namespace VeltrixEye.Notifications

inductive NotificationChannel where
  | email
  | webhook
  | push
  deriving DecidableEq

inductive NotificationStatus where
  | pending
  | processing
  | delivered
  | failed
  | unavailable
  deriving DecidableEq

inductive NotificationFailureCategory where
  | none
  | configuration
  | transient
  | permanent
  | timeout
  | stale
  | unknown

/-- The opaque owner token of a claim: the worker and a random uuid. -/
structure OwnerToken where
  workerId : String
  claim : Uuid
  deriving DecidableEq

/-- A row of a delivery table; `recipient` and what stands above it are written once. -/
structure JobRow where
  id : Uuid
  alertId : Uuid
  userId : Uuid
  channel : NotificationChannel
  template : String
  idempotencyKey : String
  payloadHash : String
  payload : String
  recipient : String
  status : NotificationStatus
  attempts : ℕ
  maxAttempts : ℕ
  provider : Option String
  providerMessageId : Option String
  providerResponseCode : Option String
  failureCategory : NotificationFailureCategory
  lastError : Option String
  nextAttemptAt : ℕ
  lockedAt : Option ℕ
  lockedBy : Option OwnerToken
  deliveredAt : Option ℕ
  createdAt : ℕ

/-- The singleton of `notification_delivery_fairness`. -/
structure FairnessLedger where
  lastChannel : NotificationChannel
  claims : NotificationChannel → ℕ

structure Outbox where
  tables : NotificationChannel → List JobRow
  ledger : FairnessLedger

/-- A table is replaced. -/
def Outbox.setTable (o : Outbox) (ch : NotificationChannel) (rows : List JobRow) : Outbox :=
  { o with tables := Function.update o.tables ch rows }

/-- `UPDATE … SET … WHERE …`: the rows after it and how many it changed. -/
def updateWhere (p : JobRow → Bool) (f : JobRow → JobRow) (rows : List JobRow) : List JobRow × ℕ :=
  (rows.map fun r => if p r then f r else r, (rows.filter p).length)

/-- The statement on the table of a channel. -/
def Outbox.update (o : Outbox) (ch : NotificationChannel) (p : JobRow → Bool) (f : JobRow → JobRow) :
    Outbox × ℕ :=
  let r := updateWhere p f (o.tables ch)
  (o.setTable ch r.1, r.2)

def milliseconds (n : ℕ) : ℕ := 1000 * n

def days (n : ℕ) : ℕ := 86400000000 * n

/-! ## Enqueue -/

structure EnqueueAlertNotificationArgs where
  alertId : Uuid
  userId : Uuid
  channel : NotificationChannel
  template : String
  payload : String
  payloadHash : String
  idempotencyKey : String
  strategyId : Option Uuid
  recipient : Option String
  maxAttempts : Option ℕ

/-- What the statement reads of other tables: the address of the user, when there is one, and whether
    the foreign keys of the row hold. -/
structure EnqueueOwner where
  userEmail : Option String
  referencesHold : Bool

inductive EnqueueFailure where
  | internal
  /-- The statement violates a constraint. -/
  | database

/-- The length bounds of a recipient. -/
def recipientBounds : NotificationChannel → ℕ × ℕ
  | .email => (3, 320)
  | .webhook => (8, 2048)
  | .push => (8, 2048)

/-- The `CHECK`s of a fresh row. -/
def insertable (r : JobRow) : Bool :=
  r.idempotencyKey.length = 64 && r.payloadHash.length = 64 &&
    (recipientBounds r.channel).1 ≤ r.recipient.length &&
    r.recipient.length ≤ (recipientBounds r.channel).2 &&
    1 ≤ r.template.length && r.template.length ≤ 64 && 1 ≤ r.maxAttempts && r.maxAttempts ≤ 10

/-- The row `enqueue` inserts; the columns it does not name have their defaults. -/
def freshRow (now : ℕ) (id : Uuid) (defaultMaxAttempts : ℕ) (recipient : String)
    (args : EnqueueAlertNotificationArgs) : JobRow where
  id := id
  alertId := args.alertId
  userId := args.userId
  channel := args.channel
  template := args.template
  idempotencyKey := args.idempotencyKey
  payloadHash := args.payloadHash
  payload := args.payload
  recipient := recipient
  status := .pending
  attempts := 0
  maxAttempts := args.maxAttempts.getD defaultMaxAttempts
  provider := none
  providerMessageId := none
  providerResponseCode := none
  failureCategory := .none
  lastError := none
  nextAttemptAt := now
  lockedAt := none
  lockedBy := none
  deliveredAt := none
  createdAt := now

/-- The address of the row: email falls back to the user's, the other channels require their own. -/
def enqueueRecipient (owner : EnqueueOwner) (args : EnqueueAlertNotificationArgs) :
    Except EnqueueFailure String :=
  match args.channel with
  | .email =>
    match owner.userEmail with
    | some email => .ok (args.recipient.getD email)
    | none => .error .internal
  | _ =>
    match args.strategyId, args.recipient with
    | none, _ => .error .internal
    | some _, none => .error .database
    | some _, some recipient => .ok recipient

/-- `enqueue`: the job of the alert on the channel, and whether this call inserted it. -/
def enqueue (now : ℕ) (id : Uuid) (defaultMaxAttempts : ℕ) (owner : EnqueueOwner) (o : Outbox)
    (args : EnqueueAlertNotificationArgs) : Except EnqueueFailure (Outbox × JobRow × Bool) :=
  let existing := (o.tables args.channel).find? fun r => r.alertId = args.alertId
  match enqueueRecipient owner args with
  | .error .internal =>
    -- no user row to select from: nothing is inserted, and the existing job is read
    match args.channel, existing with
    | .email, some row => .ok (o, row, false)
    | _, _ => .error .internal
  | .error .database => .error .database
  | .ok recipient =>
    let row := freshRow now id defaultMaxAttempts recipient args
    if !insertable row then .error .database
    else match existing with
      | some row => .ok (o, row, false)
      | none =>
        if (o.tables args.channel).any fun r =>
            r.idempotencyKey = row.idempotencyKey || r.id = row.id then .error .database
        else if !owner.referencesHold then .error .database
        else .ok (o.setTable args.channel (o.tables args.channel ++ [row]), row, true)

/-! ## Claims -/

/-- The order in which the database returns rows that compare equal. -/
structure Scan where
  rows : List JobRow → List JobRow
  perm : ∀ l, (rows l).Perm l

/-- A due pending row with budget left that no other transaction has locked. -/
def claimable (now : ℕ) (locked : Uuid → Bool) (r : JobRow) : Bool :=
  r.status = .pending && r.nextAttemptAt ≤ now && r.attempts < r.maxAttempts && !locked r.id

/-- `ORDER BY next_attempt_at ASC, created_at ASC`. -/
def dueOrder (a b : JobRow) : Bool :=
  a.nextAttemptAt < b.nextAttemptAt ||
    (a.nextAttemptAt = b.nextAttemptAt && a.createdAt ≤ b.createdAt)

/-- The rows a claim selects `FOR UPDATE SKIP LOCKED`. -/
def candidates (now : ℕ) (locked : Uuid → Bool) (scan : Scan) (limit : ℕ) (rows : List JobRow) :
    List JobRow :=
  (((scan.rows rows).filter (claimable now locked)).insertionSort fun a b => dueOrder a b).take limit

/-- A row under a claim. -/
def claimedRow (now : ℕ) (token : OwnerToken) (r : JobRow) : JobRow :=
  { r with
    status := .processing
    lockedAt := some now
    lockedBy := some token
    attempts := r.attempts + 1
    failureCategory := .none
    lastError := none }

/-- What a claim reads besides the tables: the rows other transactions hold, the order of ties, and the
    uuids it generates, one for each pass over a channel. -/
structure ClaimContext where
  workerId : String
  locked : NotificationChannel → Uuid → Bool
  scan : Scan
  uuid : Bool → NotificationChannel → Uuid

def claimTable (now : ℕ) (ctx : ClaimContext) (second : Bool) (ch : NotificationChannel) (limit : ℕ)
    (o : Outbox) : Outbox × List JobRow :=
  let chosen := candidates now (ctx.locked ch) ctx.scan limit (o.tables ch)
  let selected := fun r : JobRow => chosen.any fun c => c.id = r.id
  let claimed := claimedRow now ⟨ctx.workerId, ctx.uuid second ch⟩
  (o.setTable ch (updateWhere selected claimed (o.tables ch)).1,
    ((o.tables ch).filter selected).map claimed)

/-! ### Fairness -/

def canonical : List NotificationChannel := [.email, .webhook, .push]

/-- The round-robin order: the channel after the last one first. -/
def rrOrder (last : NotificationChannel) : List NotificationChannel :=
  canonical.drop (canonical.idxOf last + 1) ++ canonical.take (canonical.idxOf last + 1)

def rrIndex (last ch : NotificationChannel) : ℕ := (rrOrder last).idxOf ch

/-- Fewer lifetime claims first, then the round-robin turn. -/
def queueOrder (ledger : FairnessLedger) (a b : NotificationChannel) : Bool :=
  ledger.claims a < ledger.claims b ||
    (ledger.claims a = ledger.claims b && rrIndex ledger.lastChannel a ≤ rrIndex ledger.lastChannel b)

def sortedQueues (ledger : FairnessLedger) : List NotificationChannel :=
  canonical.insertionSort fun a b => queueOrder ledger a b

def recordFairnessClaims (counts : NotificationChannel → ℕ) (o : Outbox) : Outbox :=
  if counts .email = 0 ∧ counts .webhook = 0 ∧ counts .push = 0 then o
  else
    { o with ledger := {
        claims := fun ch => o.ledger.claims ch + counts ch
        lastChannel :=
          if counts .email > counts .webhook ∧ counts .email > counts .push then .email
          else if counts .webhook > counts .email ∧ counts .webhook > counts .push then .webhook
          else if counts .push > counts .email ∧ counts .push > counts .webhook then .push
          else o.ledger.lastChannel } }

/-- A claim of one job: the first channel of the order that has one. -/
def claimFirst (now : ℕ) (ctx : ClaimContext) (o : Outbox) :
    List NotificationChannel → Outbox × List JobRow
  | [] => (o, [])
  | ch :: rest =>
    match (claimTable now ctx false ch 1 o).2 with
    | [] => claimFirst now ctx o rest
    | job :: jobs =>
      (recordFairnessClaims (fun c => if c = ch then 1 else 0) (claimTable now ctx false ch 1 o).1,
        job :: jobs)

/-- The first pass: each queue gets an equal share of what remains for it and the queues after it. -/
def firstPass (now : ℕ) (ctx : ClaimContext) (remaining : ℕ) (o : Outbox) :
    List NotificationChannel → Outbox × List JobRow
  | [] => (o, [])
  | ch :: rest =>
    if remaining = 0 then (o, [])
    else
      let share := max 1 ((remaining + rest.length) / (rest.length + 1))
      let r := claimTable now ctx false ch share o
      let s := firstPass now ctx (remaining - r.2.length) r.1 rest
      (s.1, r.2 ++ s.2)

/-- The second pass: what remains goes to any queue that still has work. -/
def secondPass (now : ℕ) (ctx : ClaimContext) (remaining : ℕ) (o : Outbox) :
    List NotificationChannel → Outbox × List JobRow
  | [] => (o, [])
  | ch :: rest =>
    if remaining = 0 then (o, [])
    else
      let r := claimTable now ctx true ch remaining o
      let s := secondPass now ctx (remaining - r.2.length) r.1 rest
      (s.1, r.2 ++ s.2)

/-- The claimed jobs of a channel. -/
def channelCount (jobs : List JobRow) (ch : NotificationChannel) : ℕ :=
  (jobs.filter fun j => j.channel = ch).length

/-- `claimBatch`, one transaction under the fairness lock; `limit` is truncated, and none when it was
    not positive. -/
def claimBatch (now : ℕ) (ctx : ClaimContext) (limit : ℕ) (o : Outbox) : Outbox × List JobRow :=
  if limit = 0 then (o, [])
  else
    let sorted := sortedQueues o.ledger
    if limit = 1 then claimFirst now ctx o sorted
    else
      let first := firstPass now ctx limit o sorted
      let second := secondPass now ctx (limit - first.2.length) first.1 sorted
      let jobs := first.2 ++ second.2
      (recordFairnessClaims (channelCount jobs) second.1,
        jobs.insertionSort fun a b => a.nextAttemptAt < b.nextAttemptAt ||
          (a.nextAttemptAt = b.nextAttemptAt && (a.createdAt < b.createdAt ||
            (a.createdAt = b.createdAt && a.id.text ≤ b.id.text))))

/-! ## Acknowledgements -/

structure AttemptResult where
  provider : Option String
  providerMessageId : Option String
  providerResponseCode : Option String
  failureCategory : NotificationFailureCategory
  error : Option String

/-- `locked_at >= now() - lease`. -/
def leaseLive (lease now : ℕ) (r : JobRow) : Bool :=
  r.lockedAt.any fun lockedAt => now ≤ lockedAt + milliseconds lease

/-- `locked_at < now() - lease`. -/
def leaseExpired (lease now : ℕ) (r : JobRow) : Bool :=
  r.lockedAt.any fun lockedAt => lockedAt + milliseconds lease < now

/-- The guard of every acknowledgement: the job, its token and a live lease. -/
def owned (lease now : ℕ) (jobId : Uuid) (token : OwnerToken) (r : JobRow) : Bool :=
  r.id = jobId && r.status = .processing && r.lockedBy = some token && leaseLive lease now r

/-- The `CHECK`s on what an acknowledgement writes. -/
def recordable (ch : NotificationChannel) (result : AttemptResult) : Bool :=
  result.error.all (fun e => e.length ≤ 600) &&
    (ch ≠ .email || (result.providerMessageId.all (fun m => m.length ≤ 320) &&
      result.providerResponseCode.all fun c => c.length ≤ 32))

/-- A row without its lease. -/
def JobRow.unlocked (r : JobRow) : JobRow := { r with lockedAt := none, lockedBy := none }

/-- A statement that writes a result; a violated `CHECK` is an error and changes nothing. -/
def acknowledge (ch : NotificationChannel) (p : JobRow → Bool) (result : AttemptResult)
    (f : JobRow → JobRow) (o : Outbox) : Outbox × Bool :=
  if recordable ch result then ((o.update ch p f).1, (o.update ch p f).2 = 1) else (o, false)

def renewLease (lease now : ℕ) (ch : NotificationChannel) (jobId : Uuid) (token : OwnerToken)
    (o : Outbox) : Outbox × Bool :=
  let r := o.update ch (owned lease now jobId token) fun r => { r with lockedAt := some now }
  (r.1, r.2 = 1)

def deliveredRow (now : ℕ) (result : AttemptResult) (r : JobRow) : JobRow :=
  { r.unlocked with
    status := .delivered
    provider := result.provider
    providerMessageId := result.providerMessageId
    providerResponseCode := result.providerResponseCode
    failureCategory := .none
    lastError := none
    deliveredAt := some now
    nextAttemptAt := now }

def markDelivered (lease now : ℕ) (ch : NotificationChannel) (jobId : Uuid) (token : OwnerToken)
    (result : AttemptResult) (o : Outbox) : Outbox × Bool :=
  acknowledge ch (owned lease now jobId token) { result with error := none } (deliveredRow now result) o

def retriedRow (now delayMs : ℕ) (result : AttemptResult) (r : JobRow) : JobRow :=
  { r.unlocked with
    status := .pending
    nextAttemptAt := now + milliseconds delayMs
    provider := result.provider
    providerResponseCode := result.providerResponseCode
    failureCategory := result.failureCategory
    lastError := result.error }

/-- The first statement of `markRetry`. -/
def scheduleRetry (lease now : ℕ) (ch : NotificationChannel) (jobId : Uuid) (token : OwnerToken)
    (delayMs : ℕ) (result : AttemptResult) (o : Outbox) : Outbox × Bool :=
  acknowledge ch (fun r => owned lease now jobId token r && r.attempts < r.maxAttempts)
    { result with providerMessageId := none } (retriedRow now delayMs result) o

def failedRow (now : ℕ) (result : AttemptResult) (r : JobRow) : JobRow :=
  { r.unlocked with
    status := .failed
    provider := result.provider
    providerResponseCode := result.providerResponseCode
    failureCategory := result.failureCategory
    lastError := result.error
    nextAttemptAt := now }

def markFailed (lease now : ℕ) (ch : NotificationChannel) (jobId : Uuid) (token : OwnerToken)
    (result : AttemptResult) (o : Outbox) : Outbox × Bool :=
  acknowledge ch (owned lease now jobId token) { result with providerMessageId := none }
    (failedRow now result) o

def unavailableRow (now : ℕ) (result : AttemptResult) (r : JobRow) : JobRow :=
  { r.unlocked with
    status := .unavailable
    provider := result.provider
    failureCategory := result.failureCategory
    lastError := result.error
    nextAttemptAt := now }

def markUnavailable (lease now : ℕ) (ch : NotificationChannel) (jobId : Uuid) (token : OwnerToken)
    (result : AttemptResult) (o : Outbox) : Outbox × Bool :=
  acknowledge ch (owned lease now jobId token)
    { result with providerMessageId := none, providerResponseCode := none } (unavailableRow now result) o

/-! ## Maintenance -/

/-- A processing row whose lease has ended. -/
def stale (lease now : ℕ) (r : JobRow) : Bool := r.status = .processing && leaseExpired lease now r

/-- The first statement of `recoverStale` on a table: budget left, back to `pending`. -/
def recoverPending (lease now : ℕ) (ch : NotificationChannel) (o : Outbox) : Outbox :=
  (o.update ch (fun r => stale lease now r && r.attempts < r.maxAttempts) fun r =>
    { r.unlocked with
      status := .pending
      nextAttemptAt := now
      failureCategory := .stale
      lastError := some "worker did not finish inside the lease — recovered" }).1

/-- The second statement: budget exhausted, dead-lettered. -/
def recoverFailed (lease now : ℕ) (ch : NotificationChannel) (o : Outbox) : Outbox :=
  (o.update ch (fun r => stale lease now r && r.maxAttempts ≤ r.attempts) fun r =>
    { r.unlocked with
      status := .failed
      failureCategory := .stale
      lastError := some "worker did not finish inside the lease — retry budget exhausted"
      nextAttemptAt := now }).1

/-- The unavailable rows a re-queue selects: at most `limit`, in the order the database finds them. -/
def requeued (locked : Uuid → Bool) (scan : Scan) (limit : ℕ) (rows : List JobRow) : List JobRow :=
  ((scan.rows rows).filter fun r => r.status = .unavailable && !locked r.id).take (max 1 limit)

/-- The statement of `requeueUnavailable` for one channel. -/
def requeueUnavailable (now : ℕ) (ch : NotificationChannel) (locked : Uuid → Bool) (scan : Scan)
    (limit : ℕ) (o : Outbox) : Outbox :=
  let chosen := requeued locked scan limit (o.tables ch)
  (o.update ch (fun r => chosen.any fun c => c.id = r.id) fun r =>
    { r.unlocked with
      status := .pending
      attempts := 0
      failureCategory := .none
      lastError := none
      nextAttemptAt := now }).1

/-- The first statement of `cleanup` on a table. -/
def deleteDelivered (now retentionDays : ℕ) (ch : NotificationChannel) (o : Outbox) : Outbox :=
  o.setTable ch ((o.tables ch).filter fun r => !(r.status = .delivered &&
    r.deliveredAt.any fun deliveredAt => deliveredAt + days (max 1 retentionDays) < now))

/-- The second statement. -/
def deleteFailed (now retentionDays : ℕ) (ch : NotificationChannel) (o : Outbox) : Outbox :=
  o.setTable ch ((o.tables ch).filter fun r => !(r.status = .failed &&
    r.createdAt + days (max 1 retentionDays) < now))

end VeltrixEye.Notifications
