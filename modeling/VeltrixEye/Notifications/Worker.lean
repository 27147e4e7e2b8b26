import VeltrixEye.Notifications.Fencing
import VeltrixEye.Lib.Pool
import VeltrixEye.Billing.Contracts

/-!
# The delivery worker (`notifications/worker.ts`)

Every call of `runOnce` and `runMaintenance` is a task of a pool over the outbox.  A task runs one
statement at a time and waits for its provider; other tasks, other processes and the clock move between.

* `backoffDelayMs`, `classifySmtpError` — the delay of a retry, and what the SMTP adapter answers.
* `WorkerStage` — where a call stands; `workerStep` — its next statement and the stage after it.
* `DeliveryState` — the outbox, with a record of the `provider.send` calls and of the jobs inserted, which
  no step reads.
* `deliveryStep` — a call begins, a call takes a step, a job is enqueued, or time passes.
-/

namespace VeltrixEye.Notifications

inductive NotificationOutcome where
  | delivered
  | retryable
  | timeout
  | permanent
  | unavailable

structure NotificationSendResult where
  outcome : NotificationOutcome
  providerMessageId : Option String
  providerResponseCode : Option String
  error : Option String
  failureCategory : Option NotificationFailureCategory

structure DeliveryRetryPolicy where
  maxAttempts : ℕ
  baseBackoffMs : ℕ
  maxBackoffMs : ℕ
  jitterMs : ℕ
  leaseMs : ℕ
  batchSize : ℕ

def MAX_NOTIFICATION_BATCH_SIZE : ℕ := 200

def NotificationChannel.name : NotificationChannel → String
  | .email => "email"
  | .webhook => "webhook"
  | .push => "push"

def NotificationOutcome.name : NotificationOutcome → String
  | .delivered => "delivered"
  | .retryable => "retryable"
  | .timeout => "timeout"
  | .permanent => "permanent"
  | .unavailable => "unavailable"

def categoryForOutcome : NotificationOutcome → NotificationFailureCategory
  | .timeout => .timeout
  | .permanent => .permanent
  | .unavailable => .configuration
  | _ => .transient

/-! ## Backoff -/

/-- The UTF-16 code units of a character. -/
def codeUnits (c : Char) : List ℕ :=
  if c.toNat < 0x10000 then [c.toNat]
  else [0xD800 + (c.toNat - 0x10000) / 0x400, 0xDC00 + (c.toNat - 0x10000) % 0x400]

/-- `hashMod`: a 32-bit hash; the start is no 32-bit integer before the first character makes it one. -/
def hashMod (value : String) (mod : ℕ) : ℕ :=
  let units := value.toList.flatMap codeUnits
  let hash := units.foldl (fun h u => (h ^^^ BitVec.ofNat 32 u) * 16777619#32) 2166136261#32
  (if units = [] then 2166136261 else hash.toInt.natAbs) % max 1 mod

def backoffDelayMs (policy : DeliveryRetryPolicy) (attempts : ℕ) (idempotencyKey : String) : ℕ :=
  let attempt := max 1 attempts
  let exponential := min (policy.baseBackoffMs * 2 ^ (attempt - 1))
    (max policy.baseBackoffMs policy.maxBackoffMs)
  exponential + if policy.jitterMs > 0 then hashMod idempotencyKey policy.jitterMs else 0

/-! ## The SMTP adapter (`email.ts`) -/

/-- The reply of an SMTP error: `responseCode`, or `response` when that is absent. -/
inductive SmtpReply where
  | number (n : ℕ)
  | text (s : String)
  | other

/-- What `classifySmtpError` reads of a thrown value. -/
structure SmtpErrorShape where
  code : String
  reply : SmtpReply
  rawErrorText : String

/-- The three digits `/^[1-5]\d\d/` matches. -/
def replyDigits : List Char → Option String
  | a :: b :: c :: _ =>
    if '1' ≤ a ∧ a ≤ '5' ∧ b.isDigit ∧ c.isDigit then some (String.ofList [a, b, c]) else none
  | _ => none

def responseCodeOf : SmtpReply → Option String
  | .number n => some (toString n)
  | .text s => some ((replyDigits (Billing.jsTrim s).toList).getD (String.ofList (s.toList.take 16)))
  | .other => none

/-- `classifySmtpError`, without the redacted text. -/
def classifySmtpError (err : SmtpErrorShape) :
    NotificationOutcome × NotificationFailureCategory × Option String :=
  let responseCode := responseCodeOf err.reply
  if err.code = "EAUTH" ∨ responseCode.any fun c => c ∈ ["530", "534", "535", "538"] then
    (.unavailable, .configuration, responseCode)
  else if err.code = "EMESSAGE" ∨ err.code = "EENVELOPE" then (.permanent, .permanent, responseCode)
  else if err.code = "ETIMEDOUT" ∨ (err.code = "ESOCKET" ∧
      "timeout".toList <:+: err.rawErrorText.toList.map Char.toLower) then
    (.timeout, .timeout, responseCode)
  else if responseCode.any fun c => c.toList.head? = some '5' then (.permanent, .permanent, responseCode)
  else (.retryable, .transient, responseCode)

/-- The adapter's result for a failed attempt. -/
def smtpFailure (err : SmtpErrorShape) (message : String) : NotificationSendResult :=
  let c := classifySmtpError err
  ⟨c.1, none, c.2.2, some message, some c.2.1⟩

/-! ## Calls of the worker -/

/-- What the registry says of a channel's provider. -/
structure ProviderView where
  name : String
  configured : Bool

/-- The statements of `recoverStale` on one table that are still to run. -/
inductive RecoverPhase where
  | back
  | dead
  | done
  deriving DecidableEq

inductive WorkerCall where
  | runOnce (limit : ℕ)
  | runMaintenance (deliveredRetentionDays failedRetentionDays : ℕ)

/-- A claimed job on its way through a provider; `remaining` claims of the batch are left after it. -/
structure Delivery where
  remaining : ℕ
  job : JobRow
  ownerToken : OwnerToken
  provider : String

inductive WorkerStage where
  | idle
  | recovering (call : WorkerCall) (phase : NotificationChannel → RecoverPhase)
  | requeueing (call : WorkerCall) (channels : List NotificationChannel)
  | cleaning (call : WorkerCall) (todo : List (NotificationChannel × Bool))
  | claiming (remaining : ℕ)
  | claimed (remaining : ℕ) (job : JobRow)
  /-- `startLeaseRenewal` has not confirmed the lease. -/
  | confirming (d : Delivery)
  /-- The lease is confirmed; `provider.send` is next. -/
  | ready (d : Delivery)
  | sending (d : Delivery) (lost : Bool)
  | recording (d : Delivery) (result : NotificationSendResult) (thrown : Option String)
  /-- Between the two statements of `markRetry`. -/
  | retrying (d : Delivery) (attempt : AttemptResult)

/-- What a step reads besides the outbox. -/
inductive WorkerInput where
  | recover (ch : NotificationChannel)
  | configured (channels : List NotificationChannel)
  | requeue (locked : Uuid → Bool) (scan : Scan)
  | clean
  | claim (ctx : ClaimContext)
  | provider (view : Option ProviderView)
  | renew
  | send
  | answer (result : NotificationSendResult)
  | throws (message : String)
  | record
  /-- The statement raises. -/
  | fail
  /-- The process stops. -/
  | crash

/-- `runOnce` clamps its batch size. -/
def runOnceLimit (policy : DeliveryRetryPolicy) (batchSize : Option ℕ) : ℕ :=
  min (max (batchSize.getD policy.batchSize) 1) MAX_NOTIFICATION_BATCH_SIZE

/-- The limit a call passes to `requeueUnavailable`. -/
def WorkerCall.requeueLimit : WorkerCall → ℕ
  | .runOnce limit => limit
  | .runMaintenance _ _ => MAX_NOTIFICATION_BATCH_SIZE

def recoverStale (call : WorkerCall) : WorkerStage := .recovering call fun _ => .back

/-- The stage after `requeueUnavailable`. -/
def afterRequeue : WorkerCall → WorkerStage
  | .runOnce limit => .claiming limit
  | .runMaintenance delivered failed =>
    .cleaning (.runMaintenance delivered failed) (canonical.flatMap fun ch => [(ch, true), (ch, false)])

/-- The next channel `requeueUnavailable` works on. -/
def requeueing (call : WorkerCall) : List NotificationChannel → WorkerStage
  | [] => afterRequeue call
  | channels => .requeueing call channels

/-- The loop of `runOnce`. -/
def claiming : ℕ → WorkerStage
  | 0 => .idle
  | remaining => .claiming remaining

/-- What `deliver` records of a job without a usable provider. -/
def unconfigured (ch : NotificationChannel) : Option ProviderView → AttemptResult
  | none => ⟨none, none, none, .configuration,
      some ("no notification provider is registered for channel \"" ++ ch.name ++ "\"")⟩
  | some p => ⟨some p.name, none, none, .configuration,
      some ("notification provider \"" ++ p.name ++ "\" is not configured (missing credentials)")⟩

/-- What `record` writes of an attempt that did not deliver. -/
def attemptOf (redact : String → String) (provider : String) (result : NotificationSendResult)
    (thrown : Option String) : AttemptResult where
  provider := some provider
  providerMessageId := none
  providerResponseCode := result.providerResponseCode
  failureCategory := result.failureCategory.getD (categoryForOutcome result.outcome)
  error := some (redact (result.error.getD (thrown.getD (result.outcome.name ++ " delivery attempt"))))

/-- The receipt of a delivered attempt. -/
def receiptOf (provider : String) (result : NotificationSendResult) : AttemptResult :=
  ⟨some provider, result.providerMessageId, result.providerResponseCode, .none, none⟩

/-- The result `deliver` makes of an exception. -/
def thrownResult (message : String) : NotificationSendResult :=
  ⟨.retryable, none, none, some message, some .unknown⟩

/-- The stage after an acknowledgement; a violated `CHECK` leaves the call through an exception. -/
def acknowledged (d : Delivery) (result : AttemptResult) : WorkerStage :=
  if recordable d.job.channel result then claiming d.remaining else .idle

section Step

variable (policy : DeliveryRetryPolicy) (redact : String → String)

/-- The lease every statement uses. -/
def DeliveryRetryPolicy.lease : ℕ := max 1 policy.leaseMs

/-- `record`: the statement for a result, and the stage after it. -/
def record (s : OutboxState) (d : Delivery) (result : NotificationSendResult) (thrown : Option String) :
    OutboxAction × WorkerStage :=
  let ch := d.job.channel
  let attempt := attemptOf redact d.provider result thrown
  match result.outcome with
  | .delivered =>
    (.deliver ch d.job.id d.ownerToken (receiptOf d.provider result),
      acknowledged d (receiptOf d.provider result))
  | .unavailable => (.unavailable ch d.job.id d.ownerToken attempt, acknowledged d attempt)
  | .permanent => (.fail ch d.job.id d.ownerToken attempt, acknowledged d attempt)
  | _ =>
    let delayMs := backoffDelayMs policy d.job.attempts d.job.idempotencyKey
    (.retry ch d.job.id d.ownerToken delayMs attempt,
      if !recordable ch attempt then .idle
      else if (scheduleRetry policy.lease s.now ch d.job.id d.ownerToken delayMs attempt s.outbox).2 then
        claiming d.remaining
      else .retrying d attempt)

/-- One step of a call: the statement it runs, if any, and the stage after it.  An input that does not
    belong to the stage changes nothing. -/
def workerStep (instanceId : String) (s : OutboxState) (stage : WorkerStage) (input : WorkerInput) :
    Option OutboxAction × WorkerStage :=
  match stage, input with
  | .idle, _ => (none, .idle)
  | _, .crash => (none, .idle)
  | .recovering call phase, .recover ch =>
    match phase ch with
    | .back => (some (.recoverPending ch), .recovering call (Function.update phase ch .dead))
    | .dead => (some (.recoverFailed ch), .recovering call (Function.update phase ch .done))
    | .done => (none, stage)
  | .recovering call phase, .configured channels =>
    if canonical.all fun ch => phase ch = .done then (none, requeueing call channels) else (none, stage)
  | .requeueing call (ch :: channels), .requeue locked scan =>
    (some (.requeue ch locked scan call.requeueLimit), requeueing call channels)
  | .cleaning (.runMaintenance delivered failed) ((ch, first) :: todo), .clean =>
    (some (if first then .deleteDelivered ch delivered else .deleteFailed ch failed),
      if todo = [] then .idle else .cleaning (.runMaintenance delivered failed) todo)
  | .claiming (remaining + 1), .claim ctx =>
    let ctx := { ctx with workerId := instanceId }
    (some (.claim ctx 1),
      match (claimBatch s.now ctx 1 s.outbox).2.head? with
      | some job => .claimed remaining job
      | none => .idle)
  | .claimed remaining job, .provider view =>
    match job.lockedBy with
    | none => (none, claiming remaining)
    | some token =>
      match view with
      | some ⟨name, true⟩ => (none, .confirming ⟨remaining, job, token, name⟩)
      | view =>
        (some (.unavailable job.channel job.id token (unconfigured job.channel view)),
          acknowledged ⟨remaining, job, token, ""⟩ (unconfigured job.channel view))
  | .confirming d, .renew =>
    (some (.renew d.job.channel d.job.id d.ownerToken),
      if (renewLease policy.lease s.now d.job.channel d.job.id d.ownerToken s.outbox).2 then .ready d
      else claiming d.remaining)
  -- a renewal that raises counts as a lost lease
  | .confirming d, .fail => (none, claiming d.remaining)
  | .ready d, .send => (none, .sending d false)
  | .sending d false, .renew =>
    (some (.renew d.job.channel d.job.id d.ownerToken),
      .sending d (!(renewLease policy.lease s.now d.job.channel d.job.id d.ownerToken s.outbox).2))
  | .sending d false, .fail => (none, .sending d true)
  | .sending d lost, .answer result =>
    (none, if lost then claiming d.remaining else .recording d result none)
  | .sending d lost, .throws message =>
    (none, if lost then claiming d.remaining else .recording d (thrownResult message) (some message))
  | .recording d result thrown, .record =>
    (some (record policy redact s d result thrown).1, (record policy redact s d result thrown).2)
  | .retrying d attempt, .record =>
    (some (.fail d.job.channel d.job.id d.ownerToken attempt), acknowledged d attempt)
  | .claimed _ _, .fail => (none, .idle)
  | .ready _, _ => (none, stage)
  | .sending _ _, _ => (none, stage)
  | _, .fail => (none, .idle)
  | _, _ => (none, stage)

/-! ## The pool of calls -/

/-- A job of a channel. -/
abbrev JobKey := NotificationChannel × Uuid

def JobRow.key (r : JobRow) : JobKey := (r.channel, r.id)

structure DeliveryState where
  outbox : OutboxState
  /-- The `provider.send` calls made. -/
  calls : List JobKey
  /-- The jobs inserted, with their budgets. -/
  enqueued : List (JobKey × ℕ)

structure Worker where
  instanceId : String
  stage : WorkerStage

abbrev DeliveryPool := Pool DeliveryState Worker

/-- The job a step calls its provider for. -/
def sends : WorkerStage → WorkerInput → List JobKey
  | .ready d, .send => [d.job.key]
  | _, _ => []

/-- The job a statement inserts. -/
def inserts (maxAttempts : ℕ) (s : OutboxState) : OutboxAction → List (JobKey × ℕ)
  | .enqueue id owner args =>
    match enqueue s.now id maxAttempts owner s.outbox args with
    | .ok (_, row, true) => [(row.key, row.maxAttempts)]
    | _ => []
  | _ => []

/-- A statement runs. -/
def DeliveryState.perform (d : DeliveryState) (a : OutboxAction) : DeliveryState where
  outbox := outboxStep policy.lease policy.maxAttempts d.outbox a
  calls := d.calls
  enqueued := d.enqueued ++ inserts policy.maxAttempts d.outbox a

/-- One step of a task. -/
def workerAdvance (input : WorkerInput) (d : DeliveryState) (_ : List Worker) (w : Worker) :
    DeliveryState × Worker :=
  let r := workerStep policy redact w.instanceId d.outbox w.stage input
  let d' := match r.1 with
    | some a => d.perform policy a
    | none => d
  ({ d' with calls := d'.calls ++ sends w.stage input }, { w with stage := r.2 })

inductive DeliveryAction where
  | tick (elapsed : ℕ)
  | enqueue (id : Uuid) (owner : EnqueueOwner) (args : EnqueueAlertNotificationArgs)
  | runOnce (instanceId : String) (batchSize : Option ℕ)
  | runMaintenance (instanceId : String) (deliveredRetentionDays failedRetentionDays : ℕ)
  | work (w : ℕ) (input : WorkerInput)

def deliveryStep (p : DeliveryPool) : DeliveryAction → DeliveryPool
  | .tick elapsed => p.update fun d _ => d.perform policy (.tick elapsed)
  | .enqueue id owner args => p.update fun d _ => d.perform policy (.enqueue id owner args)
  | .runOnce instanceId batchSize =>
    p.spawn ⟨instanceId, recoverStale (.runOnce (runOnceLimit policy batchSize))⟩
  | .runMaintenance instanceId delivered failed =>
    p.spawn ⟨instanceId, recoverStale (.runMaintenance delivered failed)⟩
  | .work w input => p.advance (workerAdvance policy redact input) w

/-- The statement a step runs. -/
def statement (p : DeliveryPool) : DeliveryAction → Option OutboxAction
  | .tick elapsed => some (.tick elapsed)
  | .enqueue id owner args => some (.enqueue id owner args)
  | .runOnce _ _ => none
  | .runMaintenance _ _ _ => none
  | .work w input =>
    p.tasks[w]?.bind fun t => (workerStep policy redact t.instanceId p.shared.outbox t.stage input).1

end Step

/-- No job, no call. -/
structure Started (p : DeliveryPool) : Prop where
  outbox : Initial p.shared.outbox
  calls : p.shared.calls = []
  enqueued : p.shared.enqueued = []
  tasks : p.tasks = []

end VeltrixEye.Notifications
