import VeltrixEye.Lib.Numerals
import VeltrixEye.Lib.SmallUuid
import VeltrixEye.Mutations.Boundary

/-!
# Any number of workers on one mutation ledger

A worker runs one operation of the ledger, or `submitOrderThroughGate9`, at a time.  One step of a
worker is one read or one committed transaction, so that the steps of different workers interleave
in every order.  The reads of a transaction are steps of their own: they see what is committed when
they are made.  Advisory locks are kept from the step that takes them to the end of the transaction;
a step that needs a lock another worker holds does nothing.  Any transaction may fail, before its
COMMIT or after it (the acknowledgement is lost), and a worker may crash between any two steps.

Beside the tables the state keeps a record no operation reads: the barriers issued, the consumptions
that were committed (their position is the serial number of the execution), the provider calls, the
submits the provider accepted, and the retries with the number of intents committed when their
transaction began.
-/

namespace VeltrixEye

/-! ## Workers -/

/-- What happens to the COMMIT of a step. -/
inductive Fault where
  | none
  /-- The transaction is rolled back. -/
  | refused
  /-- The transaction is committed, and the client sees an error. -/
  | unacknowledged
  deriving DecidableEq

/-- Whose barrier it is: a direct caller of the ledger gets it back, the canonical boundary goes on. -/
inductive SubmitCaller where
  | direct
  | gate9

/-- What an operation returns or throws. -/
inductive OperationResult where
  | authorized (b : SubmitBarrier)
  | duplicate (intent : IntentRow)
  | threw (e : MutationError)
  | executed (result : MutationExecutionResult)
  | observed (resolution : Option ProviderResolution)
  | resolved
  | recovered (intentIds : List Uuid)
  | canonical (result : CanonicalSubmitResult)

inductive SubmitStage where
  /-- In the transaction, the locks held. -/
  | opened
  /-- The reads found nothing in the way. -/
  | checked
  /-- Rolled back. -/
  | failed (e : MutationError)

inductive RetryStage where
  /-- The parent was re-read under the lineage lock. -/
  | parent
  | identity
  | lineage
  /-- The cited decision and authorization were found fresh. -/
  | checked

inductive ExecuteStage where
  /-- The barrier is consumed, the provider not called yet. -/
  | consumed
  /-- The provider call runs; `accepted` says whether the provider accepted the submit. -/
  | calling (accepted : Bool)
  | returned (n : NormalizedSubmitOutcome)
  | receipted (n : NormalizedSubmitOutcome) (receiptId : Option Uuid)
  /-- In the transaction of `applyOutcome`, the intent read. -/
  | applying (n : NormalizedSubmitOutcome) (receiptId : Option Uuid) (intent : IntentRow)
  | commitFailed (n : NormalizedSubmitOutcome) (receiptId : Option Uuid)

inductive Task where
  | idle
  | done (result : OperationResult)
  | submit (stage : SubmitStage) (caller : SubmitCaller) (input : SubmitIntentInput)
      (identity : SubmitIdentity)
  | retryLocated (input : RetryIntentInput) (identity : SubmitIdentity) (root : Uuid)
  | retry (stage : RetryStage) (input : RetryIntentInput) (identity : SubmitIdentity)
      (root : Uuid) (parent : IntentRow) (began : ℕ)
  | retryFailed (input : RetryIntentInput) (identity : SubmitIdentity) (orderId : Option String)
      (e : MutationError)
  /-- `submitOnce` of the boundary has its barrier. -/
  | holding (b : SubmitBarrier)
  /-- The boundary resolved onto an existing intent. -/
  | duplicated (intent : IntentRow)
  | execute (stage : ExecuteStage) (caller : SubmitCaller) (b : SubmitBarrier) (serial : ℕ)
  | observe (intent : IntentRow) (input : ReconciliationObservationInput)
  | resolve (intent : IntentRow) (input : OperatorResolutionInput)
  | recover (queue : List IntentRow) (fresh : Option IntentRow) (recovered : List Uuid)

/-- A worker that may start an operation. -/
def Task.ready : Task → Bool
  | .idle => true
  | .done _ => true
  | _ => false

structure Worker where
  task : Task
  crashed : Bool

structure MutationState where
  db : MutationDb
  workers : ℕ → Worker
  locks : List (ℕ × String)
  issued : List SubmitBarrier
  consumed : List SubmitBarrier
  calls : List ℕ
  accepted : List ℕ
  retries : List (Uuid × ℕ)

def MutationState.empty : MutationState where
  db := .empty
  workers := fun _ => ⟨.idle, false⟩
  locks := []
  issued := []
  consumed := []
  calls := []
  accepted := []
  retries := []

namespace MutationState

def set (s : MutationState) (w : ℕ) (task : Task) : MutationState :=
  { s with workers := Function.update s.workers w ⟨task, false⟩ }

/-- The end of a transaction. -/
def release (s : MutationState) (w : ℕ) : MutationState :=
  { s with locks := s.locks.filter (fun l => l.1 != w) }

def finish (s : MutationState) (w : ℕ) (task : Task) : MutationState := (s.release w).set w task

def acquire (s : MutationState) (w : ℕ) (keys : List String) : MutationState :=
  { s with locks := s.locks ++ keys.map fun k => (w, k) }

/-- Another worker holds one of the locks. -/
def blocked (s : MutationState) (w : ℕ) (keys : List String) : Bool :=
  s.locks.any fun l => l.1 != w && keys.contains l.2

/-- The tables after a step whose transaction was `r`. -/
def committed (s : MutationState) (fault : Fault) (db : MutationDb) : MutationState :=
  if fault = .refused then s else { s with db }

end MutationState

/-! ## Lock keys -/

def identityLockKey (executionProfileId clientOrderId : String) : String :=
  executionProfileId ++ ":" ++ clientOrderId

def orderLockKey (executionProfileId orderId : String) : String :=
  "order:" ++ executionProfileId ++ ":" ++ orderId

def lineageLockKey (executionProfileId rootIntentId : String) : String :=
  "lineage:" ++ executionProfileId ++ ":" ++ rootIntentId

def intentLockKey (intentId : String) : String := "intent:" ++ intentId

/-- The order and identity locks of a preparation. -/
def preparationLocks (executionProfileId : String) (orderId : Option String)
    (clientOrderId : String) : List String :=
  (orderId.map (orderLockKey executionProfileId)).toList ++
    [identityLockKey executionProfileId clientOrderId]

/-! ## What a caller does next -/

def SubmitCaller.authorized (b : SubmitBarrier) : SubmitCaller → Task
  | .direct => .done (.authorized b)
  | .gate9 => .holding b

def SubmitCaller.duplicate (intent : IntentRow) : SubmitCaller → Task
  | .direct => .done (.duplicate intent)
  | .gate9 => .duplicated intent

def SubmitCaller.threw (e : MutationError) : SubmitCaller → Task
  | .direct => .done (.threw e)
  | .gate9 => .done (.canonical (projectError e))

def SubmitCaller.executed (result : MutationExecutionResult) : SubmitCaller → Task
  | .direct => .done (.executed result)
  | .gate9 => .done (.canonical (projectSubmitted result))

/-! ## Steps -/

section Step

variable (env : MutationEnv)

/-- `assertSubmitIdentity` and `assertBinding`. -/
def validateInput (input : SubmitIntentInput) : Except MutationError SubmitIdentity := do
  let identity ← assertSubmitIdentity env input
  assertBinding input
  return identity

/-- The start of `prepareSubmit`: validation, BEGIN and the locks. -/
def startSubmit (s : MutationState) (w : ℕ) (caller : SubmitCaller) (input : SubmitIntentInput) :
    MutationState :=
  match validateInput env input with
  | .error e => s.set w (caller.threw e)
  | .ok identity =>
    let keys := preparationLocks input.executionProfileId input.orderId input.clientOrderId
    if s.blocked w keys then s
    else (s.acquire w keys).set w (.submit .opened caller input identity)

def advanceSubmit (s : MutationState) (w : ℕ) (caller : SubmitCaller) (input : SubmitIntentInput)
    (identity : SubmitIdentity) (values : StepValues) (fault : Fault) : SubmitStage → MutationState
  | .opened =>
    match prepareSubmitReads input identity s.db with
    | .error e => s.finish w (.submit (.failed e) caller input identity)
    | .ok (some existing) => s.finish w (caller.duplicate existing)
    | .ok none => s.set w (.submit .checked caller input identity)
  | .checked =>
    match prepareSubmitWrites env input identity values s.db with
    | .error e => s.finish w (.submit (.failed e) caller input identity)
    | .ok (db, b) =>
      if fault = .none then
        { s with db, issued := s.issued ++ [b] }.finish w (caller.authorized b)
      else
        (s.committed fault db).finish w (.submit (.failed (.database .failed)) caller input identity)
  | .failed e =>
    match preparationError s.db (Uuid.ofText? input.executionProfileId)
        (input.orderId.bind Uuid.ofText?) identity
        "Durable pre-provider persistence failed; no provider call is permitted" e with
    | .ok existing => s.set w (caller.duplicate existing)
    | .error e => s.set w (caller.threw e)

/-- The start of `prepareRetry`: validation and the preliminary read. -/
def startRetry (s : MutationState) (w : ℕ) (input : RetryIntentInput) : MutationState :=
  match validateInput env input.base with
  | .error e => s.set w (.done (.threw e))
  | .ok identity =>
    match retryLocate input s.db with
    | .error e => s.set w (.done (.threw e))
    | .ok root => s.set w (.retryLocated input identity root)

/-- BEGIN, the lineage lock and the parent. -/
def openRetry (s : MutationState) (w : ℕ) (input : RetryIntentInput) (identity : SubmitIdentity)
    (root : Uuid) : MutationState :=
  let keys := [lineageLockKey input.base.executionProfileId root.text]
  if s.blocked w keys then s
  else
    match retryParent input root s.db with
    | .error e => s.finish w (.retryFailed input identity input.base.orderId e)
    | .ok parent =>
      (s.acquire w keys).set w (.retry .parent input identity root parent s.db.intents.length)

def advanceRetry (s : MutationState) (w : ℕ) (input : RetryIntentInput) (identity : SubmitIdentity)
    (root : Uuid) (parent : IntentRow) (began : ℕ) (values : StepValues) (fault : Fault) :
    RetryStage → MutationState
  | .parent =>
    let keys := preparationLocks input.base.executionProfileId (retryOrderText input parent)
      input.base.clientOrderId
    if s.blocked w keys then s
    else
      match retryIdentityReads input identity parent s.db with
      | .error e => s.finish w (.retryFailed input identity (retryOrderText input parent) e)
      | .ok (some clash) => s.finish w (.done (.duplicate clash))
      | .ok none => (s.acquire w keys).set w (.retry .identity input identity root parent began)
  | .identity =>
    match retryLineageReads input root parent s.db with
    | .error e => s.finish w (.retryFailed input identity (retryOrderText input parent) e)
    | .ok () => s.set w (.retry .lineage input identity root parent began)
  | .lineage =>
    match assertFreshRetryAuthorization input values s.db with
    | .error e => s.finish w (.retryFailed input identity (retryOrderText input parent) e)
    | .ok () => s.set w (.retry .checked input identity root parent began)
  | .checked =>
    match prepareRetryWrites env input identity parent values s.db with
    | .error e => s.finish w (.retryFailed input identity (retryOrderText input parent) e)
    | .ok (db, b) =>
      if fault = .none then
        { s with
          db
          issued := s.issued ++ [b]
          retries := s.retries ++ [(values.intentId, began)] }.finish w (.done (.authorized b))
      else if fault = .unacknowledged then
        { s with db, retries := s.retries ++ [(values.intentId, began)] }.finish w
          (.retryFailed input identity (retryOrderText input parent) (.database .failed))
      else
        s.finish w (.retryFailed input identity (retryOrderText input parent) (.database .failed))

/-- The report of a failed retry. -/
def reportRetry (s : MutationState) (w : ℕ) (input : RetryIntentInput) (identity : SubmitIdentity)
    (orderId : Option String) (e : MutationError) : MutationState :=
  match retryError s.db (Uuid.ofText? input.base.executionProfileId) (orderId.bind Uuid.ofText?)
      identity e with
  | .ok existing => s.set w (.done (.duplicate existing))
  | .error e => s.set w (.done (.threw e))

/-- The consumption of a barrier. -/
def consume (s : MutationState) (w : ℕ) (caller : SubmitCaller) (b : SubmitBarrier) (fault : Fault) :
    MutationState :=
  if s.blocked w [intentLockKey b.intentId] then s
  else
    match consumeSubmitBarrier b s.db with
    | .error e => s.set w (caller.threw e)
    | .ok db =>
      match fault with
      | .none =>
        { s with db, consumed := s.consumed ++ [b] }.set w
          (.execute .consumed caller b s.consumed.length)
      | .unacknowledged =>
        { s with db, consumed := s.consumed ++ [b] }.set w
          (caller.threw (.mutation .preCallPersistenceFailed
            "Durable barrier consumption failed; no provider call is permitted"))
      | .refused =>
        s.set w (caller.threw (.mutation .preCallPersistenceFailed
          "Durable barrier consumption failed; no provider call is permitted"))

def advanceExecute (s : MutationState) (w : ℕ) (caller : SubmitCaller) (b : SubmitBarrier)
    (serial : ℕ) (values : StepValues) (reply : ProviderReply) (fault : Fault) :
    ExecuteStage → MutationState
  | .consumed =>
    { s with calls := s.calls ++ [serial] }.set w (.execute (.calling false) caller b serial)
  | .calling _ =>
    s.set w (.execute (.returned (normalizeReply b values.now reply)) caller b serial)
  | .returned n =>
    let lost : Task :=
      .execute (.receipted (.failed .receiptPersistenceFailure) none) caller b serial
    match persistReceipt b n values s.db with
    | .error _ => s.set w lost
    | .ok db =>
      if fault = .none then
        { s with db }.set w (.execute (.receipted n (some values.rowId)) caller b serial)
      else (s.committed fault db).set w lost
  | .receipted n receiptId =>
    if s.blocked w [intentLockKey b.intentId] then s
    else
      match applyOutcomeRead b s.db with
      | .error _ => s.set w (.execute (.commitFailed n receiptId) caller b serial)
      | .ok intent =>
        if fault = .none then
          (s.acquire w [intentLockKey b.intentId]).set w
            (.execute (.applying n receiptId intent) caller b serial)
        else s.set w (.execute (.commitFailed n receiptId) caller b serial)
  | .applying n receiptId intent =>
    match transitionIntent intent (outcomeTransition n) values.now s.db with
    | .error _ => s.finish w (.execute (.commitFailed n receiptId) caller b serial)
    | .ok (db, reservationState) =>
      if fault = .none then
        { s with db }.finish w (caller.executed (executionResult b n receiptId
          (outcomeTransition n).toState (some reservationState)
          (if receiptId.isNone then some .receiptPersistenceFailure else none)))
      else (s.committed fault db).finish w (.execute (.commitFailed n receiptId) caller b serial)
  | .commitFailed n receiptId =>
    if fault = .none then s.set w (caller.executed (commitFailedResult b n receiptId s.db))
    else s.set w (caller.threw (.database .failed))

/-- The transaction of `recordReconciliationObservation`. -/
def advanceObserve (s : MutationState) (w : ℕ) (intent : IntentRow)
    (input : ReconciliationObservationInput) (values : StepValues) (fault : Fault) : MutationState :=
  if s.blocked w [intentLockKey intent.id.text] then s
  else
    match observationWrites intent input values s.db with
    | .error e => s.set w (.done (.threw e))
    | .ok (db, resolution) =>
      (s.committed fault db).set w
        (.done (if fault = .none then .observed resolution else .threw (.database .failed)))

/-- The transaction of `resolveByOperator`. -/
def advanceResolve (s : MutationState) (w : ℕ) (intent : IntentRow) (input : OperatorResolutionInput)
    (values : StepValues) (fault : Fault) : MutationState :=
  if s.blocked w [intentLockKey intent.id.text] then s
  else
    match resolutionWrites intent input values s.db with
    | .error e => s.set w (.done (.threw e))
    | .ok db =>
      (s.committed fault db).set w
        (.done (if fault = .none then .resolved else .threw (.database .failed)))

/-- The loop of `recoverAfterRestart`: the next intent re-read under its lock, or its transition. -/
def advanceRecover (s : MutationState) (w : ℕ) (queue : List IntentRow) (recovered : List Uuid)
    (values : StepValues) (fault : Fault) : Option IntentRow → MutationState
  | none =>
    match queue with
    | [] => s.set w (.done (.recovered recovered))
    | next :: rest =>
      if s.blocked w [intentLockKey next.id.text] then s
      else
        match s.db.getIntent next.id with
        | none => s.set w (.recover rest none recovered)
        | some fresh =>
          if fresh.status = .submitting then
            (s.acquire w [intentLockKey next.id.text]).set w (.recover rest (some fresh) recovered)
          else s.set w (.recover rest none recovered)
  | some fresh =>
    match transitionIntent fresh recoveryTransition values.now s.db with
    | .error _ => s.finish w (.recover queue none recovered)
    | .ok (db, _) =>
      (s.committed fault db).finish w (.recover queue none
        (if fault = .none then recovered ++ [fresh.id] else recovered))

/-- The next step of a worker's task. -/
def advance (s : MutationState) (w : ℕ) (values : StepValues) (reply : ProviderReply)
    (fault : Fault) : MutationState :=
  match (s.workers w).task with
  | .idle => s
  | .done _ => s
  | .submit stage caller input identity =>
    advanceSubmit env s w caller input identity values fault stage
  | .retryLocated input identity root => openRetry s w input identity root
  | .retry stage input identity root parent began =>
    advanceRetry env s w input identity root parent began values fault stage
  | .retryFailed input identity orderId e => reportRetry s w input identity orderId e
  | .holding b => consume s w .gate9 b fault
  | .duplicated intent =>
    s.set w (.done (.canonical (projectDuplicate intent (getReceipt s.db intent.id))))
  | .execute stage caller b serial => advanceExecute s w caller b serial values reply fault stage
  | .observe intent input => advanceObserve s w intent input values fault
  | .resolve intent input => advanceResolve s w intent input values fault
  | .recover queue fresh recovered => advanceRecover s w queue recovered values fault fresh

inductive MutationAction where
  | prepareSubmit (w : ℕ) (input : SubmitIntentInput)
  | submitOrderThroughGate9 (w : ℕ) (input : CanonicalSubmitInput)
  | prepareRetry (w : ℕ) (input : RetryIntentInput)
  | executeSubmit (w : ℕ) (b : SubmitBarrier) (fault : Fault)
  | recordReconciliationObservation (w : ℕ) (input : ReconciliationObservationInput)
  | resolveByOperator (w : ℕ) (input : OperatorResolutionInput)
  | recoverAfterRestart (w : ℕ) (profile : Option Uuid) (excluded : List Uuid)
  | advance (w : ℕ) (values : StepValues) (reply : ProviderReply) (fault : Fault)
  /-- The provider accepts the submit of the call that runs. -/
  | accept (w : ℕ)
  | crash (w : ℕ)

def MutationAction.worker : MutationAction → ℕ
  | .prepareSubmit w _ => w
  | .submitOrderThroughGate9 w _ => w
  | .prepareRetry w _ => w
  | .executeSubmit w _ _ => w
  | .recordReconciliationObservation w _ => w
  | .resolveByOperator w _ => w
  | .recoverAfterRestart w _ _ => w
  | .advance w _ _ _ => w
  | .accept w => w
  | .crash w => w

/-- The start of an operation. -/
def start (s : MutationState) : MutationAction → MutationState
  | .prepareSubmit w input => startSubmit env s w .direct input
  | .submitOrderThroughGate9 w input =>
    match canonicalIntentInput input with
    | .error result => s.set w (.done (.canonical result))
    | .ok intentInput => startSubmit env s w .gate9 intentInput
  | .prepareRetry w input => startRetry env s w input
  | .executeSubmit w b fault => consume s w .direct b fault
  | .recordReconciliationObservation w input =>
    match observationRead input s.db with
    | .error e => s.set w (.done (.threw e))
    | .ok intent => s.set w (.observe intent input)
  | .resolveByOperator w input =>
    match resolutionRead input s.db with
    | .error e => s.set w (.done (.threw e))
    | .ok intent => s.set w (.resolve intent input)
  | .recoverAfterRestart w profile excluded =>
    s.set w (.recover (recoveryCandidates profile excluded s.db) none [])
  | _ => s

/-- The provider accepts a submit at most once a call. -/
def acceptCall (s : MutationState) (w : ℕ) : MutationState :=
  match s.workers w with
  | ⟨.execute (.calling false) caller b serial, crashed⟩ =>
    { s with
      workers := Function.update s.workers w ⟨.execute (.calling true) caller b serial, crashed⟩
      accepted := s.accepted ++ [serial] }
  | _ => s

/-- One step.  A crashed worker makes none, but the call it made may still be accepted. -/
def mutationStep (s : MutationState) (action : MutationAction) : MutationState :=
  match action with
  | .accept w => acceptCall s w
  | .crash w =>
    { s.release w with workers := Function.update s.workers w ⟨(s.workers w).task, true⟩ }
  | .advance w values reply fault =>
    if (s.workers w).crashed then s else advance env s w values reply fault
  | action =>
    if (s.workers action.worker).crashed || !(s.workers action.worker).task.ready then s
    else start env s action

end Step

/-! ## The inputs of small runs

User 1 of profile 2 works on the managed order 3; mutation `n` has the client order id, idempotency
key and request hash that end in `n`. -/

def hexCharOf (n : Fin 16) : Char := "0123456789abcdef".toList.getD n '0'

theorem normalizeUuid_printed (n : Fin 16) :
    normalizeUuid (printUuid (List.replicate 31 '0' ++ [hexCharOf n])) =
      some (printUuid (List.replicate 31 '0' ++ [hexCharOf n])) :=
  normalizeUuid_ofDigit n

/-- The `uuid` that ends in a digit. -/
def uuidOf (n : Fin 16) : Uuid :=
  ⟨printUuid (List.replicate 31 '0' ++ [hexCharOf n]), normalizeUuid_printed n⟩

/-- A digest that ends the client order id with zeros. -/
def sampleLedgerEnv : MutationEnv where
  digest
    | .object (("clientOrderId", .string c) :: _) =>
      String.ofList (c.toList.drop 3 ++ List.replicate 40 '0')
    | _ => String.ofList (List.replicate 64 '0')
  numericIn text := if text = "0" then some 0 else if text = "50" then some 50 else none

def sampleInput (n : Fin 16) (orderId : Option Uuid) : SubmitIntentInput where
  userId := (uuidOf 1).text
  executionProfileId := (uuidOf 2).text
  orderId := orderId.map (·.text)
  clientOrderId := String.ofList ("ve-".toList ++ List.replicate 23 '0' ++ [hexCharOf n])
  idempotencyKey := String.ofList (List.replicate 63 '0' ++ [hexCharOf n])
  canonicalRequest := .null
  providerSlug := "mt5"
  environment := .demo
  accountRef := some "demo-1"
  brokerServerRef := none
  credentialRef := none
  credentialFingerprint := none
  riskDecisionId := none
  riskReservationId := none
  symbol := some "EURUSD"
  direction := some .long
  monetaryRisk := some "50"
  riskExpiresAt := none

/-- The values of a step: the intent it may insert is `n`. -/
def sampleValues (n : Fin 16) : StepValues :=
  ⟨uuidOf n, uuidOf n, 0, some (uuidOf 1, some (uuidOf 2))⟩

open Numerals in
/-- The barrier of mutation `n`, its first attempt or a retry. -/
def sampleBarrier (n : Fin 16) (attempt : JsNumber) : SubmitBarrier where
  intentId := (uuidOf n).text
  clientOrderId := (sampleInput n none).clientOrderId
  idempotencyKey := (sampleInput n none).idempotencyKey
  requestHash := String.ofList (List.replicate 23 '0' ++ [hexCharOf n] ++ List.replicate 40 '0')
  attempt
  stateVersion := 2
  userId := (uuidOf 1).text
  executionProfileId := (uuidOf 2).text
  providerSlug := "mt5"
  environment := "demo"
  accountRef := some "demo-1"

/-- The response of a provider that accepts or rejects mutation `n`. -/
def sampleResponse (n : Fin 16) (status : String) : ProviderReply :=
  .returned (.object [("clientOrderId", .string (sampleInput n none).clientOrderId),
    ("providerOrderId", .string "T-1"), ("status", .string status)])

/-- The next step of a worker, without a fault. -/
def next (w : ℕ) (n : Fin 16) : MutationAction := .advance w (sampleValues n) (.threw none) .none

/-- Worker `w` prepares mutation `n` of an order. -/
def submits (w : ℕ) (n : Fin 16) (orderId : Option Uuid) : List MutationAction :=
  [.prepareSubmit w (sampleInput n orderId), next w n, next w n]

end VeltrixEye
