import VeltrixEye.Lib.Pool
import VeltrixEye.Lib.Runs
import VeltrixEye.Lib.Rows
import VeltrixEye.Billing.Contracts

/-!
# Kill switches and their ledger (`execution/kill-switch.ts`, `execution/safety.ts`)

`KillSwitchService.apply` and `emergencyStop` write the same rows and the same ledger in transactions of
their own, under different advisory locks.  What a transaction wrote is its own until it commits; a row it
has locked or written, and a row it has inserted, make other writers wait.
-/

namespace VeltrixEye.Safety

inductive KillSwitchScope where
  | global
  | user
  | strategy
  | execution_profile
  deriving DecidableEq

inductive KillSwitchSource where
  | operator
  | user
  | circuit_breaker

inductive KillSwitchEventAction where
  | activated
  | cleared
  deriving DecidableEq

/-- What a switch row is unique for. -/
structure SwitchKey where
  scope : KillSwitchScope
  targetId : Option String
  deriving DecidableEq

/-- `kill_switches`. -/
structure KillSwitchRow where
  key : SwitchKey
  active : Bool
  reason : Option String
  source : KillSwitchSource
  actorUserId : Option String
  activatedAt : Option ℤ

/-- `kill_switch_events`. -/
structure KillSwitchEvent where
  id : ℕ
  userId : Option String
  actorUserId : Option String
  key : SwitchKey
  action : KillSwitchEventAction
  source : KillSwitchSource
  reason : Option String
  changed : Bool

/-- `users`, as far as the safety controls write it. -/
structure UserRow where
  id : String
  automationEnabled : Bool

/-- `execution_profiles`, as far as the safety controls read and write it. -/
structure ProfileRow where
  id : String
  userId : String
  enabled : Bool

structure StrategyRow where
  id : String
  userId : String

/-- The committed rows, and the next value of the ledger's identity column. -/
structure SafetyTables where
  switches : List KillSwitchRow
  events : List KillSwitchEvent
  nextEventId : ℕ
  users : List UserRow
  profiles : List ProfileRow
  strategies : List StrategyRow

def SafetyTables.row? (d : SafetyTables) (key : SwitchKey) : Option KillSwitchRow :=
  d.switches.find? fun r => r.key = key

/-! ## Calls -/

structure SwitchWrite where
  key : SwitchKey
  active : Bool
  reason : Option String
  source : KillSwitchSource
  actorUserId : Option String
  alwaysRecord : Bool

/-- The direction of a write; every caller sets it from `active`. -/
def SwitchWrite.action (w : SwitchWrite) : KillSwitchEventAction :=
  if w.active then .activated else .cleared

inductive SwitchCall where
  | set (key : SwitchKey) (active : Bool) (reason : Option String) (source : KillSwitchSource)
      (actorUserId : Option String)
  | activate (actorUserId : String) (key : SwitchKey) (reason : String)
  | clear (actorUserId : String) (key : SwitchKey) (reason : String)
  | tripCircuitBreaker (userId reason : String)
  | emergencyStop (userId reason : String)

def SwitchCall.isEmergencyStop : SwitchCall → Bool
  | .emergencyStop _ _ => true
  | _ => false

/-- The owner of a strategy or a profile. -/
def SafetyTables.owner (d : SafetyTables) (scope : KillSwitchScope) (targetId : String) : Option String :=
  match scope with
  | .strategy => (d.strategies.find? fun s => s.id = targetId).map (·.userId)
  | .execution_profile => (d.profiles.find? fun p => p.id = targetId).map (·.userId)
  | _ => none

/-- `assertMutableScope` and `resolveTarget`: the switch a user may write. -/
def resolveTarget (d : SafetyTables) (actorUserId : String) (key : SwitchKey) : Option SwitchKey :=
  match key.scope with
  | .global => none
  | .user =>
    if key.targetId.all fun id => id = "" ∨ id = actorUserId then some ⟨.user, some actorUserId⟩ else none
  | scope =>
    match key.targetId.filter (fun id => id ≠ "") with
    | none => none
    | some id => if d.owner scope id = some actorUserId then some ⟨scope, some id⟩ else none

/-- The scope check of `apply`. -/
def SwitchKey.valid (key : SwitchKey) : Bool :=
  if key.scope = .global then key.targetId.isNone else key.targetId.any fun id => id ≠ ""

/-- The write of a call; none when it throws before its transaction. -/
def SwitchCall.write (d : SafetyTables) : SwitchCall → Option SwitchWrite
  | .set key active reason source actorUserId =>
    if key.valid then some ⟨key, active, reason, source, actorUserId, false⟩ else none
  | .activate actorUserId key reason =>
    (resolveTarget d actorUserId key).map fun key =>
      ⟨key, true, some (Billing.jsTrim reason), .user, some actorUserId, true⟩
  | .clear actorUserId key reason =>
    (resolveTarget d actorUserId key).map fun key =>
      ⟨key, false, some (Billing.jsTrim reason), .user, some actorUserId, true⟩
  | .tripCircuitBreaker userId reason =>
    some ⟨⟨.user, some userId⟩, true, some (String.ofList (reason.toList.take 400)), .circuit_breaker, none,
      false⟩
  | .emergencyStop userId reason =>
    some ⟨⟨.user, some userId⟩, true, some reason, .user, some userId, true⟩

/-- `pg_advisory_xact_lock`: the lock a call takes. -/
inductive AdvisoryLock where
  | killSwitch (key : SwitchKey)
  | emergencyStop (userId : Option String)
  deriving DecidableEq

def SwitchCall.lock (call : SwitchCall) (w : SwitchWrite) : AdvisoryLock :=
  if call.isEmergencyStop then .emergencyStop w.key.targetId else .killSwitch w.key

/-! ## Transactions -/

/-- The statement a transaction runs next. -/
inductive TxStatement where
  /-- `SELECT active … FOR UPDATE`. -/
  | reading
  /-- `INSERT … ON CONFLICT DO NOTHING`. -/
  | inserting
  /-- The `UPDATE` of a real transition. -/
  | updating
  /-- The event row. -/
  | recording
  /-- `emergencyStop`: the automation switch. -/
  | disarming
  /-- `emergencyStop`: the execution profiles. -/
  | disabling
  | committing
  deriving DecidableEq

/-- A transaction: what it has read, and what it has written but not committed. -/
structure SwitchTx where
  write : SwitchWrite
  lock : AdvisoryLock
  /-- `now()`. -/
  now : ℤ
  next : TxStatement
  /-- The row it read is locked. -/
  locked : Bool
  changed : Bool
  row : Option KillSwitchRow
  event : Option KillSwitchEvent
  automationOff : Bool
  disabled : List String

def SwitchTx.key (tx : SwitchTx) : SwitchKey := tx.write.key

/-- The transaction holds the row of its switch. -/
def SwitchTx.holds (tx : SwitchTx) : Bool := tx.locked || tx.row.isSome

inductive SwitchStage where
  | resolving
  | locking (w : SwitchWrite)
  | running (tx : SwitchTx)
  | returned (changed : Bool)
  | threw

structure SwitchTask where
  call : SwitchCall
  stage : SwitchStage

def SwitchTask.tx (t : SwitchTask) : Option SwitchTx :=
  match t.stage with
  | .running tx => some tx
  | _ => none

/-- A transaction of `others` holds the row. -/
def heldByOther (others : List SwitchTask) (key : SwitchKey) : Bool :=
  others.any fun t => t.tx.any fun tx => tx.key = key && tx.holds

/-- A transaction of `others` has inserted the row. -/
def insertedByOther (others : List SwitchTask) (key : SwitchKey) : Bool :=
  others.any fun t => t.tx.any fun tx => tx.key = key && tx.row.isSome

def lockedByOther (others : List SwitchTask) (lock : AdvisoryLock) : Bool :=
  others.any fun t => t.tx.any fun tx => tx.lock = lock

/-- `SELECT … FOR UPDATE` on the user row. -/
def disarmedByOther (others : List SwitchTask) (userId : Option String) : Bool :=
  others.any fun t => t.tx.any fun tx =>
    tx.key.targetId = userId && (tx.next = .disabling || (tx.next = .committing && t.call.isEmergencyStop))

/-- The row the `INSERT` writes; the stamp of an activation is `now()`. -/
def insertedRow (tx : SwitchTx) : KillSwitchRow where
  key := tx.key
  active := tx.write.active
  reason := tx.write.reason
  source := tx.write.source
  actorUserId := tx.write.actorUserId
  activatedAt := if tx.write.active then some tx.now else none

/-- The row the `UPDATE` leaves. -/
def updatedRow (tx : SwitchTx) (row : KillSwitchRow) : KillSwitchRow :=
  { row with
    active := tx.write.active
    reason := tx.write.reason
    source := tx.write.source
    actorUserId := tx.write.actorUserId
    activatedAt := if tx.write.active then some tx.now else row.activatedAt }

/-- `CHECK (reason IS NULL OR char_length(reason) BETWEEN 1 AND 500)`. -/
def validReason (reason : Option String) : Bool := reason.all fun s => 1 ≤ s.length && s.length ≤ 500

def ownerFor (d : SafetyTables) (key : SwitchKey) : Option String :=
  match key.scope with
  | .global => none
  | .user => key.targetId
  | scope => key.targetId.bind (d.owner scope)

def newEvent (d : SafetyTables) (tx : SwitchTx) : KillSwitchEvent where
  id := d.nextEventId
  userId := ownerFor d tx.key
  actorUserId := tx.write.actorUserId
  key := tx.key
  action := tx.write.action
  source := tx.write.source
  reason := tx.write.reason
  changed := tx.changed

/-- Puts a row version in the place of the row with its key. -/
def upsert (row : KillSwitchRow) : List KillSwitchRow → List KillSwitchRow
  | [] => [row]
  | r :: rows => if r.key = row.key then row :: rows else r :: upsert row rows

/-- `COMMIT`. -/
def commitTx (d : SafetyTables) (tx : SwitchTx) : SafetyTables :=
  { d with
    switches := (tx.row.map fun row => upsert row d.switches).getD d.switches
    events := d.events ++ tx.event.toList
    users := if tx.automationOff then
        d.users.map fun u => if some u.id = tx.key.targetId then { u with automationEnabled := false } else u
      else d.users
    profiles := d.profiles.map fun p => if p.id ∈ tx.disabled then { p with enabled := false } else p }

/-- After the event: `emergencyStop` has two more brakes. -/
def afterRecording (call : SwitchCall) : TxStatement :=
  if call.isEmergencyStop then .disarming else .committing

/-- The next statement of a transaction.  A statement that has to wait changes nothing. -/
def txStep (d : SafetyTables) (others : List SwitchTask) (call : SwitchCall) (tx : SwitchTx) :
    SafetyTables × SwitchStage :=
  match tx.next with
  | .reading =>
    match d.row? tx.key with
    | none => (d, .running { tx with changed := tx.write.active, next := .inserting })
    | some row =>
      if heldByOther others tx.key then (d, .running tx)
      else (d, .running { tx with
        locked := true
        changed := row.active != tx.write.active
        next := .inserting })
  | .inserting =>
    match d.row? tx.key with
    | some _ => (d, .running { tx with next := .updating })
    | none =>
      if insertedByOther others tx.key then (d, .running tx)
      else (d, .running { tx with row := some (insertedRow tx), next := .updating })
  | .updating =>
    if tx.changed then
      match tx.row <|> d.row? tx.key with
      | none => (d, .running { tx with next := .recording })
      | some row =>
        if heldByOther others tx.key then (d, .running tx)
        else (d, .running { tx with row := some (updatedRow tx row), next := .recording })
    else (d, .running { tx with next := .recording })
  | .recording =>
    if tx.changed || tx.write.alwaysRecord then
      if validReason tx.write.reason then
        ({ d with nextEventId := d.nextEventId + 1 },
          .running { tx with event := some (newEvent d tx), next := afterRecording call })
      else (d, .threw)
    else (d, .running { tx with next := afterRecording call })
  | .disarming =>
    if disarmedByOther others tx.key.targetId then (d, .running tx)
    else (d, .running { tx with
      automationOff := d.users.any fun u => some u.id = tx.key.targetId && u.automationEnabled
      next := .disabling })
  | .disabling =>
    (d, .running { tx with
      disabled := (d.profiles.filter fun p => some p.userId = tx.key.targetId && p.enabled).map (·.id)
      next := .committing })
  | .committing => (commitTx d tx, .returned tx.changed)

/-- The next statement of a call. -/
def switchStep (now : ℤ) (d : SafetyTables) (others : List SwitchTask) (t : SwitchTask) :
    SafetyTables × SwitchTask :=
  match t.stage with
  | .resolving =>
    match t.call.write d with
    | some w => (d, { t with stage := .locking w })
    | none => (d, { t with stage := .threw })
  | .locking w =>
    if lockedByOther others (t.call.lock w) then (d, t)
    else (d, { t with
      stage := .running ⟨w, t.call.lock w, now, .reading, false, false, none, none, false, []⟩ })
  | .running tx =>
    let r := txStep d others t.call tx
    (r.1, { t with stage := r.2 })
  | .returned _ => (d, t)
  | .threw => (d, t)

/-! ## The system -/

abbrev SafetyPool := Pool SafetyTables SwitchTask

inductive SafetyAction where
  | call (call : SwitchCall)
  | work (w : ℕ) (now : ℤ)
  /-- A failed statement or a lost connection: the transaction rolls back. -/
  | fail (w : ℕ)

def safetyStep (p : SafetyPool) : SafetyAction → SafetyPool
  | .call call => p.spawn ⟨call, .resolving⟩
  | .work w now => p.advance (fun d others t => switchStep now d others t) w
  | .fail w => p.advance (fun d _ t => (d, { t with stage := .threw })) w

/-- The first state: no switch has been written yet. -/
def initialPool (users : List UserRow) (profiles : List ProfileRow) (strategies : List StrategyRow) :
    SafetyPool := ⟨⟨[], [], 0, users, profiles, strategies⟩, []⟩

/-! ## The law of the ledger -/

/-- The events of real transitions of a switch, in id order. -/
def SafetyTables.transitions (d : SafetyTables) (key : SwitchKey) : List KillSwitchEvent :=
  (d.events.filter fun e => e.changed && e.key = key).insertionSort fun a b => a.id ≤ b.id

/-- The direction of the transition at a position. -/
def directionAt (i : ℕ) : KillSwitchEventAction := if i % 2 = 0 then .activated else .cleared

/-- What the row and the ledger of one switch say about each other. -/
structure LedgerTrue (d : SafetyTables) (key : SwitchKey) : Prop where
  one_row : (d.switches.filter fun r => r.key = key).length ≤ 1
  alternate : ∀ i e, (d.transitions key)[i]? = some e → e.action = directionAt i
  row_of_event : d.transitions key ≠ [] → ∃ r ∈ d.switches, r.key = key
  direction : ∀ r ∈ d.switches, r.key = key →
    (r.active = true ↔ ∃ e ∈ (d.transitions key).getLast?, e.action = .activated)
  provenance : ∀ r ∈ d.switches, r.key = key → ∀ e ∈ (d.transitions key).getLast?,
    r.reason = e.reason ∧ r.source = e.source ∧ r.actorUserId = e.actorUserId

/-- A transaction that found the switch in the other position commits its transition only while the switch
    is still in that position. -/
def CommitsCurrent (p : SafetyPool) : SafetyAction → Prop
  | .work w _ => ∀ t ∈ p.tasks[w]?, ∀ tx ∈ t.tx, tx.next = .committing → tx.changed = true →
    ∀ r ∈ p.shared.row? tx.key, r.active ≠ tx.write.active
  | _ => True

end VeltrixEye.Safety
