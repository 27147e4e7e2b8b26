import VeltrixEye.Execution.SwitchLedger
import VeltrixEye.Execution.Entries
import VeltrixEye.Execution.Exits
import VeltrixEye.Billing.Entitlements

/-!
# Stops against entries, exits and the automation switch

Every call of `KillSwitchService` and `emergencyStop` (`safetyStep`), of `setAutomationEnabled`, of
`simulate`, of the composed entry and of the exits, one database statement or transaction at a time.  An
entry reads the switches in plain selects, one for each scope, and fills in a transaction that reads none.

* `EntryStatement`, `EntryCall.program` — the statements of an entry call, in the order they run.
* `stopStep` — the next statement of any call.
-/

namespace VeltrixEye.Safety

open Runs

/-! ## Reads -/

/-- `isActive`, and `isGlobalActive` for the global switch, which the environment may pin. -/
def SafetyTables.isActive (globalForced : Bool) (d : SafetyTables) (key : SwitchKey) : Bool :=
  (globalForced && key = ⟨.global, none⟩) || d.switches.any fun r => r.key = key && r.active

/-- What `readState` joins to a user. -/
structure SubscriptionFacts where
  plan : Billing.UserPlan
  status : Billing.SubscriptionStatus
  provider : Option Billing.BillingProviderId
  activated : Bool
  grantedPlan : Option Billing.UserPlan

def SubscriptionFacts.entitlements (f : SubscriptionFacts) : Billing.Entitlements :=
  Billing.resolveEntitlements f.plan f.status f.provider f.activated f.grantedPlan

def SafetyTables.user? (d : SafetyTables) (userId : String) : Option UserRow :=
  d.users.find? fun u => u.id = userId

/-! ## `setAutomationEnabled` -/

inductive AutomationStage where
  | starting
  /-- `Promise.all`: the two switches are read in either order. -/
  | reading (entitled : Bool) (global user : Option Bool)
  | updating
  | returned
  | threw

structure AutomationTask where
  userId : String
  enabled : Bool
  stage : AutomationStage

/-- The conflict and the entitlement check, once both switches are read. -/
def armedStage (entitled global user : Bool) : AutomationStage :=
  if global || user then .threw else if entitled then .updating else .threw

/-- `UPDATE users SET automation_enabled = $2 WHERE id = $1`. -/
def setAutomation (d : SafetyTables) (userId : String) (enabled : Bool) : SafetyTables :=
  { d with users := d.users.map fun u => if u.id = userId then { u with automationEnabled := enabled } else u }

/-- The next statement of `setAutomationEnabled`.  The update waits for a stop that holds the user row. -/
def automationStep (globalForced : Bool) (facts : SubscriptionFacts) (userFirst : Bool) (d : SafetyTables)
    (switches : List SwitchTask) (t : AutomationTask) : SafetyTables × AutomationTask :=
  match t.stage with
  | .starting =>
    match d.user? t.userId with
    | none => (d, { t with stage := .threw })
    | some _ =>
      if t.enabled then (d, { t with stage := .reading facts.entitlements.canAccessAutomation none none })
      else (d, { t with stage := .updating })
  | .reading entitled (some global) (some user) => (d, { t with stage := armedStage entitled global user })
  | .reading entitled global user =>
    if user.isNone && (userFirst || global.isSome) then
      (d, { t with stage := .reading entitled global (some (d.isActive globalForced ⟨.user, some t.userId⟩)) })
    else (d, { t with stage := .reading entitled (some (d.isActive globalForced ⟨.global, none⟩)) user })
  | .updating =>
    if disarmedByOther switches (some t.userId) then (d, t)
    else (setAutomation d t.userId t.enabled, { t with stage := .returned })
  | .returned => (d, t)
  | .threw => (d, t)

/-! ## Entries -/

inductive EntryStatement where
  /-- The decision and the attempt-1 order. -/
  | start
  /-- The count of failed attempts. -/
  | count
  /-- `readState` of the final safety fence. -/
  | readState
  /-- One select of `anyActive`. -/
  | readSwitch (scope : KillSwitchScope)
  /-- The fence's verdict on the switches. -/
  | checkSwitches
  /-- The gates; for a composed call everything up to the order lookup. -/
  | authorize
  | rederive
  | recount
  /-- The fill transaction. -/
  | submit
  deriving DecidableEq

/-- `anyActive`. -/
def anyActiveReads : List EntryStatement :=
  [.readSwitch .global, .readSwitch .user, .readSwitch .strategy, .readSwitch .execution_profile]

/-- The reads of `runFinalSafetyFence` that a stop can change. -/
def finalSafetyFence : List EntryStatement := .readState :: anyActiveReads ++ [.checkSwitches]

def simulateProgram : List EntryStatement := [.start, .count] ++ anyActiveReads ++ [.authorize, .submit]

/-- The composition runs the fence, the paper service runs it again and then reads for its gates. -/
def composedProgram : List EntryStatement :=
  [.start, .count] ++ finalSafetyFence ++ finalSafetyFence ++ anyActiveReads ++
    [.authorize, .rederive, .recount, .submit]

end VeltrixEye.Safety

namespace VeltrixEye

open Safety

def EntryCall.program (call : EntryCall) : List EntryStatement :=
  match call.composed with
  | none => simulateProgram
  | some _ => composedProgram

/-- A switch with a target; `anyActive` reads none for an empty id. -/
def targetSwitch (scope : KillSwitchScope) (id : String) : Option SwitchKey :=
  if id = "" then none else some ⟨scope, some id⟩

/-- The switch `anyActive` reads for a call under a scope. -/
def EntryCall.switchKey (call : EntryCall) : KillSwitchScope → Option SwitchKey
  | .global => some ⟨.global, none⟩
  | .user => some ⟨.user, some call.ctx.userId⟩
  | .strategy => targetSwitch .strategy call.ctx.setup.strategyId
  | .execution_profile => targetSwitch .execution_profile call.ctx.executionProfileId

/-- The call with the switches it has read. -/
def EntryCall.withSwitches (call : EntryCall) (seen : KillSwitchScope → Bool) : EntryCall :=
  { call with ctx := { call.ctx with
    killSwitches := ⟨seen .global, seen .user, seen .strategy, seen .execution_profile⟩ } }

end VeltrixEye

namespace VeltrixEye.Safety

open Runs

structure EntryTask where
  call : EntryCall
  program : List EntryStatement
  phase : EntryPhase
  seen : KillSwitchScope → Bool

namespace EntryTask

def start (call : EntryCall) : EntryTask := ⟨call, call.program, .idle, fun _ => false⟩

def finished (t : EntryTask) : Bool :=
  match t.phase with
  | .finished _ => true
  | _ => false

/-- The call as its gates see it. -/
def loaded (t : EntryTask) : EntryCall := t.call.withSwitches t.seen

def refuse (t : EntryTask) (message : String) : EntryTask :=
  { t with phase := .finished (.refused (.text message)) }

/-- The read of a scope is behind the call. -/
def hasRead (t : EntryTask) (scope : KillSwitchScope) : Bool := .readSwitch scope ∉ t.program

/-- A switch the call has read for the last time, found open, and not yet used. -/
def relies (t : EntryTask) (key : SwitchKey) : Bool :=
  !t.finished && t.hasRead key.scope && !t.seen key.scope && t.call.switchKey key.scope = some key

/-- One statement of an entry; a statement that is not due does nothing. -/
def exec (env : PaperEnv) (globalForced : Bool) (facts : SubscriptionFacts) (d : SafetyTables) (db : Db)
    (t : EntryTask) : EntryStatement → Db × EntryTask
  | .start =>
    match t.phase with
    | .idle => (db, { t with phase := startPhase env t.call db })
    | _ => (db, t)
  | .count =>
    match t.phase with
    | .counting => (db, { t with phase := .derived (attemptNumber t.call db) })
    | _ => (db, t)
  | .readState =>
    match d.user? t.call.ctx.userId with
    | none => (db, t.refuse "automation state is unavailable at the final safety fence")
    | some user =>
      if !facts.entitlements.canAccessAutomation then
        (db, t.refuse "automation entitlement was revoked before submission")
      else if !user.automationEnabled then (db, t.refuse "automation was disabled before submission")
      else (db, t)
  | .readSwitch scope =>
    (db, { t with seen := Function.update t.seen scope ((t.call.switchKey scope).any (d.isActive globalForced)) })
  | .checkSwitches =>
    if t.seen .global || t.seen .user || t.seen .strategy || t.seen .execution_profile then
      (db, t.refuse "a kill switch was activated before submission")
    else (db, t)
  | .authorize =>
    match t.phase with
    | .derived attempt => (db, { t with phase := authorizePhase env t.loaded db attempt })
    | _ => (db, t)
  | .rederive =>
    match t.phase with
    | .presented attempt => (db, { t with phase := rederivePhase env t.loaded db attempt })
    | _ => (db, t)
  | .recount =>
    match t.phase with
    | .recounting attempt => (db, { t with phase := comparePhase env t.loaded attempt (attemptNumber t.call db) })
    | _ => (db, t)
  | .submit =>
    match t.phase with
    | .authorized auth =>
      ((runFillTransaction env t.call.mode auth t.call.fresh db).2, { t with
        phase := .finished (submitOutcome (runFillTransaction env t.call.mode auth t.call.fresh db).1) })
    | _ => (db, t)

/-- The next statement of an entry that has not ended. -/
def step (env : PaperEnv) (globalForced : Bool) (facts : SubscriptionFacts) (d : SafetyTables) (db : Db)
    (t : EntryTask) : Db × EntryTask :=
  match t.program with
  | [] => (db, t)
  | s :: program =>
    if t.finished then (db, t) else exec env globalForced facts d db { t with program } s

end EntryTask

/-! ## Exits -/

structure ExitTask where
  positionId : String
  attempt : ExitAttempt
  phase : ExitPhase

/-- The next statement of `evaluate` or `close` for one position: no switch is read. -/
def ExitTask.step (env : PaperEnv) (db : Db) (t : ExitTask) : Db × ExitTask :=
  match t.phase with
  | .idle => (db, { t with phase := loadPhase db t.positionId })
  | .loaded row => (db, { t with phase := precheckPhase env t.attempt db row })
  | .authorized auth => ((runFillTransaction env .off auth t.attempt.fresh db).2, { t with phase := .finished })
  | .finished => (db, t)

/-! ## The system -/

structure StopState where
  safety : SafetyPool
  automation : List AutomationTask
  entries : List EntryTask
  exits : List ExitTask
  db : Db

inductive StopAction where
  | safety (a : SafetyAction)
  | setAutomationEnabled (userId : String) (enabled : Bool)
  | automation (w : ℕ) (facts : SubscriptionFacts) (userFirst : Bool)
  | enter (call : EntryCall)
  | entry (w : ℕ) (facts : SubscriptionFacts)
  /-- An entry that is cut off by a failed statement. -/
  | abandon (w : ℕ)
  | exit (positionId : String) (attempt : ExitAttempt)
  | exiting (w : ℕ)

def stopStep (env : PaperEnv) (globalForced : Bool) (s : StopState) : StopAction → StopState
  | .safety a => { s with safety := safetyStep s.safety a }
  | .setAutomationEnabled userId enabled =>
    { s with automation := s.automation ++ [⟨userId, enabled, .starting⟩] }
  | .automation w facts userFirst =>
    match s.automation[w]? with
    | none => s
    | some t =>
      let r := automationStep globalForced facts userFirst s.safety.shared s.safety.tasks t
      { s with safety := { s.safety with shared := r.1 }, automation := s.automation.set w r.2 }
  | .enter call => { s with entries := s.entries ++ [.start call] }
  | .entry w facts =>
    match s.entries[w]? with
    | none => s
    | some t =>
      let r := t.step env globalForced facts s.safety.shared s.db
      { s with db := r.1, entries := s.entries.set w r.2 }
  | .abandon w =>
    match s.entries[w]? with
    | none => s
    | some t => { s with entries := s.entries.set w { t with phase := .finished .abandoned } }
  | .exit positionId attempt => { s with exits := s.exits ++ [⟨positionId, attempt, .idle⟩] }
  | .exiting w =>
    match s.exits[w]? with
    | none => s
    | some t =>
      let r := t.step env s.db
      { s with db := r.1, exits := s.exits.set w r.2 }

/-- The first state: no switch has been written and no call has started. -/
def StopState.initial (users : List UserRow) (profiles : List ProfileRow) (strategies : List StrategyRow)
    (db : Db) : StopState := ⟨initialPool users profiles strategies, [], [], [], db⟩

/-! ## Stop means stop -/

/-- The switches that cover a position: its user's, its profile's and, by its entry order, its
    strategy's. -/
def coverage (db : Db) (p : PositionRow) : List SwitchKey :=
  ⟨.global, none⟩ :: ⟨.user, some p.userId⟩ ::
    ((targetSwitch .execution_profile p.executionProfileId).toList ++
      (db.orders.filter fun o => some o.id = p.openedByOrderId).flatMap fun o =>
        (targetSwitch .strategy o.decision.strategyId).toList)

/-- The action commits a write of a switch. -/
def Commits (p : SafetyPool) (a : SafetyAction) (key : SwitchKey) (active : Bool) : Prop :=
  ∃ (w : ℕ) (now : ℤ) (t : SwitchTask) (tx : SwitchTx), a = .work w now ∧ p.tasks[w]? = some t ∧
    t.tx = some tx ∧ tx.next = .committing ∧ tx.key = key ∧ tx.write.active = active

def CommitsWrite (s : StopState) (a : StopAction) (key : SwitchKey) (active : Bool) : Prop :=
  ∃ b, a = .safety b ∧ Commits s.safety b key active

/-- An exit call that takes its three steps. -/
def exitAlone (env : PaperEnv) (globalForced : Bool) (s : StopState) (positionId : String)
    (attempt : ExitAttempt) : StopState :=
  run (stopStep env globalForced) s [.exit positionId attempt, .exiting s.exits.length,
    .exiting s.exits.length, .exiting s.exits.length]

/-- What a stop promises of one step. -/
structure StopHeld (env : PaperEnv) (globalForced : Bool) (s : StopState) (a : StopAction) (s' : StopState) :
    Prop where
  /-- A committed activation arms its switch. -/
  armed : ∀ key, CommitsWrite s a key true → s'.safety.shared.isActive globalForced key = true
  /-- Until a committed clear of that switch. -/
  until_clear : ∀ key, s.safety.shared.isActive globalForced key = true →
    s'.safety.shared.isActive globalForced key = false → CommitsWrite s a key false
  automation_off : ∀ u' ∈ s'.safety.shared.users, u'.automationEnabled = true →
    ∃ u ∈ s.safety.shared.users, u.id = u'.id ∧ u.automationEnabled = true
  no_entry : ∀ p ∈ s'.db.positions, (∀ q ∈ s.db.positions, q.id ≠ p.id) →
    ∀ key ∈ coverage s'.db p, s.safety.shared.isActive globalForced key = false
  /-- An exit ends as it does where there are no switches at all. -/
  exits_possible : ∀ positionId attempt,
    (exitAlone env globalForced s' positionId attempt).db =
      (run (exitStep env positionId fun _ => attempt) (.start s'.db) [.load 0, .precheck 0, .submit 0]).db

/-- No activation of a switch is committed under an entry that relies on the switch. -/
def NoneOvertaken (s : StopState) : StopAction → Prop
  | .safety (.work w _) => ∀ t ∈ s.safety.tasks[w]?, ∀ tx ∈ t.tx, tx.next = .committing →
    tx.write.active = true → ∀ e ∈ s.entries, e.relies tx.key = false
  | _ => True

end VeltrixEye.Safety
