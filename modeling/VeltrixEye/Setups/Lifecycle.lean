import VeltrixEye.Lib.Pool
import VeltrixEye.Lib.Uuid

/-!
# Setups, their lifecycle and their scores (`setups/service.ts`, `setups/machine.ts`, `scoring/service.ts`)

Detection inserts a setup with its first event, a transition changes its state and records the step,
scoring inserts a score and refreshes `setups.quality_score`.  A call is taken statement by statement;
a table holds committed rows only, what an open transaction has written or locked meanwhile is a
`RowLock`, and a statement that needs a conflicting one waits.
-/

namespace VeltrixEye.Setups

/-! ## The state machine -/

inductive SetupState where
  | developing
  | watching
  | almost_ready
  | confirmed
  | triggered
  | invalidated
  | expired
  | completed
  deriving DecidableEq

/-- `SETUP_TRANSITIONS`. -/
def setupTransitions : SetupState → List SetupState
  | .developing => [.watching, .invalidated, .expired]
  | .watching => [.almost_ready, .invalidated, .expired]
  | .almost_ready => [.confirmed, .invalidated, .expired]
  | .confirmed => [.triggered, .invalidated, .expired]
  | .triggered => [.completed, .invalidated, .expired]
  | .completed => []
  | .invalidated => []
  | .expired => []

/-- `SETUP_TERMINAL_STATES`. -/
def isTerminalState : SetupState → Bool
  | .completed => true
  | .invalidated => true
  | .expired => true
  | _ => false

theorem setupTransitions_eq_nil_iff (s : SetupState) :
    setupTransitions s = [] ↔ isTerminalState s = true := by
  cases s <;> simp [setupTransitions, isTerminalState]

def SETUP_INITIAL_STATE : SetupState := .confirmed

/-- `assertTransition`, for two different states. -/
def allowedTransition (source target : SetupState) : Bool := target ∈ setupTransitions source

/-! ## Rows -/

inductive SetupDirection where
  | long
  | short
  deriving DecidableEq

/-- The unique key of a detection. -/
structure DetectionKey where
  strategyVersionId : Uuid
  instrumentId : Uuid
  direction : SetupDirection
  asOfMs : ℤ
  deriving DecidableEq

/-- `setups`. -/
structure SetupRow where
  id : Uuid
  key : DetectionKey
  state : SetupState
  qualityScore : Option ℕ
  deriving DecidableEq

/-- `setup_state_events`. -/
structure EventRow where
  id : ℕ
  setupId : Uuid
  fromState : Option SetupState
  toState : SetupState
  reason : Option String
  createdAt : ℤ
  deriving DecidableEq

/-- The unique key of a score. -/
structure ScoreKey where
  setupId : Uuid
  engineVersion : String
  asOfMs : ℤ
  deriving DecidableEq

inductive ScoreGrade where
  | «A+»
  | A
  | B
  | C
  | ignore
  deriving DecidableEq

/-- `setup_scores`. -/
structure ScoreRow where
  id : ℕ
  key : ScoreKey
  total : ℕ
  grade : ScoreGrade
  deriving DecidableEq

def M5_SCORE_ENGINE_VERSION : String := "m5-quality-score-3"

/-- The tables, rows in the order they were committed in, and the two identity sequences (an id that
    a transaction drew is never drawn again). -/
structure SetupTables where
  setups : List SetupRow
  events : List EventRow
  scores : List ScoreRow
  nextEventId : ℕ
  nextScoreId : ℕ
  deriving DecidableEq

namespace SetupTables

variable (d : SetupTables)

/-- The row of an id, if `owner` maps its version to the user. -/
def readOwnedSetup (owner : Uuid → Option Uuid) (userId setupId : Uuid) : Option SetupRow :=
  d.setups.find? fun r => r.id = setupId ∧ owner r.key.strategyVersionId = some userId

def readOwnedSetupByKey (owner : Uuid → Option Uuid) (userId : Uuid) (key : DetectionKey) :
    Option SetupRow :=
  d.setups.find? fun r => r.key = key ∧ owner r.key.strategyVersionId = some userId

def readScore (key : ScoreKey) : Option ScoreRow := d.scores.find? fun s => s.key = key

/-- The `setups` rows after `UPDATE setups SET state`. -/
def setState (setupId : Uuid) (state : SetupState) : List SetupRow :=
  d.setups.map fun r => if r.id = setupId then { r with state := state } else r

/-- The `setups` rows after `UPDATE setups SET quality_score`. -/
def setQuality (setupId : Uuid) (total : ℕ) : List SetupRow :=
  d.setups.map fun r => if r.id = setupId then { r with qualityScore := some total } else r

/-- A setup's events in id order. -/
def eventsOf (setupId : Uuid) : List EventRow :=
  (d.events.filter fun e => e.setupId = setupId).insertionSort fun a b => a.id ≤ b.id

end SetupTables

/-! ## Locks -/

/-- What an open transaction holds or a statement asks for. -/
inductive RowLock where
  /-- A `setups` row `FOR UPDATE`. -/
  | setupUpdate (id : Uuid)
  /-- A `setups` row changed by an `UPDATE` of no key column. -/
  | setupNoKeyUpdate (id : Uuid)
  /-- A `setups` row referred to by an inserted row. -/
  | setupKeyShare (id : Uuid)
  /-- The primary key of a setup that is not committed. -/
  | setupId (id : Uuid)
  /-- The detection key of a setup that is not committed. -/
  | detectionKey (key : DetectionKey)
  /-- The key of a score that is not committed. -/
  | scoreKey (key : ScoreKey)

/-- Two locks that different transactions cannot hold together. -/
def RowLock.conflicts : RowLock → RowLock → Bool
  | .setupUpdate a, .setupUpdate b => a = b
  | .setupUpdate a, .setupNoKeyUpdate b => a = b
  | .setupNoKeyUpdate a, .setupUpdate b => a = b
  | .setupUpdate a, .setupKeyShare b => a = b
  | .setupKeyShare a, .setupUpdate b => a = b
  | .setupNoKeyUpdate a, .setupNoKeyUpdate b => a = b
  | .setupId a, .setupId b => a = b
  | .detectionKey a, .detectionKey b => a = b
  | .scoreKey a, .scoreKey b => a = b
  | _, _ => false

theorem RowLock.conflicts_comm (a b : RowLock) : a.conflicts b = b.conflicts a := by
  cases a <;> cases b <;> simp only [RowLock.conflicts, eq_comm]

/-! ## Calls -/

inductive SetupError where
  | notFound
  | invalidInput
  | forbidden
  | internal
  | database

inductive DetectStage where
  | looking
  /-- The transaction is open; the saved-setups limit is about to be checked. -/
  | entitling
  | inserting
  /-- The setup is inserted; its first event is not. -/
  | recording (row : SetupRow)
  | committing (row : SetupRow) (event : EventRow)
  | rereading (created : Bool)
  | detected (setup : SetupRow) (created : Bool)
  | failed (error : SetupError)

/-- `insertOrGetSetup`, for one direction that passed the evaluation. -/
structure DetectCall where
  userId : Uuid
  key : DetectionKey
  stage : DetectStage

inductive TransitionStage where
  | locking
  /-- The row is locked; `source` is the state it was read in. -/
  | updating (source : SetupState)
  | recording (source : SetupState)
  | committing (source : SetupState) (event : EventRow)
  | rereading (event : EventRow)
  | transitioned (setup : SetupRow) (event : Option EventRow)
  | failed (error : SetupError)

/-- `transitionSetup`. -/
structure TransitionCall where
  userId : Uuid
  setupId : Uuid
  toState : SetupState
  reason : Option String
  asOf : ℤ
  stage : TransitionStage

inductive ScoreStage where
  | reading
  | checking (row : SetupRow) (asOfMs : ℤ)
  /-- No score is stored for the anchor; the setup is about to be evaluated. -/
  | evaluating (row : SetupRow) (asOfMs : ℤ)
  | inserting (row : SetupRow) (asOfMs : ℤ) (total : ℕ) (grade : ScoreGrade)
  /-- The score is inserted; the setup row is about to be refreshed. -/
  | updating (score : ScoreRow)
  | committing (score : ScoreRow)
  | rereading (score : ScoreRow)
  /-- The insert wrote nothing. -/
  | losing (row : SetupRow) (asOfMs : ℤ)
  | scored (setup : SetupRow) (score : ScoreRow) (created : Bool)
  | failed (error : SetupError)

/-- `scoreSetup`. -/
structure ScoreCall where
  userId : Uuid
  setupId : Uuid
  asOf : Option ℤ
  stage : ScoreStage

inductive SetupTask where
  | detect (call : DetectCall)
  | transition (call : TransitionCall)
  | score (call : ScoreCall)

/-- What the open transaction of a task holds. -/
def SetupTask.locks : SetupTask → List RowLock
  | .detect call =>
    match call.stage with
    | .recording row => [.setupId row.id, .detectionKey row.key]
    | .committing row _ => [.setupId row.id, .detectionKey row.key]
    | _ => []
  | .transition call =>
    match call.stage with
    | .updating _ => [.setupUpdate call.setupId]
    | .recording _ => [.setupUpdate call.setupId]
    | .committing _ _ => [.setupUpdate call.setupId]
    | _ => []
  | .score call =>
    match call.stage with
    | .updating stored => [.scoreKey stored.key, .setupKeyShare stored.key.setupId]
    | .committing stored =>
      [.scoreKey stored.key, .setupKeyShare stored.key.setupId,
        .setupNoKeyUpdate stored.key.setupId]
    | _ => []

/-- Some other task holds a lock that conflicts with one of these. -/
def blocked (others : List SetupTask) (locks : List RowLock) : Bool :=
  others.any fun t => t.locks.any fun held => locks.any fun lock => held.conflicts lock

/-- What a step takes from outside: a generated id, whether the plan admits another setup, and what
    the evaluation and the scoring engine make of the anchor (`none`: they refuse). -/
structure StepInput where
  newId : Uuid
  admitted : Bool
  scoring : Option (ℕ × ScoreGrade)

variable (owner : Uuid → Option Uuid)

def detectStep (input : StepInput) (d : SetupTables) (others : List SetupTask) (call : DetectCall) :
    SetupTables × DetectStage :=
  match call.stage with
  | .looking =>
    match d.readOwnedSetupByKey owner call.userId call.key with
    | some row => (d, .detected row false)
    | none => (d, .entitling)
  | .entitling => if input.admitted then (d, .inserting) else (d, .failed .forbidden)
  | .inserting =>
    if d.setups.any fun r => r.key = call.key then (d, .rereading false)
    else if blocked others [.setupId input.newId, .detectionKey call.key] then (d, .inserting)
    else if d.setups.any fun r => r.id = input.newId then (d, .failed .database)
    else (d, .recording ⟨input.newId, call.key, SETUP_INITIAL_STATE, none⟩)
  | .recording row =>
    ({ d with nextEventId := d.nextEventId + 1 },
      .committing row
        ⟨d.nextEventId, row.id, none, SETUP_INITIAL_STATE, some "detected", call.key.asOfMs⟩)
  | .committing row event =>
    ({ d with setups := d.setups ++ [row], events := d.events ++ [event] }, .rereading true)
  | .rereading created =>
    match d.readOwnedSetupByKey owner call.userId call.key with
    | some row => (d, .detected row created)
    | none => (d, .failed .internal)
  | .detected setup created => (d, .detected setup created)
  | .failed error => (d, .failed error)

def transitionStep (d : SetupTables) (others : List SetupTask) (call : TransitionCall) :
    SetupTables × TransitionStage :=
  match call.stage with
  | .locking =>
    match d.readOwnedSetup owner call.userId call.setupId with
    | none => (d, .failed .notFound)
    | some current =>
      if blocked others [.setupUpdate call.setupId] then (d, .locking)
      else if current.state = call.toState then (d, .transitioned current none)
      else if allowedTransition current.state call.toState then (d, .updating current.state)
      else (d, .failed .invalidInput)
  | .updating source => (d, .recording source)
  | .recording source =>
    ({ d with nextEventId := d.nextEventId + 1 },
      .committing source
        ⟨d.nextEventId, call.setupId, some source, call.toState, call.reason, call.asOf⟩)
  | .committing _ event =>
    ({ d with
        setups := d.setState call.setupId call.toState
        events := d.events ++ [event] }, .rereading event)
  | .rereading event =>
    match d.readOwnedSetup owner call.userId call.setupId with
    | some fresh => (d, .transitioned fresh (some event))
    | none => (d, .failed .internal)
  | .transitioned setup event => (d, .transitioned setup event)
  | .failed error => (d, .failed error)

def scoreStep (input : StepInput) (d : SetupTables) (others : List SetupTask) (call : ScoreCall) :
    SetupTables × ScoreStage :=
  match call.stage with
  | .reading =>
    match d.readOwnedSetup owner call.userId call.setupId with
    | none => (d, .failed .notFound)
    | some row =>
      if isTerminalState row.state then (d, .failed .invalidInput)
      else (d, .checking row (call.asOf.getD row.key.asOfMs))
  | .checking row asOfMs =>
    match d.readScore ⟨row.id, M5_SCORE_ENGINE_VERSION, asOfMs⟩ with
    | some stored => (d, .scored row stored false)
    | none => (d, .evaluating row asOfMs)
  | .evaluating row asOfMs =>
    match input.scoring with
    | some (total, grade) => (d, .inserting row asOfMs total grade)
    | none => (d, .failed .invalidInput)
  | .inserting row asOfMs total grade =>
    let key : ScoreKey := ⟨row.id, M5_SCORE_ENGINE_VERSION, asOfMs⟩
    if d.scores.any fun s => s.key = key then (d, .losing row asOfMs)
    else if blocked others [.scoreKey key, .setupKeyShare row.id] then
      (d, .inserting row asOfMs total grade)
    else ({ d with nextScoreId := d.nextScoreId + 1 }, .updating ⟨d.nextScoreId, key, total, grade⟩)
  | .updating score =>
    if blocked others [.setupNoKeyUpdate score.key.setupId] then (d, .updating score)
    else (d, .committing score)
  | .committing score =>
    ({ d with
        setups := d.setQuality score.key.setupId score.total
        scores := d.scores ++ [score] }, .rereading score)
  | .rereading score =>
    match d.readOwnedSetup owner call.userId call.setupId with
    | some fresh => (d, .scored fresh score true)
    | none => (d, .failed .internal)
  | .losing row asOfMs =>
    match d.readScore ⟨row.id, M5_SCORE_ENGINE_VERSION, asOfMs⟩ with
    | some winner => (d, .scored row winner false)
    | none => (d, .failed .internal)
  | .scored setup score created => (d, .scored setup score created)
  | .failed error => (d, .failed error)

/-- The next statement of a task. -/
def taskStep (input : StepInput) (d : SetupTables) (others : List SetupTask) :
    SetupTask → SetupTables × SetupTask
  | .detect call =>
    let r := detectStep owner input d others call
    (r.1, .detect { call with stage := r.2 })
  | .transition call =>
    let r := transitionStep owner d others call
    (r.1, .transition { call with stage := r.2 })
  | .score call =>
    let r := scoreStep owner input d others call
    (r.1, .score { call with stage := r.2 })

/-- A statement fails: the transaction is rolled back. -/
def failTask : SetupTask → SetupTask
  | .detect call => .detect { call with
      stage := match call.stage with
        | .detected setup created => .detected setup created
        | .failed error => .failed error
        | _ => .failed .database }
  | .transition call => .transition { call with
      stage := match call.stage with
        | .transitioned setup event => .transitioned setup event
        | .failed error => .failed error
        | _ => .failed .database }
  | .score call => .score { call with
      stage := match call.stage with
        | .scored setup score created => .scored setup score created
        | .failed error => .failed error
        | _ => .failed .database }

abbrev SetupPool := Pool SetupTables SetupTask

inductive SetupAction where
  | detect (userId : Uuid) (key : DetectionKey)
  | transitionSetup (userId setupId : Uuid) (toState : SetupState) (reason : Option String) (asOf : ℤ)
  | scoreSetup (userId setupId : Uuid) (asOf : Option ℤ)
  | advance (w : ℕ) (input : StepInput)
  | fail (w : ℕ)

/-- One step of the system. -/
def setupStep (p : SetupPool) : SetupAction → SetupPool
  | .detect userId key => p.spawn (.detect ⟨userId, key, .looking⟩)
  | .transitionSetup userId setupId toState reason asOf =>
    p.spawn (.transition ⟨userId, setupId, toState, reason, asOf, .locking⟩)
  | .scoreSetup userId setupId asOf => p.spawn (.score ⟨userId, setupId, asOf, .reading⟩)
  | .advance w input => p.advance (taskStep owner input) w
  | .fail w => p.advance (fun d _ t => (d, failTask t)) w

end VeltrixEye.Setups
