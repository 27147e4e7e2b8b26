import VeltrixEye.Setups.Lifecycle
import VeltrixEye.Lib.Rows
import VeltrixEye.Lib.SmallUuid
import VeltrixEye.Backtest.Contracts

/-!
# The directions of a scanned instrument (`scanInstrument` of `scanner/service.ts`)

One pass over the directions of an instrument whose candles are valid and fresh: detection, scoring and
alerting, each a service of its own with its own transaction, then the cursor.  An error whose message
says that a limit is reached ends the direction, every other error ends the scan.
-/

namespace VeltrixEye.Scanner

open Setups

/-! ## Tables -/

inductive AlertTriggerState where
  | confirmed
  | triggered
  deriving DecidableEq

/-- `alerts`. -/
structure AlertRow where
  setupId : Uuid
  triggerState : AlertTriggerState
  userId : Uuid
  qualityScore : ℕ
  createdAt : ℤ

/-- `scanner_cursors`. -/
structure CursorRow where
  strategyVersionId : Uuid
  instrumentId : Uuid
  timeframe : Timeframe
  lastCandleTime : ℤ

/-- The tables a scan of an instrument reads and writes. -/
structure ScanTables extends SetupTables where
  alerts : List AlertRow
  cursors : List CursorRow

/-! ## Errors -/

/-- The text of a state. -/
def stateText : Setups.SetupState → String
  | .developing => "developing"
  | .watching => "watching"
  | .almost_ready => "almost_ready"
  | .confirmed => "confirmed"
  | .triggered => "triggered"
  | .invalidated => "invalidated"
  | .expired => "expired"
  | .completed => "completed"

/-- What the services of a scan throw. -/
inductive ScanError where
  /-- The evaluation of the version. -/
  | evaluation (message : String)
  | savedSetupsLimit (maxSetups : ℕ)
  /-- The primary key of `setups`. -/
  | duplicateSetupId
  | setupNotFound
  | terminalSetup (state : Setups.SetupState)
  | ineligibleSetup (state : Setups.SetupState)
  | unscoredSetup
  | alertLimit (maxAlerts : ℕ)

def ScanError.message : ScanError → String
  | evaluation message => message
  | savedSetupsLimit maxSetups =>
    "Saved setups limit reached. Your plan allows up to " ++ toString maxSetups ++ " saved setups."
  | duplicateSetupId => "duplicate key value violates unique constraint \"setups_pkey\""
  | setupNotFound => "Setup not found"
  | terminalSetup state =>
    "Setup is in terminal state \"" ++ stateText state ++ "\" — terminal setups are never scored. " ++
      "Scoring never changes lifecycle; only active setups are scored."
  | ineligibleSetup state =>
    if isTerminalState state then
      "Setup is in terminal state \"" ++ stateText state ++
        "\" — no alert can be generated for an invalidated, expired or completed setup."
    else
      "Setup is in state \"" ++ stateText state ++
        "\" — only confirmed or triggered setups can generate alerts."
  | unscoredSetup =>
    "Setup has no quality score at its detection anchor — score the setup before generating an alert."
  | alertLimit maxAlerts =>
    "Alert limit reached. Your plan allows up to " ++ toString maxAlerts ++ " alerts per month."

/-- `err.message.includes('limit reached')`. -/
def ScanError.limitReached (e : ScanError) : Bool :=
  decide ("limit reached".toList <:+: e.message.toList)

@[simp] theorem limitReached_savedSetupsLimit (n : ℕ) :
    (ScanError.savedSetupsLimit n).limitReached = true := by
  apply decide_eq_true
  show _ <:+: (_ ++ toString n ++ _).toList
  rw [String.append_assoc, String.toList_append, String.toList_ofList, String.toList_ofList]
  exact List.IsInfix.trans (by decide) (List.prefix_append _ _).isInfix

@[simp] theorem limitReached_alertLimit (n : ℕ) : (ScanError.alertLimit n).limitReached = true := by
  apply decide_eq_true
  show _ <:+: (_ ++ toString n ++ _).toList
  rw [String.append_assoc, String.toList_append, String.toList_ofList, String.toList_ofList]
  exact List.IsInfix.trans (by decide) (List.prefix_append _ _).isInfix

@[simp] theorem limitReached_terminalSetup (s : Setups.SetupState) :
    (ScanError.terminalSetup s).limitReached = false := by
  apply decide_eq_false
  show ¬ _ <:+: (_ ++ stateText s ++ _ ++ _).toList
  rw [String.toList_append, String.toList_append, String.toList_append, String.toList_ofList,
    String.toList_ofList, String.toList_ofList, String.toList_ofList]
  cases s <;> decide +kernel

@[simp] theorem limitReached_ineligibleSetup (s : Setups.SetupState) :
    (ScanError.ineligibleSetup s).limitReached = false := by
  apply decide_eq_false
  show ¬ _ <:+: (if Setups.isTerminalState s then _ ++ stateText s ++ _ else _ ++ stateText s ++ _).toList
  split <;> rw [String.toList_append, String.toList_append, String.toList_ofList, String.toList_ofList,
    String.toList_ofList] <;> cases s <;> decide +kernel

/-! ## The services -/

/-- What the evaluation of a version makes of an instrument at an anchor. -/
structure Evaluation where
  passed : SetupDirection → Bool
  score : SetupDirection → ℕ × ScoreGrade

/-- A scan of one instrument of a strategy, after its candles were validated: the strategy and the
    instrument, the open times of the setup candles, oldest first, and what the scan reads elsewhere. -/
structure InstrumentScan (owner : Uuid → Option Uuid) where
  userId : Uuid
  versionId : Uuid
  owned : owner versionId = some userId
  instrumentId : Uuid
  setupTf : Timeframe
  setupCandles : List ℤ
  nowMs : ℤ
  force : Bool
  /-- `evaluateVersion`, or the message of its error. -/
  evaluation : Except String Evaluation
  /-- `gen_random_uuid()` of the setup that is inserted. -/
  newId : SetupDirection → Uuid
  maxSavedSetups : ℕ
  maxAlertsPerMonth : ℕ
  minQualityScore : ℕ
  /-- `now()` of the alert transactions. -/
  now : ℤ
  /-- `date_trunc('month', now())`. -/
  monthStart : ℤ
  monthStart_le : monthStart ≤ now

namespace ScanTables

variable (owner : Uuid → Option Uuid) (d : ScanTables)

/-- The setups counted against `maxSavedSetups`. -/
def countSetups (userId : Uuid) : ℕ :=
  (d.setups.filter fun r => owner r.key.strategyVersionId = some userId).length

/-- The alerts counted against `maxAlertsPerMonth`. -/
def countAlerts (userId : Uuid) (monthStart : ℤ) : ℕ :=
  (d.alerts.filter fun a => a.userId = userId ∧ monthStart ≤ a.createdAt).length

def readAlert (setupId : Uuid) (trigger : AlertTriggerState) : Option AlertRow :=
  d.alerts.find? fun a => a.setupId = setupId ∧ a.triggerState = trigger

def getCursor (versionId instrumentId : Uuid) (timeframe : Timeframe) : Option ℤ :=
  (d.cursors.find? fun c => c.strategyVersionId = versionId ∧ c.instrumentId = instrumentId ∧
    c.timeframe = timeframe).map CursorRow.lastCandleTime

/-- A detected setup and its first event. -/
def insertSetup (row : SetupRow) : ScanTables :=
  { d with
    setups := d.setups ++ [row]
    events := d.events ++
      [⟨d.nextEventId, row.id, none, row.state, some "detected", row.key.asOfMs⟩]
    nextEventId := d.nextEventId + 1 }

/-- A score, and the quality of its setup. -/
def insertScore (score : ScoreRow) : ScanTables :=
  { d with
    setups := d.setQuality score.key.setupId score.total
    scores := d.scores ++ [score]
    nextScoreId := d.nextScoreId + 1 }

def insertAlert (alert : AlertRow) : ScanTables := { d with alerts := d.alerts ++ [alert] }

def upsertCursor (row : CursorRow) : ScanTables :=
  { d with
    cursors := d.cursors.filter (fun c => ¬(c.strategyVersionId = row.strategyVersionId ∧
      c.instrumentId = row.instrumentId ∧ c.timeframe = row.timeframe)) ++ [row] }

end ScanTables

/-- `ELIGIBLE_STATES`. -/
def eligibleState : Setups.SetupState → Bool
  | .confirmed => true
  | .triggered => true
  | _ => false

/-- The score of a setup at an anchor. -/
def scoreKeyAt (setupId : Uuid) (asOfMs : ℤ) : ScoreKey := ⟨setupId, M5_SCORE_ENGINE_VERSION, asOfMs⟩

namespace InstrumentScan

variable {owner : Uuid → Option Uuid} (s : InstrumentScan owner) (asOfMs : ℤ)

def key (direction : SetupDirection) : DetectionKey := ⟨s.versionId, s.instrumentId, direction, asOfMs⟩

/-- `insertOrGetSetup`: the stored row, or the row it inserts. -/
def insertOrGetSetup (d : ScanTables) (direction : SetupDirection) :
    Except ScanError (ScanTables × SetupRow × Bool) :=
  match d.readOwnedSetupByKey owner s.userId (s.key asOfMs direction) with
  | some existing => .ok (d, existing, false)
  | none =>
    if s.maxSavedSetups ≤ d.countSetups owner s.userId then
      .error (.savedSetupsLimit s.maxSavedSetups)
    else if d.setups.any fun r => r.id = s.newId direction then .error .duplicateSetupId
    else
      -- The owner of the version has no row of the key, so the insert meets no conflict.
      let row : SetupRow := ⟨s.newId direction, s.key asOfMs direction, SETUP_INITIAL_STATE, none⟩
      .ok (d.insertSetup row, row, true)

/-- `detect` for one direction: nothing for a direction that does not qualify. -/
def detect (d : ScanTables) (direction : SetupDirection) :
    Except ScanError (Option (ScanTables × SetupRow × Bool)) :=
  match s.evaluation with
  | .error message => .error (.evaluation message)
  | .ok result =>
    if result.passed direction then (s.insertOrGetSetup asOfMs d direction).map some else .ok none

/-- `scoreSetup` at the anchor of the scan. -/
def scoreSetup (d : ScanTables) (setupId : Uuid) : Except ScanError (ScanTables × ScoreRow) :=
  match d.readOwnedSetup owner s.userId setupId with
  | none => .error .setupNotFound
  | some row =>
    if isTerminalState row.state then .error (.terminalSetup row.state)
    else
      match d.readScore (scoreKeyAt row.id asOfMs) with
      | some existing => .ok (d, existing)
      | none =>
        match s.evaluation with
        | .error message => .error (.evaluation message)
        | .ok result =>
          let score : ScoreRow := ⟨d.nextScoreId, scoreKeyAt row.id asOfMs,
            (result.score row.key.direction).1, (result.score row.key.direction).2⟩
          .ok (d.insertScore score, score)

/-- `generateAlert` for the trigger `confirmed`: the alert and whether it is new, or nothing below the
    minimum quality. -/
def generateAlert (d : ScanTables) (setupId : Uuid) :
    Except ScanError (ScanTables × Option (AlertRow × Bool)) :=
  match d.readOwnedSetup owner s.userId setupId with
  | none => .error .setupNotFound
  | some setup =>
    if ¬eligibleState setup.state then .error (.ineligibleSetup setup.state)
    else
      match d.readScore (scoreKeyAt setup.id setup.key.asOfMs) with
      | none => .error .unscoredSetup
      | some score =>
        if score.total < s.minQualityScore then .ok (d, none)
        -- The quota is checked before the insert finds out whether the alert exists.
        else if s.maxAlertsPerMonth ≤ d.countAlerts s.userId s.monthStart then
          .error (.alertLimit s.maxAlertsPerMonth)
        else
          match d.readAlert setup.id .confirmed with
          | some winner => .ok (d, some (winner, false))
          | none =>
            let alert : AlertRow := ⟨setup.id, .confirmed, s.userId, score.total, s.now⟩
            .ok (d.insertAlert alert, some (alert, true))

end InstrumentScan

/-! ## The scan -/

/-- What a scan did for a direction. -/
structure DirectionReport where
  setup : Option Uuid
  created : Bool
  total : Option ℕ
  alerted : Bool
  alertCreated : Bool
  deriving DecidableEq

/-- The direction did not qualify, or was not reached. -/
def DirectionReport.nothing : DirectionReport := ⟨none, false, none, false, false⟩

structure ScanResult where
  tables : ScanTables
  reports : List (SetupDirection × DirectionReport)
  error : Option ScanError

namespace InstrumentScan

variable {owner : Uuid → Option Uuid} (s : InstrumentScan owner) (asOfMs : ℤ)

/-- The body of the loop after the detection of a setup; what was written before an error stays. -/
def scanDetected (d₁ : ScanTables) (setup : SetupRow) (created : Bool) :
    ScanTables × DirectionReport × Option ScanError :=
  match s.scoreSetup asOfMs d₁ setup.id with
  | .error e => (d₁, ⟨some setup.id, created, none, false, false⟩, some e)
  | .ok (d₂, score) =>
    match s.generateAlert d₂ setup.id with
    | .error e => (d₂, ⟨some setup.id, created, some score.total, false, false⟩, some e)
    | .ok (d₃, none) => (d₃, ⟨some setup.id, created, some score.total, false, false⟩, none)
    | .ok (d₃, some (_, alertCreated)) =>
      (d₃, ⟨some setup.id, created, some score.total, true, alertCreated⟩, none)

/-- The body of the loop. -/
def scanDirection (d : ScanTables) (direction : SetupDirection) :
    ScanTables × DirectionReport × Option ScanError :=
  match s.detect asOfMs d direction with
  | .error e => (d, .nothing, some e)
  | .ok none => (d, .nothing, none)
  | .ok (some (d₁, setup, created)) => s.scanDetected asOfMs d₁ setup created

/-- The loop: an error that is no reached limit leaves it. -/
def scanDirections (d : ScanTables) : List SetupDirection → ScanResult
  | [] => ⟨d, [], none⟩
  | direction :: rest =>
    let r := s.scanDirection asOfMs d direction
    if r.2.2.all ScanError.limitReached then
      let following := scanDirections r.1 rest
      { following with reports := (direction, r.2.1) :: following.reports }
    else ⟨r.1, [(direction, r.2.1)], r.2.2⟩

def setupPeriodMs : ℤ := timeframeMinutes s.setupTf * 60000

/-- The newest candle that is closed. -/
def latestClosedSetupCandle : Option ℤ :=
  s.setupCandles.reverse.find? fun time => time + s.setupPeriodMs ≤ s.nowMs

/-- The candle was processed by an earlier scan. -/
def skips (d : ScanTables) (time : ℤ) : Bool :=
  !s.force && d.getCursor s.versionId s.instrumentId s.setupTf = some time

end InstrumentScan

/-- What a scan of an instrument did: for each direction, and the candle its cursor was set to. -/
structure ScanOutcome where
  result : ScanResult
  cursorSet : Option ℤ

/-- The report of a direction. -/
def ScanOutcome.report (o : ScanOutcome) (direction : SetupDirection) : DirectionReport :=
  (o.result.reports.lookup direction).getD .nothing

/-- `scanInstrument`, over a list of directions. -/
def InstrumentScan.scanInstrumentOver {owner : Uuid → Option Uuid} (s : InstrumentScan owner)
    (directions : List SetupDirection) (d : ScanTables) : ScanOutcome :=
  match s.latestClosedSetupCandle with
  | none => ⟨⟨d, [], none⟩, none⟩
  | some time =>
    if s.skips d time then ⟨⟨d, [], none⟩, none⟩
    else
      let r := s.scanDirections (time + s.setupPeriodMs) d directions
      match r.error with
      | some _ => ⟨r, none⟩
      | none =>
        let cursor : CursorRow := ⟨s.versionId, s.instrumentId, s.setupTf, time⟩
        ⟨{ r with tables := r.tables.upsertCursor cursor }, some time⟩

def InstrumentScan.scanInstrument {owner : Uuid → Option Uuid} (s : InstrumentScan owner)
    (d : ScanTables) : ScanOutcome := s.scanInstrumentOver [.long, .short] d

/-! ## Unique keys -/

namespace ScanTables

/-- The primary key and the unique key of setups, and the unique keys of scores and alerts. -/
structure Keyed (d : ScanTables) : Prop where
  setupIds : (d.setups.map SetupRow.id).Nodup
  setupKeys : (d.setups.map SetupRow.key).Nodup
  scoreKeys : (d.scores.map ScoreRow.key).Nodup
  alertKeys : (d.alerts.map fun a => (a.setupId, a.triggerState)).Nodup

variable {d : ScanTables}

theorem Keyed.insertSetup (hd : d.Keyed) {row : SetupRow} (hid : ∀ r ∈ d.setups, r.id ≠ row.id)
    (hkey : ∀ r ∈ d.setups, r.key ≠ row.key) : (d.insertSetup row).Keyed where
  setupIds := Rows.nodup_map_concat hd.setupIds hid
  setupKeys := Rows.nodup_map_concat hd.setupKeys hkey
  scoreKeys := hd.scoreKeys
  alertKeys := hd.alertKeys

theorem Keyed.insertScore (hd : d.Keyed) {score : ScoreRow}
    (hkey : d.readScore score.key = none) : (d.insertScore score).Keyed where
  setupIds := Rows.nodup_map_map hd.setupIds fun r _ => by split <;> rfl
  setupKeys := Rows.nodup_map_map hd.setupKeys fun r _ => by split <;> rfl
  scoreKeys := by
    refine Rows.nodup_map_concat hd.scoreKeys fun b hb hbk => ?_
    have hnone := List.find?_eq_none.mp hkey b hb
    exact hnone (by simpa using hbk)
  alertKeys := hd.alertKeys

theorem Keyed.insertAlert (hd : d.Keyed) {alert : AlertRow}
    (hkey : d.readAlert alert.setupId alert.triggerState = none) : (d.insertAlert alert).Keyed where
  setupIds := hd.setupIds
  setupKeys := hd.setupKeys
  scoreKeys := hd.scoreKeys
  alertKeys := by
    refine Rows.nodup_map_concat hd.alertKeys fun b hb hbk => ?_
    have hnone := List.find?_eq_none.mp hkey b hb
    exact hnone (by simpa using hbk)

end ScanTables

namespace InstrumentScan

variable {owner : Uuid → Option Uuid} (s : InstrumentScan owner) (asOfMs : ℤ) {d : ScanTables}

theorem readOwnedSetupByKey_eq_none {direction : SetupDirection} :
    d.readOwnedSetupByKey owner s.userId (s.key asOfMs direction) = none ↔
      ∀ r ∈ d.setups, r.key ≠ s.key asOfMs direction := by
  unfold SetupTables.readOwnedSetupByKey
  rw [List.find?_eq_none]
  refine forall₂_congr fun r _ => ?_
  simp only [decide_eq_true_eq, not_and, ne_eq]
  constructor
  · intro h hkey
    refine h hkey ?_
    rw [hkey]
    exact s.owned
  · intro h hkey
    exact absurd hkey h

theorem insertOrGetSetup_keyed (hd : d.Keyed) {direction : SetupDirection}
    {r : ScanTables × SetupRow × Bool} (h : s.insertOrGetSetup asOfMs d direction = .ok r) :
    r.1.Keyed := by
  unfold insertOrGetSetup at h
  split at h
  · cases h
    exact hd
  · rename_i hnone
    split at h
    · cases h
    split at h
    · cases h
    rename_i hfree
    cases h
    refine hd.insertSetup (fun x hx hid => hfree ?_) (s.readOwnedSetupByKey_eq_none asOfMs |>.mp hnone)
    exact List.any_eq_true.mpr ⟨x, hx, by simpa using hid⟩

theorem scoreSetup_keyed (hd : d.Keyed) {setupId : Uuid} {r : ScanTables × ScoreRow}
    (h : s.scoreSetup asOfMs d setupId = .ok r) : r.1.Keyed := by
  unfold scoreSetup at h
  split at h
  · cases h
  split at h
  · cases h
  split at h
  · cases h
    exact hd
  · rename_i hnone
    split at h
    · cases h
    · cases h
      exact hd.insertScore hnone

theorem generateAlert_keyed (hd : d.Keyed) {setupId : Uuid}
    {r : ScanTables × Option (AlertRow × Bool)} (h : s.generateAlert d setupId = .ok r) :
    r.1.Keyed := by
  unfold generateAlert at h
  split at h
  · cases h
  split at h
  · cases h
  split at h
  · cases h
  split at h
  · cases h
    exact hd
  · split at h
    · cases h
    · split at h
      · cases h
        exact hd
      · rename_i hnone
        cases h
        exact hd.insertAlert hnone

theorem scanDirection_keyed (hd : d.Keyed) (direction : SetupDirection) :
    (s.scanDirection asOfMs d direction).1.Keyed := by
  unfold scanDirection
  split
  · exact hd
  · exact hd
  · rename_i d₁ setup created hdetect
    have h₁ : d₁.Keyed := by
      unfold detect at hdetect
      split at hdetect
      · cases hdetect
      split at hdetect
      · cases hrow : s.insertOrGetSetup asOfMs d direction with
        | error e => simp [hrow, Except.map] at hdetect
        | ok r =>
          simp only [hrow, Except.map, Except.ok.injEq, Option.some.injEq] at hdetect
          have := s.insertOrGetSetup_keyed asOfMs hd hrow
          rwa [hdetect] at this
      · cases hdetect
    unfold scanDetected
    split
    · exact h₁
    rename_i d₂ score hscore
    have h₂ : d₂.Keyed := s.scoreSetup_keyed asOfMs h₁ hscore
    split
    · exact h₂
    · rename_i halert
      exact s.generateAlert_keyed h₂ halert
    · rename_i halert
      exact s.generateAlert_keyed h₂ halert

theorem scanDirections_keyed (hd : d.Keyed) (directions : List SetupDirection) :
    (s.scanDirections asOfMs d directions).tables.Keyed := by
  induction directions generalizing d with
  | nil => exact hd
  | cons direction rest ih =>
    have hpass := s.scanDirection_keyed asOfMs hd direction
    simp only [scanDirections]
    split
    · exact ih hpass
    · exact hpass

/-- **A scan keeps the unique keys.** -/
theorem scanInstrument_keyed (hd : d.Keyed) : (s.scanInstrument d).result.tables.Keyed := by
  unfold scanInstrument scanInstrumentOver
  split
  · exact hd
  rename_i time _
  split
  · exact hd
  have hscan := s.scanDirections_keyed (time + s.setupPeriodMs) hd [.long, .short]
  dsimp only
  split
  · exact hscan
  · exact ⟨hscan.setupIds, hscan.setupKeys, hscan.scoreKeys, hscan.alertKeys⟩

end InstrumentScan

end VeltrixEye.Scanner
