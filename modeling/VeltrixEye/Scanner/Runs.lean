import VeltrixEye.Lib.SmallUuid
import VeltrixEye.Lib.Pool
import VeltrixEye.Lib.Runs
import VeltrixEye.Lib.Rows

/-!
# The ledger of scanner runs (`scanner/service.ts`, table `scanner_runs`)

Every call of `executeScan` is a task of a pool over the ledger; recovery and retention are statements of
their own.  Between two statements anything may happen: other calls, the clock, an error of the database
(before or after the statement took effect), a crash.

* `ScannerRun` — a row; `completeRun`, `recoverStaleRuns`, `pruneTerminalRuns` — the statements.
* `ScanStage`, `scanStep` — where a call of `executeScan` stands, and its next step.
* `scannerStep` — one step of the system.
* `ended_runs_stay`.
-/

namespace VeltrixEye.Scanner

inductive RunStatus where
  | running
  | completed
  | failed
  | partially
  deriving DecidableEq

/-- `ScanTriggerArgs`, as far as a run records it. -/
structure ScanTriggerArgs where
  initiatedBy : Option String
  strategyId : Option String
  force : Bool

structure ScanMetrics where
  strategiesScanned : ℕ
  instrumentsScanned : ℕ
  candlesFetched : ℕ
  candlesFromStore : ℕ
  candlesFromProvider : ℕ
  setupsDetected : ℕ
  setupsCreated : ℕ
  alertsCreated : ℕ
  staleRejections : ℕ
  duplicateCandleSkips : ℕ
  providerFailures : ℕ
  symbolsProcessed : List String
  timeframesProcessed : List String
  errors : List String
  deriving DecidableEq

def ScanMetrics.zero : ScanMetrics := ⟨0, 0, 0, 0, 0, 0, 0, 0, 0, 0, 0, [], [], []⟩

/-- The counters of a row. -/
structure RunCounters where
  strategiesScanned : ℕ
  instrumentsScanned : ℕ
  candlesFetched : ℕ
  setupsDetected : ℕ
  setupsCreated : ℕ
  alertsCreated : ℕ
  staleRejections : ℕ
  providerFailures : ℕ
  symbolsProcessed : List String
  timeframesProcessed : List String
  deriving DecidableEq

def RunCounters.zero : RunCounters := ⟨0, 0, 0, 0, 0, 0, 0, 0, [], []⟩

def ScanMetrics.counters (m : ScanMetrics) : RunCounters :=
  ⟨m.strategiesScanned, m.instrumentsScanned, m.candlesFetched, m.setupsDetected, m.setupsCreated,
    m.alertsCreated, m.staleRejections, m.providerFailures, m.symbolsProcessed, m.timeframesProcessed⟩

/-- What a completion adds to `metadata`. -/
structure RunSummary where
  errors : List String
  candlesFromStore : ℕ
  candlesFromProvider : ℕ
  candlesTotal : ℕ
  duplicateCandleSkips : ℕ
  deriving DecidableEq

structure ScannerRun where
  id : Uuid
  status : RunStatus
  providerSlug : String
  startedAt : ℕ
  finishedAt : Option ℕ
  counters : RunCounters
  error : Option String
  triggeredBy : String
  strategyId : Option String
  force : Bool
  summary : Option RunSummary
  deriving DecidableEq

/-- A run is over. -/
def ScannerRun.ended (r : ScannerRun) : Prop := r.status ≠ .running

/-- What must not change once a run is over. -/
def ScannerRun.outcome (r : ScannerRun) : RunStatus × Option String × RunCounters :=
  (r.status, r.error, r.counters)

/-! ## Statements -/

/-- The row `createRun` inserts. -/
def createdRun (now : ℕ) (id : Uuid) (providerSlug : String) (args : ScanTriggerArgs) : ScannerRun where
  id := id
  status := .running
  providerSlug := providerSlug
  startedAt := now
  finishedAt := none
  counters := .zero
  error := none
  triggeredBy := args.initiatedBy.getD "system"
  strategyId := args.strategyId
  force := args.force
  summary := none

/-- `sanitizeScannerError` with its limit of characters; the flag asks for the redaction of uuids. -/
abbrev Sanitize := ℕ → Bool → String → String

def SCANNER_ERROR_MAX_CHARS : ℕ := 500

def SCANNER_RUN_ERROR_MAX_CHARS : ℕ := 2000

def SCANNER_MAX_STRATEGIES_PER_RUN : ℕ := 50

/-- `completeRun`: the row of the id, whatever its status. -/
def completeRun (sanitize : Sanitize) (now : ℕ) (runId : Uuid) (status : RunStatus) (metrics : ScanMetrics)
    (error : Option String) (rows : List ScannerRun) : List ScannerRun :=
  rows.map fun r =>
    if r.id = runId then
      { r with
        status := status
        finishedAt := some now
        counters := metrics.counters
        error := error.map (sanitize SCANNER_RUN_ERROR_MAX_CHARS false)
        summary := some ⟨(metrics.errors.take 10).map (sanitize SCANNER_ERROR_MAX_CHARS false),
          metrics.candlesFromStore, metrics.candlesFromProvider, metrics.candlesFetched,
          metrics.duplicateCandleSkips⟩ }
    else r

def getRun (runId : Uuid) (rows : List ScannerRun) : Option ScannerRun :=
  rows.find? fun r => r.id = runId

/-- `recoverStaleRuns`: running rows older than the lease. -/
def recoverStaleRuns (now leaseMs : ℕ) (rows : List ScannerRun) : List ScannerRun :=
  rows.map fun r =>
    if r.status = .running ∧ r.startedAt + leaseMs < now then
      { r with
        status := .failed
        finishedAt := some now
        error := some "recovered: stale running run after restart" }
    else r

/-- The order in which the database returns rows that compare equal. -/
structure Scan where
  rows : List ScannerRun → List ScannerRun
  perm : ∀ l, (rows l).Perm l

def terminal (r : ScannerRun) : Bool := r.status = .completed || r.status = .failed

/-- `ORDER BY started_at DESC LIMIT 1` over the terminal rows. -/
def newestTerminal (scan : Scan) (rows : List ScannerRun) : Option ScannerRun :=
  (((scan.rows rows).filter terminal).insertionSort fun a b => b.startedAt ≤ a.startedAt).head?

/-- `finished_at DESC NULLS LAST`. -/
def finishedDescending (a b : ScannerRun) : Bool :=
  match a.finishedAt, b.finishedAt with
  | _, none => true
  | none, some _ => false
  | some x, some y => y ≤ x

/-- `ORDER BY finished_at DESC NULLS LAST LIMIT 1` over the completed rows. -/
def newestCompleted (scan : Scan) (rows : List ScannerRun) : Option ScannerRun :=
  (((scan.rows rows).filter fun r => r.status = .completed).insertionSort fun a b =>
    finishedDescending a b).head?

def SCANNER_RUN_PRUNE_BATCH_SIZE : ℕ := 500

/-- The rows one statement of `pruneTerminalRuns` deletes; days count milliseconds here. -/
def prunable (now retentionDays : ℕ) (locked : Uuid → Bool) (scan : Scan) (rows : List ScannerRun) :
    List ScannerRun :=
  (((scan.rows rows).filter fun r =>
    terminal r && r.startedAt + retentionDays * 86400000 < now &&
      (newestTerminal scan rows).all (fun k => k.id ≠ r.id) &&
      (newestCompleted scan rows).all (fun k => k.id ≠ r.id) && !locked r.id).insertionSort fun a b =>
    a.startedAt ≤ b.startedAt).take SCANNER_RUN_PRUNE_BATCH_SIZE

/-- One statement of `pruneTerminalRuns`. -/
def pruneTerminalRuns (now retentionDays : ℕ) (locked : Uuid → Bool) (scan : Scan)
    (rows : List ScannerRun) : List ScannerRun :=
  rows.filter fun r => !(prunable now retentionDays locked scan rows).any fun d => d.id = r.id

/-! ## A call of `executeScan` -/

structure Scanning where
  runId : Uuid
  metrics : ScanMetrics
  finalStatus : RunStatus
  total : ℕ
  deriving DecidableEq

inductive ScanStage where
  | creating
  | loading (runId : Uuid)
  /-- No eligible strategy: ownership is verified before the run is completed. -/
  | verifyingEmpty (runId : Uuid)
  | scanning (s : Scanning) (remaining : ℕ)
  | verifying (s : Scanning)
  /-- The `completeRun` of the `try` block. -/
  | completing (s : Scanning) (error : Option String)
  | reading (s : Scanning)
  /-- The `completeRun` of the `catch` block. -/
  | failing (runId : Uuid) (metrics : ScanMetrics) (message : String)
  | readingFailed (runId : Uuid)
  | returned (run : ScannerRun)
  | threw
  deriving DecidableEq

structure ScanTask where
  providerSlug : String
  args : ScanTriggerArgs
  stage : ScanStage

/-- What a step reads besides the ledger. -/
inductive ScanInput where
  | create (id : Uuid)
  | strategies (eligible : ℕ)
  | verified
  | scanned (metrics : ScanMetrics)
  | strategyFailed (strategyId : String) (metrics : ScanMetrics) (message : String)
  | statement
  /-- An exception: the lost lock, or a failed statement (`effect`: it took effect all the same). -/
  | raise (message : String) (effect : Bool)
  | crash

/-- The status and the error a scan ends with. -/
def finalOutcome (s : Scanning) : RunStatus × Option String :=
  if s.metrics.providerFailures > 0 ∧ s.metrics.setupsDetected = 0 ∧ s.metrics.alertsCreated = 0 ∧
      s.metrics.providerFailures ≥ s.total then
    (.failed, some ("All " ++ toString s.total ++ " strategies failed: " ++
      "; ".intercalate (s.metrics.errors.take 3)))
  else (s.finalStatus, none)

/-- The loop over the strategies. -/
def scanningStage (s : Scanning) : ℕ → ScanStage
  | 0 => .verifying s
  | remaining => .scanning s remaining

/-- The statements of the ledger a call runs. -/
inductive ScanStatement where
  | create (id : Uuid)
  | complete (runId : Uuid) (status : RunStatus) (metrics : ScanMetrics) (error : Option String)

/-- One step of a call: its statement, if any, and the stage after it.  An input that does not belong to
    the stage changes nothing. -/
def scanStep (sanitize : Sanitize) (rows : List ScannerRun) (stage : ScanStage) (input : ScanInput) :
    Option ScanStatement × ScanStage :=
  match stage, input with
  | .returned run, _ => (none, .returned run)
  | .threw, _ => (none, .threw)
  | _, .crash => (none, .threw)
  | .creating, .create id => (some (.create id), .loading id)
  -- outside the `try` block
  | .creating, .raise _ _ => (none, .threw)
  | .loading runId, .strategies 0 => (none, .verifyingEmpty runId)
  | .loading runId, .strategies eligible =>
    let total := min eligible SCANNER_MAX_STRATEGIES_PER_RUN
    (none, scanningStage ⟨runId, { ScanMetrics.zero with strategiesScanned := total }, .completed, total⟩
      total)
  | .loading runId, .raise message _ =>
    (none, .failing runId .zero (sanitize SCANNER_ERROR_MAX_CHARS true message))
  | .verifyingEmpty runId, .verified => (none, .completing ⟨runId, .zero, .completed, 0⟩ none)
  | .verifyingEmpty runId, .raise message _ =>
    (none, .failing runId .zero (sanitize SCANNER_ERROR_MAX_CHARS true message))
  | .scanning s (remaining + 1), .scanned metrics => (none, scanningStage { s with metrics } remaining)
  | .scanning s (remaining + 1), .strategyFailed strategyId metrics message =>
    (none, scanningStage { s with
      metrics := { metrics with
        errors := metrics.errors ++
          ["strategy " ++ strategyId ++ ": " ++ sanitize SCANNER_ERROR_MAX_CHARS true message]
        providerFailures := metrics.providerFailures + 1 }
      finalStatus := .partially } remaining)
  | .scanning s _, .raise message _ =>
    (none, .failing s.runId s.metrics (sanitize SCANNER_ERROR_MAX_CHARS true message))
  | .verifying s, .verified =>
    (none, .completing { s with finalStatus := (finalOutcome s).1 } (finalOutcome s).2)
  | .verifying s, .raise message _ =>
    (none, .failing s.runId s.metrics (sanitize SCANNER_ERROR_MAX_CHARS true message))
  | .completing s error, .statement =>
    (some (.complete s.runId s.finalStatus s.metrics error), .reading s)
  | .completing s error, .raise message effect =>
    (if effect then some (.complete s.runId s.finalStatus s.metrics error) else none,
      .failing s.runId s.metrics (sanitize SCANNER_ERROR_MAX_CHARS true message))
  | .reading s, .statement =>
    match getRun s.runId rows with
    | some run => (none, .returned run)
    | none =>
      (none, .failing s.runId s.metrics (sanitize SCANNER_ERROR_MAX_CHARS true "Scanner run not found"))
  | .reading s, .raise message _ =>
    (none, .failing s.runId s.metrics (sanitize SCANNER_ERROR_MAX_CHARS true message))
  | .failing runId metrics message, .statement =>
    (some (.complete runId .failed metrics (some message)), .readingFailed runId)
  | .failing runId metrics message, .raise _ effect =>
    (if effect then some (.complete runId .failed metrics (some message)) else none, .threw)
  | .readingFailed runId, .statement =>
    match getRun runId rows with
    | some run => (none, .returned run)
    | none => (none, .threw)
  | .readingFailed _, .raise _ _ => (none, .threw)
  | _, _ => (none, stage)

/-! ## The system -/

/-- The ledger, the clock, and the ids inserted so far, which no step reads. -/
structure Ledger where
  rows : List ScannerRun
  now : ℕ
  generated : List Uuid

abbrev ScannerPool := Pool Ledger ScanTask

/-- A statement of a call. -/
def Ledger.perform (sanitize : Sanitize) (d : Ledger) (t : ScanTask) : Option ScanStatement → Ledger
  | none => d
  | some (.create id) =>
    { d with
      rows := d.rows ++ [createdRun d.now id t.providerSlug t.args]
      generated := d.generated ++ [id] }
  | some (.complete runId status metrics error) =>
    { d with rows := completeRun sanitize d.now runId status metrics error d.rows }

def scanAdvance (sanitize : Sanitize) (input : ScanInput) (d : Ledger) (_ : List ScanTask) (t : ScanTask) :
    Ledger × ScanTask :=
  let r := scanStep sanitize d.rows t.stage input
  (d.perform sanitize t r.1, { t with stage := r.2 })

inductive ScannerAction where
  | tick (elapsed : ℕ)
  | executeScan (providerSlug : String) (args : ScanTriggerArgs)
  | work (w : ℕ) (input : ScanInput)
  | recoverStaleRuns (leaseMs : ℕ)
  | pruneTerminalRuns (retentionDays : ℕ) (locked : Uuid → Bool) (scan : Scan)

def scannerStep (sanitize : Sanitize) (p : ScannerPool) : ScannerAction → ScannerPool
  | .tick elapsed => p.update fun d _ => { d with now := d.now + elapsed }
  | .executeScan providerSlug args => p.spawn ⟨providerSlug, args, .creating⟩
  | .work w input => p.advance (scanAdvance sanitize input) w
  | .recoverStaleRuns leaseMs =>
    p.update fun d _ => { d with rows := recoverStaleRuns d.now leaseMs d.rows }
  | .pruneTerminalRuns retentionDays locked scan =>
    p.update fun d _ => { d with rows := pruneTerminalRuns d.now retentionDays locked scan d.rows }

/-- The statement of a call that a step runs. -/
def statementOf (sanitize : Sanitize) (p : ScannerPool) : ScannerAction → Option ScanStatement
  | .work w input => p.tasks[w]?.bind fun t => (scanStep sanitize p.shared.rows t.stage input).1
  | _ => none

/-- `gen_random_uuid` never generates a value twice. -/
def Fresh (sanitize : Sanitize) (p : ScannerPool) (a : ScannerAction) : Prop :=
  match statementOf sanitize p a with
  | some (.create id) => id ∉ p.shared.generated
  | _ => True

/-- A completion finds its run still running, or deleted. -/
def CompletesRunning (sanitize : Sanitize) (p : ScannerPool) (a : ScannerAction) : Prop :=
  match statementOf sanitize p a with
  | some (.complete runId _ _ _) => ∀ r ∈ p.shared.rows, r.id = runId → r.status = .running
  | _ => True

/-! ## What a step does to the ledger -/

/-- What every reachable ledger satisfies. -/
structure LedgerOk (d : Ledger) : Prop where
  ids : (d.rows.map (·.id)).Nodup
  generated : ∀ r ∈ d.rows, r.id ∈ d.generated

variable {sanitize : Sanitize} {d : Ledger} {rows : List ScannerRun}

theorem completeRun_ids (now : ℕ) (runId : Uuid) (status : RunStatus) (metrics : ScanMetrics)
    (error : Option String) (rows : List ScannerRun) :
    (completeRun sanitize now runId status metrics error rows).map (·.id) = rows.map (·.id) := by
  unfold completeRun
  rw [List.map_map]
  refine List.map_congr_left fun r _ => ?_
  simp only [Function.comp_apply]
  split <;> rfl

theorem recoverStaleRuns_ids (now leaseMs : ℕ) (rows : List ScannerRun) :
    (recoverStaleRuns now leaseMs rows).map (·.id) = rows.map (·.id) := by
  unfold recoverStaleRuns
  rw [List.map_map]
  refine List.map_congr_left fun r _ => ?_
  simp only [Function.comp_apply]
  split <;> rfl

/-- A row of a ledger and its row in a later one: gone, or with the same outcome once it had ended. -/
def Stays (r : ScannerRun) (d' : Ledger) : Prop :=
  ∀ r' ∈ d'.rows, r'.id = r.id → r'.outcome = r.outcome

/-- A step of the ledger keeps it in order and every ended run. -/
structure Keeps (d d' : Ledger) : Prop where
  ok : LedgerOk d'
  generated : d.generated ⊆ d'.generated
  old : ∀ r' ∈ d'.rows, r'.id ∈ d.generated →
    ∃ r ∈ d.rows, r'.id = r.id ∧ (r.ended → r'.outcome = r.outcome)

theorem ended_of_outcome {r r' : ScannerRun} (h : r'.outcome = r.outcome) : r'.ended ↔ r.ended := by
  have hstatus : r'.status = r.status := congrArg Prod.fst h
  unfold ScannerRun.ended
  rw [hstatus]

theorem Keeps.stays {d d' : Ledger} (h : Keeps d d') {r : ScannerRun} (hid : r.id ∈ d.generated)
    (hended : r.ended) (hstays : Stays r d) : Stays r d' := by
  intro r' hr' hsame
  obtain ⟨r₀, hr₀, hid₀, houtcome⟩ := h.old r' hr' (hsame ▸ hid)
  have hbefore := hstays r₀ hr₀ (hid₀.symm.trans hsame)
  exact (houtcome ((ended_of_outcome hbefore).mpr hended)).trans hbefore

theorem Keeps.rfl (hok : LedgerOk d) : Keeps d d :=
  ⟨hok, fun _ h => h, fun r hr _ => ⟨r, hr, Eq.refl _, fun _ => Eq.refl _⟩⟩

theorem keeps_map (hok : LedgerOk d) {f : ScannerRun → ScannerRun} {rows' : List ScannerRun}
    (hrows : rows' = d.rows.map f) (hid : ∀ r, (f r).id = r.id)
    (hf : ∀ r ∈ d.rows, r.ended → (f r).outcome = r.outcome) : Keeps d { d with rows := rows' } := by
  subst hrows
  refine ⟨⟨?_, ?_⟩, fun _ h => h, ?_⟩
  · exact Rows.nodup_map_map hok.ids fun r _ => hid r
  · intro r' hr'
    obtain ⟨r, hr, rfl⟩ := List.mem_map.mp hr'
    rw [hid]
    exact hok.generated r hr
  · intro r' hr' _
    obtain ⟨r, hr, rfl⟩ := List.mem_map.mp hr'
    exact ⟨r, hr, hid r, hf r hr⟩

theorem keeps_recover (hok : LedgerOk d) (leaseMs : ℕ) :
    Keeps d { d with rows := recoverStaleRuns d.now leaseMs d.rows } := by
  refine keeps_map hok (Eq.refl (recoverStaleRuns d.now leaseMs d.rows)) (fun r => ?_) fun r _ hended => ?_
  · split <;> rfl
  · rw [if_neg fun h => hended h.1]

theorem keeps_prune (hok : LedgerOk d) (retentionDays : ℕ) (locked : Uuid → Bool) (scan : Scan) :
    Keeps d { d with rows := pruneTerminalRuns d.now retentionDays locked scan d.rows } := by
  refine ⟨⟨hok.ids.sublist (List.filter_sublist.map _), fun r hr => ?_⟩, fun _ h => h, fun r hr _ => ?_⟩
  · exact hok.generated r (List.mem_of_mem_filter hr)
  · exact ⟨r, List.mem_of_mem_filter hr, Eq.refl _, fun _ => Eq.refl _⟩

theorem keeps_perform (hok : LedgerOk d) (t : ScanTask) (statement : Option ScanStatement)
    (hfresh : ∀ id, statement = some (.create id) → id ∉ d.generated)
    (hrunning : ∀ runId status metrics error, statement = some (.complete runId status metrics error) →
      ∀ r ∈ d.rows, r.id = runId → r.status = .running) :
    Keeps d (d.perform sanitize t statement) := by
  cases statement with
  | none => exact .rfl hok
  | some s =>
    cases s with
    | create id =>
      have hnew : id ∉ d.generated := hfresh id (Eq.refl _)
      refine ⟨⟨?_, ?_⟩, ?_, ?_⟩
      · refine Rows.nodup_map_concat hok.ids fun r hr (heq : r.id = id) => hnew ?_
        exact heq ▸ hok.generated r hr
      · intro r hr
        rcases List.mem_append.mp hr with hr | hr
        · exact List.mem_append_left _ (hok.generated r hr)
        · rw [List.mem_singleton.mp hr]
          exact List.mem_append_right _ (List.mem_singleton_self _)
      · exact fun _ h => List.mem_append_left _ h
      · intro r hr hid
        rcases List.mem_append.mp hr with hr | hr
        · exact ⟨r, hr, Eq.refl _, fun _ => Eq.refl _⟩
        · rw [List.mem_singleton.mp hr] at hid
          exact absurd hid hnew
    | complete runId status metrics error =>
      refine keeps_map hok (Eq.refl (completeRun sanitize d.now runId status metrics error d.rows))
        (fun r => ?_) fun r hr hended => ?_
      · split <;> rfl
      · rw [if_neg fun h => hended (hrunning runId status metrics error (Eq.refl _) r hr h)]

/-! ## Steps of the system -/

variable {p : ScannerPool}

theorem statementOf_work {w : ℕ} {input : ScanInput} {t : ScanTask} (hget : p.tasks[w]? = some t) :
    statementOf sanitize p (.work w input) = (scanStep sanitize p.shared.rows t.stage input).1 := by
  simp only [statementOf, hget, Option.bind_some]

/-- **The ledger under a step.** -/
theorem scannerStep_keeps (hok : LedgerOk p.shared) (a : ScannerAction) (hfresh : Fresh sanitize p a)
    (hrunning : CompletesRunning sanitize p a) : Keeps p.shared (scannerStep sanitize p a).shared := by
  cases a with
  | tick => exact ⟨⟨hok.ids, hok.generated⟩, fun _ h => h, fun r hr _ => ⟨r, hr, rfl, fun _ => rfl⟩⟩
  | executeScan => exact .rfl hok
  | recoverStaleRuns leaseMs => exact keeps_recover hok leaseMs
  | pruneTerminalRuns retentionDays locked scan => exact keeps_prune hok retentionDays locked scan
  | work w input =>
    show Keeps p.shared (p.advance (scanAdvance sanitize input) w).shared
    cases hget : p.tasks[w]? with
    | none =>
      rw [Pool.advance_of_none hget]
      exact .rfl hok
    | some t =>
      rw [Pool.advance_of_get hget]
      have hstatement := @statementOf_work sanitize p w input t hget
      refine keeps_perform hok t _ (fun id h => ?_) fun runId status metrics error h => ?_
      · rw [Fresh, hstatement, h] at hfresh
        exact hfresh
      · rw [CompletesRunning, hstatement, h] at hrunning
        exact hrunning

/-- What a call that returned a run says of it. -/
def ReportOk (d : Ledger) (t : ScanTask) : Prop :=
  ∀ run, t.stage = .returned run → run.id ∈ d.generated ∧ (run.ended → Stays run d)

theorem ReportOk.mono {d' : Ledger} {t : ScanTask} (h : ReportOk d t) (hkeeps : Keeps d d') :
    ReportOk d' t := by
  intro run hstage
  obtain ⟨hid, hstays⟩ := h run hstage
  exact ⟨hkeeps.generated hid, fun hended => hkeeps.stays hid hended (hstays hended)⟩

theorem getRun_reports {runId : Uuid} {run : ScannerRun} (hok : LedgerOk d)
    (h : getRun runId d.rows = some run) : run.id ∈ d.generated ∧ Stays run d := by
  have hmem := List.mem_of_find?_eq_some h
  refine ⟨hok.generated run hmem, fun r' hr' hid => ?_⟩
  rw [Rows.eq_of_key hok.ids hr' hmem hid]

theorem scanningStage_ne_returned {s : Scanning} {n : ℕ} {run : ScannerRun}
    (h : scanningStage s n = .returned run) : False := by
  cases n <;> cases h

theorem scanStep_returned {stage : ScanStage} {input : ScanInput} {run : ScannerRun}
    (h : (scanStep sanitize rows stage input).2 = .returned run) :
    (scanStep sanitize rows stage input).1 = none ∧
      (stage = .returned run ∨ ∃ runId, getRun runId rows = some run) := by
  unfold scanStep at h ⊢
  split at h
  · exact ⟨rfl, .inl (congrArg _ (ScanStage.returned.inj h))⟩
  case h_18 s =>
    cases hrun : getRun s.runId rows with
    | none =>
      rw [hrun] at h
      cases h
    | some r =>
      rw [hrun] at h
      cases h
      exact ⟨rfl, .inr ⟨_, hrun⟩⟩
  case h_22 runId =>
    cases hrun : getRun runId rows with
    | none =>
      rw [hrun] at h
      cases h
    | some r =>
      rw [hrun] at h
      cases h
      exact ⟨rfl, .inr ⟨_, hrun⟩⟩
  case h_24 => exact ⟨rfl, .inl h⟩
  all_goals first
    | exact (scanningStage_ne_returned h).elim
    | cases h

structure ScannerOk (p : ScannerPool) : Prop where
  ledger : LedgerOk p.shared
  reports : ∀ t ∈ p.tasks, ReportOk p.shared t

/-- **Step lemma.** -/
theorem scannerStep_ok (h : ScannerOk p) (a : ScannerAction) (hfresh : Fresh sanitize p a)
    (hrunning : CompletesRunning sanitize p a) : ScannerOk (scannerStep sanitize p a) := by
  have hkeeps := scannerStep_keeps h.ledger a hfresh hrunning
  refine ⟨hkeeps.ok, ?_⟩
  have old : ∀ t ∈ p.tasks, ReportOk (scannerStep sanitize p a).shared t :=
    fun t ht => (h.reports t ht).mono hkeeps
  cases a with
  | tick => exact old
  | recoverStaleRuns => exact old
  | pruneTerminalRuns => exact old
  | executeScan providerSlug args =>
    intro t ht
    rcases List.mem_append.mp ht with ht | ht
    · exact old t ht
    · rw [List.mem_singleton.mp ht]
      intro run hstage
      cases hstage
  | work w input =>
    cases hget : p.tasks[w]? with
    | none =>
      have hsame : scannerStep sanitize p (.work w input) = p := Pool.advance_of_none hget
      rw [hsame]
      exact h.reports
    | some t =>
      have hstep : scannerStep sanitize p (.work w input) = _ := Pool.advance_of_get hget
      intro t' ht'
      rw [hstep] at ht'
      rcases List.mem_or_eq_of_mem_set ht' with ht' | rfl
      · exact old t' ht'
      · intro run hstage
        obtain ⟨hnone, hrun⟩ := scanStep_returned hstage
        have hledger : (scannerStep sanitize p (.work w input)).shared = p.shared := by
          rw [hstep]
          show p.shared.perform sanitize t (scanStep sanitize p.shared.rows t.stage input).1 = p.shared
          rw [hnone]
          rfl
        rw [hledger]
        rcases hrun with hbefore | ⟨runId, hread⟩
        · exact h.reports t (List.mem_of_getElem? hget) run hbefore
        · have hreports := getRun_reports h.ledger hread
          exact ⟨hreports.1, fun _ => hreports.2⟩

/-- No run, no call. -/
structure Initial (p : ScannerPool) : Prop where
  rows : p.shared.rows = []
  tasks : p.tasks = []

theorem Initial.ok (h : Initial p) : ScannerOk p where
  ledger := ⟨by simp [h.rows], by simp [h.rows]⟩
  reports := by simp [h.tasks]

theorem scannerStep_present (a : ScannerAction)
    (ha : ∀ retentionDays locked scan, a ≠ .pruneTerminalRuns retentionDays locked scan) {r : ScannerRun}
    (hr : r ∈ p.shared.rows) : ∃ r' ∈ (scannerStep sanitize p a).shared.rows, r'.id = r.id := by
  have ofIds : ∀ rows' : List ScannerRun, rows'.map (·.id) = p.shared.rows.map (·.id) →
      ∃ r' ∈ rows', r'.id = r.id := by
    intro rows' hids
    have hmem : r.id ∈ rows'.map (·.id) := hids ▸ List.mem_map_of_mem hr
    exact List.mem_map.mp hmem
  cases a with
  | tick => exact ⟨r, hr, rfl⟩
  | executeScan => exact ⟨r, hr, rfl⟩
  | recoverStaleRuns leaseMs => exact ofIds _ (recoverStaleRuns_ids _ _ _)
  | pruneTerminalRuns retentionDays locked scan => exact absurd rfl (ha retentionDays locked scan)
  | work w input =>
    show ∃ r' ∈ (p.advance (scanAdvance sanitize input) w).shared.rows, r'.id = r.id
    cases hget : p.tasks[w]? with
    | none =>
      rw [Pool.advance_of_none hget]
      exact ⟨r, hr, rfl⟩
    | some t =>
      rw [Pool.advance_of_get hget]
      show ∃ r' ∈ (p.shared.perform sanitize t
        (scanStep sanitize p.shared.rows t.stage input).1).rows, r'.id = r.id
      cases (scanStep sanitize p.shared.rows t.stage input).1 with
      | none => exact ⟨r, hr, rfl⟩
      | some s =>
        cases s with
        | create id => exact ⟨r, List.mem_append_left _ hr, rfl⟩
        | complete => exact ofIds _ (completeRun_ids _ _ _ _ _ _)

/-- **A scanner run ends once.** In every run of `executeScan` calls, recovery, retention, clock advances,
    database errors and crashes in which every completion finds its run running or deleted: a run that has
    ended never changes its status, error or counters afterwards, only retention deletes a run, and a run
    reported as completed is stored as completed as long as it is stored. -/
theorem ended_runs_stay (sanitize : Sanitize) {p : ScannerPool} (hp : Initial p)
    {as : List ScannerAction} (hfresh : Runs.Meets (scannerStep sanitize) (Fresh sanitize) p as)
    (hrunning : Runs.Meets (scannerStep sanitize) (CompletesRunning sanitize) p as) :
    (∀ pre post, pre ++ post <+: as → ∀ r ∈ (Runs.run (scannerStep sanitize) p pre).shared.rows,
      r.ended → Stays r (Runs.run (scannerStep sanitize) p (pre ++ post)).shared) ∧
    (∀ pre a, pre ++ [a] <+: as →
      (∀ retentionDays locked scan, a ≠ .pruneTerminalRuns retentionDays locked scan) →
      ∀ r ∈ (Runs.run (scannerStep sanitize) p pre).shared.rows,
        ∃ r' ∈ (Runs.run (scannerStep sanitize) p (pre ++ [a])).shared.rows, r'.id = r.id) ∧
    ∀ t, Runs.Reached (scannerStep sanitize) p as t → ∀ task ∈ t.tasks, ∀ run,
      task.stage = .returned run → run.status = .completed →
      ∀ r ∈ t.shared.rows, r.id = run.id → r.status = .completed := by
  have hmeets := Runs.meets_and _ hfresh hrunning
  have hstep : ∀ p a, ScannerOk p → Fresh sanitize p a ∧ CompletesRunning sanitize p a →
      ScannerOk (scannerStep sanitize p a) := fun p a h hok => scannerStep_ok h a hok.1 hok.2
  have okAt : ∀ t, Runs.Reached (scannerStep sanitize) p as t → ScannerOk t :=
    fun t ht => Runs.inv_of_reached _ hstep hp.ok hmeets ht
  refine ⟨?_, ?_, ?_⟩
  · rintro pre post ⟨rest, rfl⟩ r hr hended
    have hpre := okAt _ ⟨pre, ⟨post ++ rest, by rw [List.append_assoc]⟩, rfl⟩
    rw [List.append_assoc, Runs.meets_append] at hmeets
    have hpost := ((Runs.meets_append _ _ _ _ _).mp hmeets.2).1
    -- the outcome of the run is kept by every step after `pre`
    have hkept : ∀ p a, (ScannerOk p ∧ r.id ∈ p.shared.generated ∧ Stays r p.shared) →
        Fresh sanitize p a ∧ CompletesRunning sanitize p a →
        ScannerOk (scannerStep sanitize p a) ∧ r.id ∈ (scannerStep sanitize p a).shared.generated ∧
          Stays r (scannerStep sanitize p a).shared := by
      rintro p a ⟨hok, hid, hstays⟩ hallowed
      have hkeeps := scannerStep_keeps hok.ledger a hallowed.1 hallowed.2
      exact ⟨hstep p a hok hallowed, hkeeps.generated hid, hkeeps.stays hid hended hstays⟩
    have hstays : Stays r (Runs.run (scannerStep sanitize) p pre).shared := by
      intro r' hr' hid
      rw [Rows.eq_of_key hpre.ledger.ids hr' hr hid]
    rw [Runs.run_append]
    exact (Runs.inv_run _ hkept ⟨hpre, hpre.ledger.generated r hr, hstays⟩ hpost).2.2
  · intro pre a _ ha r hr
    rw [Runs.run_append]
    exact scannerStep_present a ha hr
  · intro t ht task htask run hstage hcompleted r hr hid
    have hended : run.ended := by
      rw [ScannerRun.ended, hcompleted]
      decide
    have houtcome := ((okAt t ht).reports task htask run hstage).2 hended r hr hid
    exact (congrArg Prod.fst houtcome).trans hcompleted

/-! ## A slow scan -/

def emptyScanner : ScannerPool := ⟨⟨[], 0, []⟩, []⟩

theorem emptyScanner_initial : Initial emptyScanner := ⟨rfl, rfl⟩

/-- A scan without eligible strategies, up to its completion. -/
def sampleScan : List ScannerAction :=
  [.executeScan "twelve-data" ⟨none, none, false⟩, .work 0 (.create (Uuid.ofDigit 1)),
    .work 0 (.strategies 0), .work 0 .verified]

/-- Its completion and its report. -/
def sampleCompletion : List ScannerAction := [.work 0 .statement, .work 0 .statement]

/-- The lease passes and the run is recovered before it completes. -/
def sampleRecovered : List ScannerAction :=
  sampleScan ++ [.tick 900001, .recoverStaleRuns 900000] ++ sampleCompletion

instance (a : ScannerAction) : Decidable (Fresh (fun _ _ s => s) p a) :=
  match h : statementOf (fun _ _ s => s) p a with
  | some (.create id) => decidable_of_iff (id ∉ p.shared.generated) (by rw [Fresh, h])
  | some (.complete _ _ _ _) => isTrue (by rw [Fresh, h]; trivial)
  | none => isTrue (by rw [Fresh, h]; trivial)

instance (a : ScannerAction) : Decidable (CompletesRunning (fun _ _ s => s) p a) :=
  match h : statementOf (fun _ _ s => s) p a with
  | some (.complete runId _ _ _) =>
    decidable_of_iff (∀ r ∈ p.shared.rows, r.id = runId → r.status = .running)
      (by rw [CompletesRunning, h])
  | some (.create _) => isTrue (by rw [CompletesRunning, h]; trivial)
  | none => isTrue (by rw [CompletesRunning, h]; trivial)

/-- The failed run becomes completed. -/
theorem recovered_run_completes :
    Initial emptyScanner ∧
      Runs.Meets (scannerStep fun _ _ s => s) (Fresh fun _ _ s => s) emptyScanner sampleRecovered ∧
      (Runs.run (scannerStep fun _ _ s => s) emptyScanner (sampleRecovered.take 6)).shared.rows.map
        (fun r => (r.id, r.status)) = [(Uuid.ofDigit 1, .failed)] ∧
      (Runs.run (scannerStep fun _ _ s => s) emptyScanner sampleRecovered).shared.rows.map
        (fun r => (r.id, r.status)) = [(Uuid.ofDigit 1, .completed)] := by
  refine ⟨emptyScanner_initial, ?_, ?_⟩ <;> decide

/-- A scan inside its lease. -/
theorem ended_runs_stay_in_time :
    (Runs.run (scannerStep fun _ _ s => s) emptyScanner
      (sampleScan ++ sampleCompletion)).shared.rows.map ScannerRun.status = [.completed] ∧
    ∀ t, Runs.Reached (scannerStep fun _ _ s => s) emptyScanner (sampleScan ++ sampleCompletion) t →
      ∀ task ∈ t.tasks, ∀ run, task.stage = .returned run → run.status = .completed →
      ∀ r ∈ t.shared.rows, r.id = run.id → r.status = .completed :=
  ⟨by decide, (ended_runs_stay (fun _ _ s => s) emptyScanner_initial
    (show Runs.Meets _ (Fresh fun _ _ s => s) emptyScanner (sampleScan ++ sampleCompletion) by
      decide)
    (show Runs.Meets _ (CompletesRunning fun _ _ s => s) emptyScanner (sampleScan ++ sampleCompletion) by
      decide)).2.2⟩

end VeltrixEye.Scanner
