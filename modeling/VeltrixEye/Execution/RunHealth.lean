import VeltrixEye.Lib.Pool
import VeltrixEye.Lib.Rows
import VeltrixEye.Execution.Comparison

/-!
# Reconciliation runs and their health (`ReconciliationService`)

A run is committed with its findings in one transaction.  `resolveFinding` afterwards updates one finding
and recomputes the run row from a count, in separate statements: any number of such calls interleave.
-/

namespace VeltrixEye.Reconciliation

open Runs Rows

/-! ## Rows -/

inductive RunTrigger where
  | manual
  | startup
  | scheduled
  | post_submit
  deriving DecidableEq

inductive RunStatus where
  | started
  | provider_snapshot_acquired
  | matching
  | findings_created
  | resolved
  | no_action
  | failed

/-- `RECONCILIATION_HEALTH_STATES`. -/
inductive HealthState where
  | synchronized
  | mismatch_detected
  | uncertain
  | provider_unavailable
  | manual_resolution_required
  deriving DecidableEq

/-- `RECONCILIATION_FINDING_STATES`. -/
inductive FindingState where
  | «open»
  | acknowledged
  | resolved
  | ignored
  deriving DecidableEq

/-- `reconciliation_runs`. -/
structure RunRow where
  id : String
  userId : String
  executionProfileId : String
  providerId : String
  trigger : RunTrigger
  startedAt : ℤ
  finishedAt : Option ℤ
  status : RunStatus
  healthState : HealthState
  failureReason : Option String
  expectedOrders : ℕ
  expectedPositions : ℕ
  providerOrders : ℕ
  providerPositions : ℕ
  matchedOrders : ℕ
  matchedPositions : ℕ
  findingsTotal : ℕ
  findingsOpen : ℕ
  providerUnavailable : Bool

/-- `reconciliation_findings`. -/
structure FindingRow where
  id : String
  runId : String
  userId : String
  executionProfileId : String
  mismatch : Mismatch
  resolutionState : FindingState
  resolvedBy : Option String
  resolvedAt : Option ℤ
  resolutionNote : Option String

/-- `resolution_state IN ('open','acknowledged')`. -/
def FindingRow.unresolved (f : FindingRow) : Bool :=
  f.resolutionState = .«open» || f.resolutionState = .acknowledged

structure Tables where
  runs : List RunRow
  findings : List FindingRow

def Tables.empty : Tables := ⟨[], []⟩

/-- The findings of a run that are open or acknowledged. -/
def Tables.unresolved (d : Tables) (runId : String) : ℕ :=
  d.findings.countP fun f => f.runId = runId && f.unresolved

/-- An uncertain outcome of the run is open or acknowledged. -/
def Tables.UncertainOutcome (d : Tables) (runId : String) : Prop :=
  ∃ f ∈ d.findings, f.runId = runId ∧ f.unresolved = true ∧ f.mismatch.code = .uncertain_outcome

instance (d : Tables) (runId : String) : Decidable (d.UncertainOutcome runId) :=
  inferInstanceAs (Decidable (∃ f ∈ d.findings,
    f.runId = runId ∧ f.unresolved = true ∧ f.mismatch.code = .uncertain_outcome))

/-! ## A run -/

structure LoadedProfile where
  id : String
  userId : String
  providerSlug : String

structure TriggerRunOptions where
  userId : String
  executionProfileId : String
  trigger : RunTrigger
  providerId : Option String

def EXECUTION_FAILURE_CATEGORIES : List String :=
  ["authentication", "validation", "insufficient_funds", "market_closed", "rate_limited", "timeout",
    "unavailable", "rejected", "connection", "invalid_symbol", "invalid_volume", "invalid_price",
    "invalid_protection", "duplicate", "uncertain", "unknown"]

/-- How `getSnapshot` ended: a snapshot with the reason it gives, or an exception with the category of an
    `ExecutionProviderError`. -/
inductive SnapshotResult where
  | returned (snapshot : ProviderSnapshot) (providerUnavailableReason : Option String)
  | threw (category : Option String)

def providerFailureReason (category : Option String) : String :=
  "provider_error:" ++ ((category.filter fun c => c ∈ EXECUTION_FAILURE_CATEGORIES).getD "unknown")

def PROVIDER_FAILURE_UNKNOWN : String := "provider_error:unknown"

/-- `PERSISTED_REASON_TOKEN`. -/
def persistedReasonToken (reason : String) : Bool :=
  1 ≤ reason.length && reason.length ≤ 128 &&
    reason.toList.all fun c => ('a' ≤ c && c ≤ 'z') || c.isDigit || c ∈ ['_', ':', '.', '-']

def persistedFailureReason (reason : Option String) : String :=
  (reason.filter persistedReasonToken).getD PROVIDER_FAILURE_UNKNOWN

def SnapshotResult.snapshot : SnapshotResult → ProviderSnapshot
  | .returned snapshot _ => snapshot
  | .threw _ => ⟨[], [], true⟩

def SnapshotResult.unavailableReason : SnapshotResult → Option String
  | .returned snapshot reason =>
    if snapshot.providerUnavailable then some (persistedFailureReason reason) else none
  | .threw category => some (persistedFailureReason (some (providerFailureReason category)))

/-- What the transaction reads, and the ids its rows get. -/
structure RunInputs where
  runId : String
  findingId : ℕ → String
  /-- The start of the transaction on the database clock. -/
  dbNow : ℤ
  now : ℤ
  snapshot : SnapshotResult
  internalOrders : List LoadedOrder
  internalPositions : List LoadedPosition

def providerUnavailableFinding : Mismatch :=
  ⟨.provider_unavailable, .critical, .provider, none, none, none, none, some "provider_available"⟩

/-- The findings of a run, the provider's unavailability first. -/
def runFindings (inputs : RunInputs) : List Mismatch :=
  let compared := compareStates inputs.internalOrders inputs.internalPositions inputs.snapshot.snapshot
  if inputs.snapshot.snapshot.providerUnavailable then providerUnavailableFinding :: compared.findings
  else compared.findings

/-- The final status and health of a run. -/
def runOutcome (providerUnavailable : Bool) (findings : List Mismatch) : RunStatus × HealthState :=
  let openCount := findings.countP fun f => needsAttention f.code
  if providerUnavailable then (.failed, .provider_unavailable)
  else if findings.length = 0 then (.no_action, .synchronized)
  else (.resolved,
    if ∃ f ∈ findings, f.code = .uncertain_outcome then .uncertain
    else if ∃ f ∈ findings, f.severity = .error ∨ f.severity = .critical then .mismatch_detected
    else if openCount > 0 then .manual_resolution_required
    else .synchronized)

def runRow (profile : LoadedProfile) (opts : TriggerRunOptions) (inputs : RunInputs) : RunRow :=
  let snapshot := inputs.snapshot.snapshot
  let compared := compareStates inputs.internalOrders inputs.internalPositions snapshot
  let findings := runFindings inputs
  { id := inputs.runId
    userId := opts.userId
    executionProfileId := profile.id
    providerId := opts.providerId.getD profile.providerSlug
    trigger := opts.trigger
    startedAt := inputs.now
    finishedAt := some inputs.now
    status := (runOutcome snapshot.providerUnavailable findings).1
    healthState := (runOutcome snapshot.providerUnavailable findings).2
    failureReason := if snapshot.providerUnavailable then
        some (inputs.snapshot.unavailableReason.getD PROVIDER_FAILURE_UNKNOWN) else none
    expectedOrders := inputs.internalOrders.length
    expectedPositions := inputs.internalPositions.length
    providerOrders := snapshot.orders.length
    providerPositions := snapshot.positions.length
    matchedOrders := compared.matchedOrderPairs.length
    matchedPositions := compared.matchedPositionPairs.length
    findingsTotal := findings.length
    findingsOpen := findings.countP fun f => needsAttention f.code
    providerUnavailable := snapshot.providerUnavailable }

def findingRow (profile : LoadedProfile) (opts : TriggerRunOptions) (inputs : RunInputs)
    (entry : Mismatch × ℕ) : FindingRow where
  id := inputs.findingId entry.2
  runId := inputs.runId
  userId := opts.userId
  executionProfileId := profile.id
  mismatch := entry.1
  resolutionState := .«open»
  resolvedBy := none
  resolvedAt := none
  resolutionNote := none

def findingRows (profile : LoadedProfile) (opts : TriggerRunOptions) (inputs : RunInputs) :
    List FindingRow :=
  (runFindings inputs).zipIdx.map (findingRow profile opts inputs)

/-- The `CHECK`s on the provider's identifiers. -/
def validProviderId (id : Option String) : Bool := id.all fun s => 1 ≤ s.length && s.length ≤ 128

/-- The window in which a run of the same profile, provider and trigger is returned again. -/
def recentRun (profile : LoadedProfile) (opts : TriggerRunOptions) (dbNow : ℤ) (r : RunRow) : Bool :=
  r.executionProfileId = profile.id && r.providerId = opts.providerId.getD profile.providerSlug &&
    r.trigger = opts.trigger && dbNow - 30000 < r.startedAt

/-- `triggerRun`: one transaction under the advisory lock of the profile and the provider.  A statement
    that violates a constraint rolls it back. -/
def triggerRun (profiles : List LoadedProfile) (opts : TriggerRunOptions) (inputs : RunInputs)
    (d : Tables) : Tables :=
  match profiles.find? fun p => p.id = opts.executionProfileId && p.userId = opts.userId with
  | none => d
  | some profile =>
    let rows := findingRows profile opts inputs
    if d.runs.any (recentRun profile opts inputs.dbNow) then d
    else if inputs.runId ∈ d.runs.map (·.id) ∨ ¬ ((d.findings ++ rows).map (·.id)).Nodup ∨
        ¬ rows.all (fun f => validProviderId f.mismatch.providerOrderId &&
          validProviderId f.mismatch.providerPositionId) then d
    else ⟨d.runs ++ [runRow profile opts inputs], d.findings ++ rows⟩

/-! ## A resolution -/

/-- `RECONCILIATION_RESOLUTION_ACTIONS`. -/
inductive ResolutionAction where
  | acknowledge
  | mark_resolved
  | ignore

def ResolutionAction.state : ResolutionAction → FindingState
  | .acknowledge => .acknowledged
  | .mark_resolved => .resolved
  | .ignore => .ignored

/-- Where a call of `resolveFinding` stands: the statement it runs next. -/
inductive ResolveStage where
  | finding
  | updating (runId : String)
  | counting (runId : String)
  | readingRun (runId : String) (opened total : ℕ)
  | writing (runId : String) (opened total : ℕ) (providerUnavailable : Bool)
  | returned
  | threw

structure ResolveTask where
  userId : String
  findingId : String
  action : ResolutionAction
  note : Option String
  stage : ResolveStage

/-- `CHECK (resolution_note IS NULL OR char_length(resolution_note) BETWEEN 1 AND 500)`. -/
def validNote (note : Option String) : Bool := note.all fun s => 1 ≤ s.length && s.length ≤ 500

/-- The run a call is going to recompute; a note the table refuses ends the call before. -/
def ResolveTask.runId (t : ResolveTask) : Option String :=
  match t.stage with
  | .updating runId => if validNote t.note then some runId else none
  | .counting runId => some runId
  | .readingRun runId _ _ => some runId
  | .writing runId _ _ _ => some runId
  | _ => none

/-- `UPDATE reconciliation_findings … WHERE id = $1 AND user_id = $3`. -/
def ResolveTask.updateFinding (t : ResolveTask) (now : ℤ) (f : FindingRow) : FindingRow :=
  if f.id = t.findingId ∧ f.userId = t.userId then
    { f with
      resolutionState := t.action.state
      resolvedBy := some t.userId
      resolvedAt := if t.action.state = .acknowledged then none else some now
      resolutionNote := t.note }
  else f

/-- The health `recomputeRunHealth` derives. -/
def recomputedHealth (providerUnavailable : Bool) (opened total : ℕ) : HealthState :=
  if providerUnavailable then .provider_unavailable
  else if total = 0 then .synchronized
  else if opened = 0 then .synchronized
  else .manual_resolution_required

/-- `UPDATE reconciliation_runs … WHERE id = $1`. -/
def writeRun (runId : String) (opened total : ℕ) (providerUnavailable : Bool) (r : RunRow) : RunRow :=
  if r.id = runId then
    { r with
      findingsOpen := opened
      findingsTotal := total
      healthState := recomputedHealth providerUnavailable opened total }
  else r

/-- One statement of `resolveFinding` and of the `recomputeRunHealth` it calls. -/
def resolveStep (now : ℤ) (d : Tables) (t : ResolveTask) : Tables × ResolveTask :=
  match t.stage with
  | .finding =>
    match d.findings.find? fun f => f.id = t.findingId && f.userId = t.userId with
    | some f => (d, { t with stage := .updating f.runId })
    | none => (d, { t with stage := .threw })
  | .updating runId =>
    if validNote t.note then
      (⟨d.runs, d.findings.map (t.updateFinding now)⟩, { t with stage := .counting runId })
    else (d, { t with stage := .threw })
  | .counting runId =>
    let opened := d.findings.countP fun f => f.runId = runId && f.userId = t.userId && f.unresolved
    let total := d.findings.countP fun f => f.runId = runId && f.userId = t.userId
    (d, { t with stage := .readingRun runId opened total })
  | .readingRun runId opened total =>
    let run := d.runs.find? fun r => r.id = runId && r.userId = t.userId
    let providerUnavailable := (run.map (·.providerUnavailable)).getD false
    (d, { t with stage := .writing runId opened total providerUnavailable })
  | .writing runId opened total providerUnavailable =>
    (⟨d.runs.map (writeRun runId opened total providerUnavailable), d.findings⟩,
      { t with stage := .returned })
  | .returned => (d, t)
  | .threw => (d, t)

/-! ## The system -/

abbrev ReconciliationPool := Pool Tables ResolveTask

inductive ReconciliationAction where
  | triggerRun (opts : TriggerRunOptions) (inputs : RunInputs)
  | resolveFinding (userId findingId : String) (action : ResolutionAction) (note : Option String)
  | work (w : ℕ) (now : ℤ)

def reconciliationStep (profiles : List LoadedProfile) (p : ReconciliationPool) :
    ReconciliationAction → ReconciliationPool
  | .triggerRun opts inputs => p.update fun d _ => triggerRun profiles opts inputs d
  | .resolveFinding userId findingId action note => p.spawn ⟨userId, findingId, action, note, .finding⟩
  | .work w now => p.advance (fun d _ t => resolveStep now d t) w

def emptyPool : ReconciliationPool := ⟨.empty, []⟩

/-- No call is going to recompute the run. -/
def Quiescent (tasks : List ResolveTask) (runId : String) : Prop := ∀ t ∈ tasks, t.runId ≠ some runId

/-- What the run row says about its findings. -/
structure ReflectsFindings (d : Tables) (r : RunRow) : Prop where
  findingsOpen : r.findingsOpen = d.unresolved r.id
  uncertain : r.providerUnavailable = false → d.UncertainOutcome r.id → r.healthState = .uncertain
  synchronized : r.providerUnavailable = false →
    (r.healthState = .synchronized ↔ d.unresolved r.id = 0)

/-- The last call that recomputes a run writes the number of unresolved findings the run still has, and
    leaves no uncertain outcome. -/
def LastRecountCurrent (p : ReconciliationPool) : ReconciliationAction → Prop
  | .work w _ => ∀ t ∈ p.tasks[w]?, ∀ runId opened total providerUnavailable,
    t.stage = .writing runId opened total providerUnavailable → Quiescent (p.others w) runId →
      opened = p.shared.unresolved runId ∧
        (providerUnavailable = false → ¬ p.shared.UncertainOutcome runId)
  | _ => True

/-! ## What a run is committed with -/

theorem findingRows_runId {profile : LoadedProfile} {opts : TriggerRunOptions} {inputs : RunInputs}
    {f : FindingRow} (hf : f ∈ findingRows profile opts inputs) :
    f.runId = inputs.runId ∧ f.userId = opts.userId ∧ f.unresolved = true := by
  obtain ⟨entry, -, rfl⟩ := List.mem_map.mp hf
  exact ⟨rfl, rfl, rfl⟩

theorem findingRows_mismatch (profile : LoadedProfile) (opts : TriggerRunOptions) (inputs : RunInputs) :
    (findingRows profile opts inputs).map (·.mismatch) = runFindings inputs := by
  unfold findingRows
  rw [List.map_map]
  have hfst : (fun f : FindingRow => f.mismatch) ∘ findingRow profile opts inputs = Prod.fst := rfl
  rw [hfst, List.zipIdx_map_fst]

theorem runRow_findingsOpen (profile : LoadedProfile) (opts : TriggerRunOptions) (inputs : RunInputs) :
    (runRow profile opts inputs).findingsOpen = (runFindings inputs).length := by
  show (runFindings inputs).countP (fun f => needsAttention f.code) = _
  rw [List.countP_eq_length]
  simp

theorem runOutcome_health {findings : List Mismatch} :
    ((∃ f ∈ findings, f.code = .uncertain_outcome) → (runOutcome false findings).2 = .uncertain) ∧
    ((runOutcome false findings).2 = .synchronized ↔ findings = []) := by
  have hcount : findings.countP (fun f => needsAttention f.code) = findings.length := by
    rw [List.countP_eq_length]
    simp
  cases findings with
  | nil => simp [runOutcome]
  | cons f fs =>
    constructor
    · intro h
      simp only [runOutcome, if_pos h]
      simp
    · simp only [runOutcome, hcount]
      split_ifs <;> simp_all

/-! ## What a step keeps -/

section Keeps

variable {profiles : List LoadedProfile} {d d' : Tables} {t : ResolveTask}

/-- Unique ids, and findings of their owner's run. -/
structure TablesOk (d : Tables) : Prop where
  runIds : (d.runs.map (·.id)).Nodup
  findingIds : (d.findings.map (·.id)).Nodup
  owner : ∀ f ∈ d.findings, ∃ r ∈ d.runs, r.id = f.runId ∧ r.userId = f.userId

theorem tablesOk_empty : TablesOk .empty := ⟨List.nodup_nil, List.nodup_nil, by simp [Tables.empty]⟩

/-- The rows of `d` are still there, with what never changes of them. -/
structure Extends (d d' : Tables) : Prop where
  runs : ∀ r ∈ d.runs, ∃ r' ∈ d'.runs, r'.id = r.id ∧ r'.userId = r.userId ∧
    r'.providerUnavailable = r.providerUnavailable
  findings : ∀ f ∈ d.findings, ∃ f' ∈ d'.findings, f'.id = f.id ∧ f'.runId = f.runId ∧ f'.userId = f.userId

theorem Extends.refl (d : Tables) : Extends d d :=
  ⟨fun r hr => ⟨r, hr, rfl, rfl, rfl⟩, fun f hf => ⟨f, hf, rfl, rfl, rfl⟩⟩

/-- What a call in flight knows. -/
def TaskOk (d : Tables) (t : ResolveTask) : Prop :=
  match t.stage with
  | .updating runId => ∃ f ∈ d.findings, f.id = t.findingId ∧ f.runId = runId ∧ f.userId = t.userId
  | .counting runId => ∃ r ∈ d.runs, r.id = runId ∧ r.userId = t.userId
  | .readingRun runId opened total =>
    (∃ r ∈ d.runs, r.id = runId ∧ r.userId = t.userId) ∧ opened ≤ total
  | .writing runId opened total providerUnavailable =>
    (∃ r ∈ d.runs, r.id = runId ∧ r.providerUnavailable = providerUnavailable) ∧ opened ≤ total
  | _ => True

theorem TaskOk.extend (h : TaskOk d t) (hext : Extends d d') : TaskOk d' t := by
  unfold TaskOk at h ⊢
  split at h
  · obtain ⟨f, hf, hid, hrun, huser⟩ := h
    obtain ⟨f', hf', hid', hrun', huser'⟩ := hext.findings f hf
    exact ⟨f', hf', hid'.trans hid, hrun'.trans hrun, huser'.trans huser⟩
  · obtain ⟨r, hr, hid, huser⟩ := h
    obtain ⟨r', hr', hid', huser', -⟩ := hext.runs r hr
    exact ⟨r', hr', hid'.trans hid, huser'.trans huser⟩
  · obtain ⟨⟨r, hr, hid, huser⟩, hle⟩ := h
    obtain ⟨r', hr', hid', huser', -⟩ := hext.runs r hr
    exact ⟨⟨r', hr', hid'.trans hid, huser'.trans huser⟩, hle⟩
  · obtain ⟨⟨r, hr, hid, havail⟩, hle⟩ := h
    obtain ⟨r', hr', hid', -, havail'⟩ := hext.runs r hr
    exact ⟨⟨r', hr', hid'.trans hid, havail'.trans havail⟩, hle⟩
  · trivial

/-- What a committed run adds. -/
inductive Triggered (profiles : List LoadedProfile) (opts : TriggerRunOptions) (inputs : RunInputs)
    (d : Tables) : Tables → Prop where
  | unchanged : Triggered profiles opts inputs d d
  | committed (profile : LoadedProfile) (hrun : inputs.runId ∉ d.runs.map (·.id))
      (hfindings : ((d.findings ++ findingRows profile opts inputs).map (·.id)).Nodup) :
      Triggered profiles opts inputs d
        ⟨d.runs ++ [runRow profile opts inputs], d.findings ++ findingRows profile opts inputs⟩

theorem triggerRun_cases (profiles : List LoadedProfile) (opts : TriggerRunOptions) (inputs : RunInputs)
    (d : Tables) : Triggered profiles opts inputs d (triggerRun profiles opts inputs d) := by
  unfold triggerRun
  split
  · exact .unchanged
  rename_i profile _
  dsimp only
  split
  · exact .unchanged
  split
  · exact .unchanged
  · rename_i hok
    push Not at hok
    exact .committed profile hok.1 hok.2.1

theorem triggerRun_ok {opts : TriggerRunOptions} {inputs : RunInputs} (h : TablesOk d)
    (hd : Triggered profiles opts inputs d d') : TablesOk d' ∧ Extends d d' := by
  cases hd with
  | unchanged => exact ⟨h, Extends.refl d⟩
  | committed profile hrun hfindings =>
    refine ⟨⟨nodup_map_concat h.runIds fun r hr e => ?_, hfindings, fun f hf => ?_⟩, ?_, ?_⟩
    · exact hrun (List.mem_map.mpr ⟨r, hr, e⟩)
    · rcases List.mem_append.mp hf with hf | hf
      · obtain ⟨r, hr, hid, huser⟩ := h.owner f hf
        exact ⟨r, List.mem_append_left _ hr, hid, huser⟩
      · obtain ⟨hid, huser, -⟩ := findingRows_runId hf
        exact ⟨_, List.mem_append_right _ List.mem_cons_self, hid.symm, huser.symm⟩
    · exact fun r hr => ⟨r, List.mem_append_left _ hr, rfl, rfl, rfl⟩
    · exact fun f hf => ⟨f, List.mem_append_left _ hf, rfl, rfl, rfl⟩

theorem updateFinding_keeps (t : ResolveTask) (now : ℤ) (f : FindingRow) :
    (t.updateFinding now f).id = f.id ∧ (t.updateFinding now f).runId = f.runId ∧
      (t.updateFinding now f).userId = f.userId ∧ (t.updateFinding now f).mismatch = f.mismatch := by
  unfold ResolveTask.updateFinding
  split <;> exact ⟨rfl, rfl, rfl, rfl⟩

theorem writeRun_keeps (runId : String) (opened total : ℕ) (providerUnavailable : Bool) (r : RunRow) :
    (writeRun runId opened total providerUnavailable r).id = r.id ∧
      (writeRun runId opened total providerUnavailable r).userId = r.userId ∧
      (writeRun runId opened total providerUnavailable r).providerUnavailable = r.providerUnavailable := by
  unfold writeRun
  split <;> exact ⟨rfl, rfl, rfl⟩

theorem updateFindings_ok (h : TablesOk d) (t : ResolveTask) (now : ℤ) :
    TablesOk ⟨d.runs, d.findings.map (t.updateFinding now)⟩ ∧
      Extends d ⟨d.runs, d.findings.map (t.updateFinding now)⟩ := by
  refine ⟨⟨h.runIds, nodup_map_map h.findingIds fun f _ => (updateFinding_keeps t now f).1, ?_⟩,
    fun r hr => ⟨r, hr, rfl, rfl, rfl⟩, ?_⟩
  · intro f hf
    obtain ⟨g, hg, rfl⟩ := List.mem_map.mp hf
    obtain ⟨r, hr, hid, huser⟩ := h.owner g hg
    obtain ⟨-, hrun, howner, -⟩ := updateFinding_keeps t now g
    exact ⟨r, hr, hid.trans hrun.symm, huser.trans howner.symm⟩
  · intro f hf
    obtain ⟨hid, hrun, howner, -⟩ := updateFinding_keeps t now f
    exact ⟨_, List.mem_map.mpr ⟨f, hf, rfl⟩, hid, hrun, howner⟩

theorem writeRuns_ok (h : TablesOk d) (runId : String) (opened total : ℕ) (providerUnavailable : Bool) :
    TablesOk ⟨d.runs.map (writeRun runId opened total providerUnavailable), d.findings⟩ ∧
      Extends d ⟨d.runs.map (writeRun runId opened total providerUnavailable), d.findings⟩ := by
  refine ⟨⟨nodup_map_map h.runIds fun r _ => (writeRun_keeps runId opened total providerUnavailable r).1,
    h.findingIds, ?_⟩, ?_, fun f hf => ⟨f, hf, rfl, rfl, rfl⟩⟩
  · intro f hf
    obtain ⟨r, hr, hid, huser⟩ := h.owner f hf
    obtain ⟨hid', huser', -⟩ := writeRun_keeps runId opened total providerUnavailable r
    exact ⟨_, List.mem_map.mpr ⟨r, hr, rfl⟩, hid'.trans hid, huser'.trans huser⟩
  · intro r hr
    exact ⟨_, List.mem_map.mpr ⟨r, hr, rfl⟩, writeRun_keeps runId opened total providerUnavailable r⟩

theorem resolveStep_ok (h : TablesOk d) (ht : TaskOk d t) (now : ℤ) {r : Tables × ResolveTask}
    (hr : resolveStep now d t = r) : TablesOk r.1 ∧ Extends d r.1 ∧ TaskOk r.1 r.2 := by
  subst hr
  unfold resolveStep
  cases hstage : t.stage with
  | finding =>
    dsimp only
    split
    · rename_i f hf
      refine ⟨h, Extends.refl d, f, List.mem_of_find?_eq_some hf, ?_⟩
      have hmatch := List.find?_some hf
      simp only [Bool.and_eq_true, decide_eq_true_eq] at hmatch
      exact ⟨hmatch.1, rfl, hmatch.2⟩
    · exact ⟨h, Extends.refl d, trivial⟩
  | updating runId =>
    dsimp only
    split
    · obtain ⟨hok, hext⟩ := updateFindings_ok h t now
      refine ⟨hok, hext, ?_⟩
      simp only [TaskOk, hstage] at ht
      obtain ⟨f, hf, -, hrun, huser⟩ := ht
      obtain ⟨r, hr, hid, hown⟩ := h.owner f hf
      exact ⟨r, hr, hid.trans hrun, hown.trans huser⟩
    · exact ⟨h, Extends.refl d, trivial⟩
  | counting runId =>
    simp only [TaskOk, hstage] at ht
    refine ⟨h, Extends.refl d, ht, List.countP_mono_left fun f _ hf => ?_⟩
    simp only [Bool.and_eq_true] at hf ⊢
    exact hf.1
  | readingRun runId opened total =>
    simp only [TaskOk, hstage] at ht
    obtain ⟨⟨r, hr, hid, huser⟩, hle⟩ := ht
    refine ⟨h, Extends.refl d, ⟨r, hr, hid, ?_⟩, hle⟩
    cases hfind : d.runs.find? fun r => r.id = runId && r.userId = t.userId with
    | none =>
      rw [List.find?_eq_none] at hfind
      exact absurd (by simp [hid, huser]) (hfind r hr)
    | some r' =>
      have hmatch := List.find?_some hfind
      simp only [Bool.and_eq_true, decide_eq_true_eq] at hmatch
      have heq : r' = r := eq_of_key h.runIds (List.mem_of_find?_eq_some hfind) hr (hmatch.1.trans hid.symm)
      rw [heq]
      rfl
  | writing runId opened total providerUnavailable =>
    obtain ⟨hok, hext⟩ := writeRuns_ok h runId opened total providerUnavailable
    exact ⟨hok, hext, trivial⟩
  | returned => exact ⟨h, Extends.refl d, ht⟩
  | threw => exact ⟨h, Extends.refl d, ht⟩

end Keeps

/-! ## Quiescent runs reflect their findings -/

section Reflects

variable {profiles : List LoadedProfile} {d d' : Tables} {p : ReconciliationPool} {r : RunRow}

/-- The findings of a run. -/
def Tables.findingsOf (d : Tables) (runId : String) : List FindingRow :=
  d.findings.filter fun f => f.runId = runId

theorem mem_findingsOf {runId : String} {f : FindingRow} :
    f ∈ d.findingsOf runId ↔ f ∈ d.findings ∧ f.runId = runId := by
  simp [Tables.findingsOf]

theorem unresolved_eq (d : Tables) (runId : String) :
    d.unresolved runId = (d.findingsOf runId).countP (·.unresolved) := by
  unfold Tables.unresolved Tables.findingsOf
  rw [List.countP_filter]
  refine List.countP_congr fun f _ => ?_
  rw [Bool.and_comm]

theorem uncertainOutcome_iff (d : Tables) (runId : String) :
    d.UncertainOutcome runId ↔
      ∃ f ∈ d.findingsOf runId, f.unresolved = true ∧ f.mismatch.code = .uncertain_outcome := by
  constructor
  · rintro ⟨f, hf, hrun, hrest⟩
    exact ⟨f, mem_findingsOf.mpr ⟨hf, hrun⟩, hrest⟩
  · rintro ⟨f, hf, hrest⟩
    obtain ⟨hf, hrun⟩ := mem_findingsOf.mp hf
    exact ⟨f, hf, hrun, hrest⟩

theorem ReflectsFindings.congr (h : ReflectsFindings d r) (hfindings : d'.findingsOf r.id = d.findingsOf r.id) :
    ReflectsFindings d' r := by
  have hcount : d'.unresolved r.id = d.unresolved r.id := by
    rw [unresolved_eq, unresolved_eq, hfindings]
  refine ⟨h.findingsOpen.trans hcount.symm, fun havail huncertain => h.uncertain havail ?_, ?_⟩
  · rw [uncertainOutcome_iff] at huncertain ⊢
    rwa [hfindings] at huncertain
  · rw [hcount]
    exact h.synchronized

/-- Every run that no call is about to recompute reflects its findings. -/
def Reflecting (p : ReconciliationPool) : Prop :=
  ∀ r ∈ p.shared.runs, Quiescent p.tasks r.id → ReflectsFindings p.shared r

theorem runRow_reflects {profile : LoadedProfile} {opts : TriggerRunOptions} {inputs : RunInputs}
    (h : d.findingsOf inputs.runId = findingRows profile opts inputs) :
    ReflectsFindings d (runRow profile opts inputs) := by
  have hid : (runRow profile opts inputs).id = inputs.runId := rfl
  have hcount : d.unresolved inputs.runId = (runFindings inputs).length := by
    rw [unresolved_eq, h, ← findingRows_mismatch profile opts inputs, List.length_map,
      List.countP_eq_length]
    exact fun f hf => (findingRows_runId hf).2.2
  have houtcome : (runRow profile opts inputs).providerUnavailable = false →
      (runRow profile opts inputs).healthState = (runOutcome false (runFindings inputs)).2 := by
    intro havail
    show (runOutcome inputs.snapshot.snapshot.providerUnavailable _).2 = _
    rw [show inputs.snapshot.snapshot.providerUnavailable = false from havail]
  refine ⟨?_, ?_, ?_⟩
  · rw [runRow_findingsOpen, hid, hcount]
  · intro havail huncertain
    rw [houtcome havail]
    refine runOutcome_health.1 ?_
    rw [hid, uncertainOutcome_iff, h] at huncertain
    obtain ⟨f, hf, -, hcode⟩ := huncertain
    refine ⟨f.mismatch, ?_, hcode⟩
    rw [← findingRows_mismatch profile opts inputs]
    exact List.mem_map_of_mem hf
  · intro havail
    rw [houtcome havail, runOutcome_health.2, hid, hcount, List.length_eq_zero_iff]

theorem triggered_reflects {opts : TriggerRunOptions} {inputs : RunInputs} {tasks : List ResolveTask}
    (hok : TablesOk d) (h : Reflecting ⟨d, tasks⟩) (hd : Triggered profiles opts inputs d d') :
    Reflecting ⟨d', tasks⟩ := by
  cases hd with
  | unchanged => exact h
  | committed profile hrun hfindings =>
    have hother : ∀ runId, runId ≠ inputs.runId →
        (findingRows profile opts inputs).filter (fun f => f.runId = runId) = [] := by
      intro runId hne
      rw [List.filter_eq_nil_iff]
      intro f hf
      rw [(findingRows_runId hf).1]
      simpa using Ne.symm hne
    intro r hr hquiet
    rcases List.mem_append.mp hr with hr | hr
    · have hne : r.id ≠ inputs.runId := fun e => hrun (List.mem_map.mpr ⟨r, hr, e⟩)
      refine (h r hr hquiet).congr ?_
      simp only [Tables.findingsOf, List.filter_append, hother r.id hne, List.append_nil]
    · rw [List.mem_singleton.mp hr]
      refine runRow_reflects ?_
      have hold : d.findings.filter (fun f => f.runId = inputs.runId) = [] := by
        rw [List.filter_eq_nil_iff]
        intro f hf hid
        obtain ⟨r', hr', hid', -⟩ := hok.owner f hf
        exact hrun (List.mem_map.mpr ⟨r', hr', hid'.trans (of_decide_eq_true hid)⟩)
      have hnew : (findingRows profile opts inputs).filter (fun f => f.runId = inputs.runId) =
          findingRows profile opts inputs := by
        rw [List.filter_eq_self]
        exact fun f hf => decide_eq_true (findingRows_runId hf).1
      simp only [Tables.findingsOf, List.filter_append, hold, hnew, List.nil_append]

theorem findingsOf_update (hok : TablesOk d) {t : ResolveTask} (now : ℤ) {f : FindingRow}
    (hf : f ∈ d.findings) (hid : f.id = t.findingId) {runId : String} (hne : f.runId ≠ runId) :
    Tables.findingsOf ⟨d.runs, d.findings.map (t.updateFinding now)⟩ runId = d.findingsOf runId := by
  unfold Tables.findingsOf
  rw [List.filter_map]
  have hkeys : (fun g : FindingRow => decide (g.runId = runId)) ∘ t.updateFinding now =
      fun g => decide (g.runId = runId) := by
    funext g
    simp only [Function.comp_apply, (updateFinding_keeps t now g).2.1]
  rw [hkeys]
  conv_rhs => rw [← List.map_id (d.findings.filter fun g => decide (g.runId = runId))]
  refine List.map_congr_left fun g hg => ?_
  obtain ⟨hg, hrun⟩ := List.mem_filter.mp hg
  unfold ResolveTask.updateFinding
  rw [if_neg]
  · rfl
  · rintro ⟨hgid, -⟩
    have hgf : g = f := eq_of_key hok.findingIds hg hf (hgid.trans hid.symm)
    rw [hgf] at hrun
    exact hne (of_decide_eq_true hrun)

theorem quiescent_of_set {tasks : List ResolveTask} {w : ℕ} {t t' : ResolveTask} {runId : String}
    (hw : tasks[w]? = some t) (h : Quiescent (tasks.set w t') runId)
    (ht : t.runId = some runId → t'.runId = some runId) : Quiescent tasks runId := by
  intro u hu hrun
  obtain ⟨i, hi⟩ := List.getElem?_of_mem hu
  by_cases hiw : i = w
  · subst hiw
    have hlt : i < tasks.length := (List.getElem?_eq_some_iff.mp hw).1
    rw [hw] at hi
    cases hi
    refine h t' (List.mem_of_getElem? (i := i) ?_) (ht hrun)
    rw [List.getElem?_set_self hlt]
  · refine h u (List.mem_of_getElem? (i := i) ?_) hrun
    rw [List.getElem?_set_ne (Ne.symm hiw)]
    exact hi

theorem quiescent_others {w : ℕ} {t' : ResolveTask} {runId : String}
    (h : Quiescent (p.tasks.set w t') runId) : Quiescent (p.others w) runId := by
  intro u hu
  obtain ⟨i, hi, hget⟩ := Pool.mem_others.mp hu
  refine h u (List.mem_of_getElem? (i := i) ?_)
  rw [List.getElem?_set_ne (Ne.symm hi)]
  exact hget

/-- The invariant of every run of the system. -/
abbrev SystemOk (p : ReconciliationPool) : Prop := Pool.Safe TablesOk TaskOk (fun _ _ => True) p

theorem systemOk_empty : SystemOk emptyPool :=
  ⟨tablesOk_empty, by simp [emptyPool], fun _ _ _ _ _ _ _ => trivial⟩

theorem reconciliationStep_ok (h : SystemOk p) (a : ReconciliationAction) :
    SystemOk (reconciliationStep profiles p a) := by
  cases a with
  | triggerRun opts inputs =>
    obtain ⟨hok, hext⟩ := triggerRun_ok h.shared (triggerRun_cases profiles opts inputs p.shared)
    exact Pool.safe_update (f := fun d _ => triggerRun profiles opts inputs d) h hok fun t ht =>
      (h.task t ht).extend hext
  | resolveFinding userId findingId action note =>
    exact Pool.safe_spawn h trivial fun _ _ => ⟨trivial, trivial⟩
  | work w now =>
    refine Pool.safe_advance (f := fun d _ t => resolveStep now d t) h w fun t r hw hr => ?_
    obtain ⟨hok, hext, htask⟩ :=
      resolveStep_ok h.shared (h.task t (List.mem_of_getElem? hw)) now hr
    exact ⟨hok, htask, fun t' ht' => ⟨(h.other hw ht').1.extend hext, trivial, trivial⟩⟩

theorem writeRun_reflects {runId : String} {opened total : ℕ} (hid : r.id = runId) (hle : opened ≤ total) :
    ReflectsFindings d (writeRun runId opened total r.providerUnavailable r) ↔
      opened = d.unresolved runId ∧ (r.providerUnavailable = false → ¬ d.UncertainOutcome runId) := by
  have hwrite : writeRun runId opened total r.providerUnavailable r =
      { r with
        findingsOpen := opened
        findingsTotal := total
        healthState := recomputedHealth r.providerUnavailable opened total } := if_pos hid
  rw [hwrite]
  constructor
  · intro h
    refine ⟨h.findingsOpen.trans (by rw [hid]), fun havail huncertain => ?_⟩
    have hhealth := h.uncertain havail (by rwa [hid])
    simp only [recomputedHealth, havail] at hhealth
    split_ifs at hhealth
  · rintro ⟨hopen, huncertain⟩
    refine ⟨hopen.trans (by rw [hid]), fun havail h => absurd ?_ (huncertain havail), fun havail => ?_⟩
    · rwa [hid] at h
    · show recomputedHealth r.providerUnavailable opened total = .synchronized ↔ d.unresolved r.id = 0
      rw [hid, ← hopen]
      simp only [recomputedHealth, show r.providerUnavailable = false from havail]
      split_ifs <;> simp_all

/-- **Step lemma.** -/
theorem reconciliationStep_reflecting (h : SystemOk p) (hreflecting : Reflecting p)
    {a : ReconciliationAction} (ha : LastRecountCurrent p a) :
    Reflecting (reconciliationStep profiles p a) := by
  cases a with
  | triggerRun opts inputs =>
    exact triggered_reflects h.shared hreflecting (triggerRun_cases profiles opts inputs p.shared)
  | resolveFinding userId findingId action note =>
    intro r hr hquiet
    exact hreflecting r hr fun t ht => hquiet t (List.mem_append_left _ ht)
  | work w now =>
    cases hw : p.tasks[w]? with
    | none =>
      simp only [reconciliationStep, Pool.advance_of_none hw]
      exact hreflecting
    | some t =>
      have htask := h.task t (List.mem_of_getElem? hw)
      have hcurrent := ha t hw
      simp only [reconciliationStep, Pool.advance_of_get hw]
      -- a statement that leaves the tables alone goes on with the same run
      have stays : ∀ t', (∀ runId, t.runId = some runId → t'.runId = some runId) →
          Reflecting ⟨p.shared, p.tasks.set w t'⟩ := fun t' ht' r hr hquiet =>
        hreflecting r hr (quiescent_of_set hw hquiet (ht' r.id))
      unfold resolveStep
      cases hstage : t.stage with
      | finding =>
        dsimp only
        split <;> exact stays _ (by simp [ResolveTask.runId, hstage])
      | updating runId =>
        simp only [TaskOk, hstage] at htask
        obtain ⟨f, hf, hid, hrun, -⟩ := htask
        dsimp only
        split
        · rename_i hnote
          intro r hr hquiet
          have hne : f.runId ≠ r.id := by
            intro e
            have hlt : w < p.tasks.length := (List.getElem?_eq_some_iff.mp hw).1
            exact hquiet _ (List.mem_set hlt _) (by simp [ResolveTask.runId, ← e, hrun])
          have hquiet' : Quiescent p.tasks r.id :=
            quiescent_of_set hw hquiet (by simp [ResolveTask.runId, hstage])
          exact (hreflecting r hr hquiet').congr (findingsOf_update h.shared now hf hid hne)
        · rename_i hnote
          exact stays _ (by simp [ResolveTask.runId, hstage, hnote])
      | counting runId => exact stays _ (by simp [ResolveTask.runId, hstage])
      | readingRun runId opened total => exact stays _ (by simp [ResolveTask.runId, hstage])
      | writing runId opened total providerUnavailable =>
        simp only [TaskOk, hstage] at htask
        obtain ⟨⟨r₀, hr₀, hid₀, havail⟩, hle⟩ := htask
        intro r' hr' hquiet
        obtain ⟨r, hr, rfl⟩ := List.mem_map.mp hr'
        by_cases hid : r.id = runId
        · have heq : r = r₀ := eq_of_key h.shared.runIds hr hr₀ (hid.trans hid₀.symm)
          subst heq havail
          rw [(writeRun_keeps runId opened total _ r).1, hid] at hquiet
          exact (writeRun_reflects hid hle).mpr
            (hcurrent runId opened total _ hstage (quiescent_others hquiet))
        · have hsame : writeRun runId opened total providerUnavailable r = r := if_neg hid
          rw [hsame] at hquiet ⊢
          exact (hreflecting r hr (quiescent_of_set hw hquiet fun hrun => by
            simp only [ResolveTask.runId, hstage, Option.some.injEq] at hrun
            exact absurd hrun.symm hid)).congr rfl
      | returned => exact stays _ fun _ hrun => hrun
      | threw => exact stays _ fun _ hrun => hrun

theorem recountCurrent_of_reflecting (h : SystemOk p) {a : ReconciliationAction}
    (hreflecting : Reflecting (reconciliationStep profiles p a)) : LastRecountCurrent p a := by
  cases a with
  | triggerRun opts inputs => trivial
  | resolveFinding userId findingId action note => trivial
  | work w now =>
    intro t hw runId opened total providerUnavailable hstage hquiet
    have htask := h.task t (List.mem_of_getElem? hw)
    simp only [TaskOk, hstage] at htask
    obtain ⟨⟨r, hr, hid, rfl⟩, hle⟩ := htask
    simp only [reconciliationStep, Pool.advance_of_get hw, resolveStep, hstage] at hreflecting
    have hafter : Quiescent (p.tasks.set w { t with stage := .returned }) runId := by
      intro u hu
      obtain ⟨i, hi⟩ := List.getElem?_of_mem hu
      rcases Pool.getElem?_set_cases hi with ⟨-, rfl⟩ | ⟨hne, hget⟩
      · simp [ResolveTask.runId]
      · exact hquiet u (Pool.mem_others.mpr ⟨i, hne, hget⟩)
    have hrow := hreflecting _ (List.mem_map_of_mem hr)
      (by rwa [(writeRun_keeps runId opened total _ r).1, hid])
    exact (writeRun_reflects hid hle).mp (hrow.congr rfl)

end Reflects

/-- **Run health reflects the unresolved findings**: in every run of the system, the row of each run that
    no call is about to recompute reflects the findings, exactly when every last recount is current. -/
theorem run_health_reflects_findings_iff (profiles : List LoadedProfile) (as : List ReconciliationAction) :
    (∀ p, Reached (reconciliationStep profiles) emptyPool as p →
      ∀ r ∈ p.shared.runs, Quiescent p.tasks r.id → ReflectsFindings p.shared r) ↔
    Meets (reconciliationStep profiles) LastRecountCurrent emptyPool as := by
  constructor
  · intro h
    rw [meets_iff_forall_action]
    intro pre a post has
    have hkeeps : ∀ p a, SystemOk p → SystemOk (reconciliationStep profiles p a) :=
      fun _ a hp => reconciliationStep_ok hp a
    exact recountCurrent_of_reflecting (inv_run_always _ hkeeps systemOk_empty pre)
      (h _ (reached_step _ has))
  · intro hmeets p hp
    have hstep : ∀ p a, SystemOk p ∧ Reflecting p → LastRecountCurrent p a →
        SystemOk (reconciliationStep profiles p a) ∧ Reflecting (reconciliationStep profiles p a) :=
      fun p a h ha => ⟨reconciliationStep_ok h.1 a, reconciliationStep_reflecting h.1 h.2 ha⟩
    have hstart : SystemOk emptyPool ∧ Reflecting emptyPool :=
      ⟨systemOk_empty, fun r hr => by cases hr⟩
    exact (inv_of_reached _ hstep hstart hmeets hp).2

/-! ## An acknowledged uncertain outcome -/

def sampleBrokerProfile : LoadedProfile := ⟨"profile", "user", "broker"⟩

/-- An order that was submitted and that the provider does not show. -/
def submittedOrder : LoadedOrder where
  id := "order"
  clientOrderId := "ve-1"
  providerOrderId := none
  symbol := "EURUSD"
  side := .buy
  quantity := 0
  filledQuantity := 0
  averageFillPrice := none
  stopLossPrice := none
  takeProfitPrice := none
  status := .submitted
  idempotencyKey := "key"

def sampleInputs : RunInputs where
  runId := "run"
  findingId := fun _ => "finding"
  dbNow := 0
  now := 0
  snapshot := .returned ⟨[], [], false⟩ none
  internalOrders := [submittedOrder]
  internalPositions := []

/-- The run, and a call that acknowledges its only finding. -/
def acknowledgedRun : List ReconciliationAction :=
  [.triggerRun ⟨"user", "profile", .manual, none⟩ sampleInputs,
    .resolveFinding "user" "finding" .acknowledge none,
    .work 0 1, .work 0 2, .work 0 3, .work 0 4, .work 0 5]

/-- Acknowledging the uncertain outcome of a run hides it. -/
theorem acknowledging_hides_uncertain_outcome :
    ¬ ∀ (profiles : List LoadedProfile) (as : List ReconciliationAction),
      ∀ p, Reached (reconciliationStep profiles) emptyPool as p →
        ∀ r ∈ p.shared.runs, Quiescent p.tasks r.id → ReflectsFindings p.shared r := by
  intro h
  have hquiet : ∀ t ∈ (run (reconciliationStep [sampleBrokerProfile]) emptyPool acknowledgedRun).tasks,
      t.runId ≠ some "run" := by decide
  have hrow : ∃ r ∈ (run (reconciliationStep [sampleBrokerProfile]) emptyPool acknowledgedRun).shared.runs,
      r.id = "run" ∧ r.providerUnavailable = false ∧ r.healthState = .manual_resolution_required := by
    decide
  have huncertain : (run (reconciliationStep [sampleBrokerProfile]) emptyPool
      acknowledgedRun).shared.UncertainOutcome "run" := by decide
  obtain ⟨r, hr, hid, havail, hhealth⟩ := hrow
  have hreflects := h [sampleBrokerProfile] acknowledgedRun _ (reached_last _ _ _) r hr
    (by rw [hid]; exact hquiet)
  have := hreflects.uncertain havail (by rw [hid]; exact huncertain)
  rw [hhealth] at this
  cases this

end VeltrixEye.Reconciliation
