import VeltrixEye.Execution.FillRisk

/-!
# Concurrent simulations against the position limit

Any number of `simulate` calls of one execution profile.  `evaluate` is one step under the advisory
lock: it reads the open positions, reclaims the expired reservations, reads the others and, on an
approval, inserts a reservation.  `simulate` then deletes its reservation *before* the fill
transaction inserts the position, so in between the trade is visible to nobody.
-/

namespace VeltrixEye

open Runs

/-! ## Reservations and the evaluation step -/

/-- `risk_reservations`. -/
structure ReservationRow where
  executionProfileId : String
  riskDecisionId : String
  symbol : String
  direction : Direction
  monetaryRisk : Numeric 24 10
  expiresAt : ℤ

/-- The rows of the risk service that outlive an evaluation. -/
structure RiskTables where
  decisions : List String
  reservations : List ReservationRow

def reclaimExpiredReservations (executionProfileId : String) (nowMs : ℤ) (rows : List ReservationRow) :
    List ReservationRow :=
  rows.filter fun r => ¬ (r.executionProfileId = executionProfileId ∧ r.expiresAt ≤ nowMs)

/-- The rows `loadReservations` selects. -/
def liveReservations (executionProfileId : String) (nowMs : ℤ) (rows : List ReservationRow) :
    List ReservationRow :=
  rows.filter fun r => r.executionProfileId = executionProfileId ∧ nowMs < r.expiresAt

def loadReservations (executionProfileId : String) (nowMs : ℤ) (rows : List ReservationRow) :
    List ReservationSnapshot :=
  (liveReservations executionProfileId nowMs rows).map fun r =>
    ⟨r.symbol, r.direction, (Dec.fromUnknown r.monetaryRisk).getD Dec.zero⟩

def releaseReservation (riskDecisionId : String) (rows : List ReservationRow) : List ReservationRow :=
  rows.filter fun r => r.riskDecisionId ≠ riskDecisionId

/-- One call with everything it reads besides the shared tables. -/
structure SlotCall where
  ctx : SimulateContext
  loaded : EvaluateContext
  market : Except MarketRefusal SimulatorMarketPrice
  attempt : ℕ
  mode : PaperFailureMode
  fresh : Fresh

/-- What `evaluate` loads for a call. -/
def SlotCall.evaluation (env : PaperEnv) (call : SlotCall) (decision : ExecutionDecision) (db : Db)
    (reservations : List ReservationRow) : EvaluateContext :=
  { call.loaded with
    openPositions :=
      RiskEngineService.loadOpenPositions env db call.ctx.userId call.ctx.executionProfileId
    reservations := loadReservations call.ctx.executionProfileId call.ctx.nowMs
      (reclaimExpiredReservations call.ctx.executionProfileId call.ctx.nowMs reservations)
    instrument := env.instrumentSpec decision.assetClass decision.symbol
    candidate := candidateOf decision
    nowMs := call.ctx.nowMs }

/-- The reservation of an approval. -/
def newReservation (call : SlotCall) (decision : ExecutionDecision) (verdict : RiskEngineVerdict) :
    Except ServiceError ReservationRow := do
  let monetaryRisk ← storeDec (verdict.monetaryRisk.getD Dec.zero)
  return {
    executionProfileId := call.ctx.executionProfileId
    riskDecisionId := call.ctx.riskDecisionId
    symbol := decision.symbol
    direction := decision.direction
    monetaryRisk
    expiresAt := call.ctx.nowMs + RISK_RESERVATION_TTL_MS }

/-- `RiskEngineService.evaluate` with `reserveOnApprove`, as a transaction over the tables. -/
def evaluateTransaction (env : PaperEnv) (row : PolicyRow) (call : SlotCall) (decision : ExecutionDecision)
    (db : Db) (tables : RiskTables) : Except ServiceError (RiskEngineVerdict × RiskTables) := do
  let verdict := evaluateVerdict row (call.evaluation env decision db tables.reservations)
  let kept := reclaimExpiredReservations call.ctx.executionProfileId call.ctx.nowMs tables.reservations
  constraint (call.ctx.riskDecisionId ∉ tables.decisions) "risk_decisions_pkey"
  if verdict.outcome = .approved ∧ decision.action ≠ .close_position then do
    let reservation ← newReservation call decision verdict
    return (verdict, ⟨tables.decisions ++ [call.ctx.riskDecisionId], kept ++ [reservation]⟩)
  else
    return (verdict, ⟨tables.decisions ++ [call.ctx.riskDecisionId], kept⟩)

/-! ## Interleavings -/

/-- Where a call is.  `approved` holds its reservation, `released` has given it up and not filled
    yet. -/
inductive SlotPhase where
  | idle
  | approved (decision : ExecutionDecision) (verdict : RiskEngineVerdict)
  | released (auth : PaperAuthorization)
  | finished

structure SlotState where
  db : Db
  tables : RiskTables
  phase : ℕ → SlotPhase

inductive SlotAct where
  | evaluate (i : ℕ)
  | release (i : ℕ)
  | fill (i : ℕ)
  | abandon (i : ℕ)

def SlotState.start (db : Db) (tables : RiskTables) : SlotState := ⟨db, tables, fun _ => .idle⟩

def SlotState.setPhase (s : SlotState) (i : ℕ) (ph : SlotPhase) : SlotState :=
  { s with phase := fun j => if j = i then ph else s.phase j }

/-- A rejection is refused by the gates, so only an approval goes on. -/
def evaluatedPhase (decision : ExecutionDecision) (verdict : RiskEngineVerdict) : SlotPhase :=
  if verdict.outcome = .approved then .approved decision verdict else .finished

/-- The gates decide whether the call goes on to its fill. -/
def releasedPhase (env : PaperEnv) (call : SlotCall) (decision : ExecutionDecision)
    (verdict : RiskEngineVerdict) : SlotPhase :=
  match authorizeEntry env call.ctx decision verdict call.market call.attempt with
  | .ok auth => .released auth
  | .error _ => .finished

/-- One step of one call; a step that is not due does nothing.  `abandon` is a call that is cut off:
    its reservation, if any, stays until it expires. -/
def slotStep (env : PaperEnv) (row : PolicyRow) (calls : ℕ → SlotCall) (s : SlotState) :
    SlotAct → SlotState
  | .evaluate i =>
    match s.phase i, buildServerExecutionDecision (calls i).ctx.setup with
    | .idle, .ok decision =>
      match evaluateTransaction env row (calls i) decision s.db s.tables with
      | .ok (verdict, tables) =>
        { db := s.db
          tables := tables
          phase := (s.setPhase i (evaluatedPhase decision verdict)).phase }
      | .error _ => s.setPhase i .finished
    | .idle, .error _ => s.setPhase i .finished
    | _, _ => s
  | .release i =>
    match s.phase i with
    | .approved decision verdict =>
      { db := s.db
        tables := ⟨s.tables.decisions, releaseReservation (calls i).ctx.riskDecisionId s.tables.reservations⟩
        phase := (s.setPhase i (releasedPhase env (calls i) decision verdict)).phase }
    | _ => s
  | .fill i =>
    match s.phase i with
    | .released auth =>
      { db := (runFillTransaction env (calls i).mode auth (calls i).fresh s.db).2
        tables := s.tables
        phase := (s.setPhase i .finished).phase }
    | _ => s
  | .abandon i => s.setPhase i .finished

/-- The condition on an evaluation: no call is between its release and its fill, and no approved
    call in flight is older than the reservation's time to live. -/
def Undisturbed (calls : ℕ → SlotCall) (s : SlotState) : SlotAct → Prop
  | .evaluate j =>
    (∀ i auth, s.phase i ≠ .released auth) ∧
      ∀ i decision verdict, s.phase i = .approved decision verdict →
        (calls j).ctx.nowMs < (calls i).ctx.nowMs + RISK_RESERVATION_TTL_MS
  | _ => True

/-! ## What an evaluation leaves room for -/

section Evaluation

variable {env : PaperEnv} {row : PolicyRow} {call : SlotCall} {decision : ExecutionDecision} {db : Db}
  {tables tables' : RiskTables} {verdict : RiskEngineVerdict}

theorem tightened_maxSimultaneousPositions (hcheck : 0 < row.maxSimultaneousPositions) (ctx : EvaluateContext)
    (drawdown : Option DrawdownInput) :
    (engineInput row ctx drawdown).tightened.maxSimultaneousPositions =
      .fin (min (row.maxSimultaneousPositions : ℚ) 5) := by
  obtain ⟨m, r, h⟩ := applyStrategyOverride_drawdown (engineInput row ctx drawdown).policy
    (engineInput row ctx drawdown).strategyOverride
  rw [RiskEngineInput.tightened, h]
  show capInt (.fin row.maxSimultaneousPositions) 5 _ = _
  have hpos : JsNumber.lt 0 (.fin (row.maxSimultaneousPositions : ℚ)) = true :=
    decide_eq_true (by exact_mod_cast hcheck)
  have hint : JsNumber.isInteger (.fin (row.maxSimultaneousPositions : ℚ)) = true := by
    simp [JsNumber.isInteger]
  rw [capInt, hpos, hint]
  exact JsNumber.min_fin _ _

theorem evaluateVerdict_slots (hcheck : 0 < row.maxSimultaneousPositions) {ctx : EvaluateContext}
    (hopen : ctx.candidate.action ≠ .close_position) (hv : (evaluateVerdict row ctx).outcome = .approved) :
    (ctx.openPositions.length + ctx.reservations.length + 1 : ℤ) ≤ row.maxSimultaneousPositions := by
  obtain ⟨s, current, dailyCap, weeklyCap, -, -, happr⟩ := evaluateRisk_open_approved hopen hv
  have hslots := happr.slots
  rw [tightened_maxSimultaneousPositions hcheck, JsNumber.lt_fin, decide_eq_false_iff_not, not_lt,
    happr.exposure.openPositions, happr.exposure.reservedPositions] at hslots
  have hle := hslots.trans (min_le_left _ _)
  have hcast : ((ctx.openPositions.length + ctx.reservations.length : ℕ) : ℚ) + 1 ≤
      (row.maxSimultaneousPositions : ℚ) := hle
  exact_mod_cast hcast

theorem evaluateTransaction_ok (hopen : decision.action ≠ .close_position)
    (h : evaluateTransaction env row call decision db tables = .ok (verdict, tables')) :
    verdict = evaluateVerdict row (call.evaluation env decision db tables.reservations) ∧
      call.ctx.riskDecisionId ∉ tables.decisions ∧
      tables'.decisions = tables.decisions ++ [call.ctx.riskDecisionId] ∧
      ((verdict.outcome = .approved ∧ ∃ r, newReservation call decision verdict = .ok r ∧
          tables'.reservations = reclaimExpiredReservations call.ctx.executionProfileId call.ctx.nowMs
            tables.reservations ++ [r]) ∨
        (verdict.outcome ≠ .approved ∧ tables'.reservations =
          reclaimExpiredReservations call.ctx.executionProfileId call.ctx.nowMs tables.reservations)) := by
  unfold evaluateTransaction at h
  simp only [Except.bind_ok_iff, constraint_ok] at h
  obtain ⟨-, hfresh, h⟩ := h
  split at h
  · rename_i happr
    obtain ⟨r, hr, h⟩ := Except.bind_ok_iff.mp h
    cases h
    exact ⟨rfl, hfresh, rfl, .inl ⟨happr.1, r, hr, rfl⟩⟩
  · rename_i happr
    cases h
    exact ⟨rfl, hfresh, rfl, .inr ⟨fun hv => happr ⟨hv, hopen⟩, rfl⟩⟩

theorem newReservation_ok {r : ReservationRow} (h : newReservation call decision verdict = .ok r) :
    r.executionProfileId = call.ctx.executionProfileId ∧ r.riskDecisionId = call.ctx.riskDecisionId ∧
      r.expiresAt = call.ctx.nowMs + RISK_RESERVATION_TTL_MS := by
  unfold newReservation at h
  obtain ⟨m, -, h⟩ := Except.bind_ok_iff.mp h
  cases h
  exact ⟨rfl, rfl, rfl⟩

end Evaluation

/-! ## The invariant of a run -/

/-- The call has been approved and may still open its position. -/
def SlotPhase.InFlight : SlotPhase → Prop
  | .approved _ _ | .released _ => True
  | _ => False

/-- The reservation of a call. -/
def ReservationFor (call : SlotCall) (r : ReservationRow) : Prop :=
  r.executionProfileId = call.ctx.executionProfileId ∧ r.riskDecisionId = call.ctx.riskDecisionId ∧
    r.expiresAt = call.ctx.nowMs + RISK_RESERVATION_TTL_MS

/-- What holds in every state of an undisturbed run: the open positions and the calls in flight
    together fit the limit, and every approved call still holds its reservation. -/
structure SlotInv (row : PolicyRow) (calls : ℕ → SlotCall) (userId executionProfileId : String)
    (s : SlotState) : Prop where
  consistent : Consistent s.db
  room : ∃ flight : List ℕ, flight.Nodup ∧ (∀ i, i ∈ flight ↔ (s.phase i).InFlight) ∧
    ((s.db.openPositions userId executionProfileId).length + flight.length : ℤ) ≤ row.maxSimultaneousPositions
  reserved : ∀ i decision verdict, s.phase i = .approved decision verdict →
    ∃ r ∈ s.tables.reservations, ReservationFor (calls i) r
  decided : ∀ i decision verdict, s.phase i = .approved decision verdict →
    (calls i).ctx.riskDecisionId ∈ s.tables.decisions
  distinct : ∀ i j, (∃ d v, s.phase i = .approved d v) → (∃ d v, s.phase j = .approved d v) →
    (calls i).ctx.riskDecisionId = (calls j).ctx.riskDecisionId → i = j
  entry : ∀ i auth, s.phase i = .released auth → auth.kind = .entry

section Invariant

variable {env : PaperEnv} {row : PolicyRow} {calls : ℕ → SlotCall} {userId executionProfileId : String}
  {s : SlotState} {db db' : Db}

theorem RunCase.openPositions_le {mode : PaperFailureMode} {auth : PaperAuthorization} {fresh : Fresh}
    (hcase : RunCase env mode auth fresh db db') (hkind : auth.kind = .entry) :
    (db'.openPositions userId executionProfileId).length ≤
      (db.openPositions userId executionProfileId).length + 1 := by
  cases hcase with
  | unchanged => omega
  | failed order _ _ _ => exact Nat.le_succ _
  | entry order fill row fillRow _ _ _ _ _ _ _ _ =>
    simp only [Db.openPositions, List.filter_append, List.length_append]
    exact Nat.add_le_add_left ((List.length_filter_le _ _).trans (by simp)) _
  | exit order fill reason position row net account fillRow hexit =>
    rw [hkind] at hexit
    cases hexit

theorem room_of_left {flight : List ℕ} {i : ℕ} {phase phase' : ℕ → SlotPhase} (hnodup : flight.Nodup)
    (hmem : ∀ j, j ∈ flight ↔ (phase j).InFlight) (hsame : ∀ j, j ≠ i → phase' j = phase j)
    (hleft : ¬ (phase' i).InFlight) :
    (flight.erase i).Nodup ∧ ∀ j, j ∈ flight.erase i ↔ (phase' j).InFlight := by
  refine ⟨hnodup.erase i, fun j => ?_⟩
  rw [hnodup.mem_erase_iff, hmem]
  by_cases hji : j = i
  · subst hji
    simp [hleft]
  · rw [hsame j hji]
    simp [hji]

theorem SlotInv.finish {tables : RiskTables} (h : SlotInv row calls userId executionProfileId s) (i : ℕ)
    (hdecisions : s.tables.decisions ⊆ tables.decisions)
    (hreserved : ∀ j, j ≠ i → ∀ decision verdict, s.phase j = .approved decision verdict →
      ∃ r ∈ tables.reservations, ReservationFor (calls j) r) :
    SlotInv row calls userId executionProfileId ⟨s.db, tables, (s.setPhase i .finished).phase⟩ := by
  obtain ⟨flight, hnodup, hmem, hroom⟩ := h.room
  have hphase : ∀ j ph, (s.setPhase i .finished).phase j = ph → ph ≠ .finished → j ≠ i ∧ s.phase j = ph := by
    intro j ph hj hph
    simp only [SlotState.setPhase] at hj
    split at hj
    · exact absurd hj.symm hph
    · rename_i hji
      exact ⟨hji, hj⟩
  have hsame : ∀ j, j ≠ i → (s.setPhase i .finished).phase j = s.phase j := fun j hj => by
    simp [SlotState.setPhase, hj]
  have hleft : ¬ ((s.setPhase i .finished).phase i).InFlight := by simp [SlotState.setPhase, SlotPhase.InFlight]
  obtain ⟨hnodup', hmem'⟩ := room_of_left hnodup hmem hsame hleft
  refine ⟨h.consistent, ⟨flight.erase i, hnodup', hmem', ?_⟩, ?_, ?_, ?_, ?_⟩
  · have : (flight.erase i).length ≤ flight.length := List.length_erase_le
    show ((s.db.openPositions userId executionProfileId).length + _ : ℤ) ≤ _
    omega
  · intro j d v hj
    obtain ⟨hji, hj⟩ := hphase j _ hj (by simp)
    exact hreserved j hji d v hj
  · intro j d v hj
    exact hdecisions (h.decided j d v (hphase j _ hj (by simp)).2)
  · rintro j j' ⟨d, v, hj⟩ ⟨d', v', hj'⟩ hid
    exact h.distinct j j' ⟨d, v, (hphase j _ hj (by simp)).2⟩ ⟨d', v', (hphase j' _ hj' (by simp)).2⟩ hid
  · intro j auth hj
    exact h.entry j auth (hphase j _ hj (by simp)).2

/-- The call is one of the profile's. -/
def SlotCall.For (call : SlotCall) (userId executionProfileId : String) : Prop :=
  call.ctx.userId = userId ∧ call.ctx.executionProfileId = executionProfileId

theorem mem_reclaim {nowMs : ℤ} {rows : List ReservationRow} {r : ReservationRow} (hr : r ∈ rows)
    (hlive : nowMs < r.expiresAt) : r ∈ reclaimExpiredReservations executionProfileId nowMs rows := by
  rw [reclaimExpiredReservations, List.mem_filter]
  refine ⟨hr, ?_⟩
  simp only [decide_eq_true_eq, not_and, not_le]
  exact fun _ => hlive

/-- **Visibility.**  An undisturbed evaluation reads the reservation of every call in flight. -/
theorem SlotInv.visible (h : SlotInv row calls userId executionProfileId s)
    (hcalls : ∀ i, (calls i).For userId executionProfileId) {j : ℕ}
    (hok : Undisturbed calls s (.evaluate j)) {i : ℕ} (hi : (s.phase i).InFlight) :
    ∃ r ∈ liveReservations executionProfileId (calls j).ctx.nowMs
        (reclaimExpiredReservations executionProfileId (calls j).ctx.nowMs s.tables.reservations),
      r.riskDecisionId = (calls i).ctx.riskDecisionId := by
  cases hphase : s.phase i with
  | idle => simp [hphase, SlotPhase.InFlight] at hi
  | finished => simp [hphase, SlotPhase.InFlight] at hi
  | released auth => exact absurd hphase (hok.1 i auth)
  | approved decision verdict =>
    obtain ⟨r, hr, hprofile, hid, hexpires⟩ := h.reserved i decision verdict hphase
    have hlive : (calls j).ctx.nowMs < r.expiresAt := hexpires ▸ hok.2 i decision verdict hphase
    refine ⟨r, ?_, hid⟩
    rw [liveReservations, List.mem_filter]
    refine ⟨mem_reclaim hr hlive, ?_⟩
    simp only [decide_eq_true_eq]
    exact ⟨hprofile.trans (hcalls i).2, hlive⟩

theorem SlotInv.flight_le_live (h : SlotInv row calls userId executionProfileId s)
    (hcalls : ∀ i, (calls i).For userId executionProfileId) {j : ℕ}
    (hok : Undisturbed calls s (.evaluate j)) {flight : List ℕ} (hnodup : flight.Nodup)
    (hmem : ∀ i, i ∈ flight ↔ (s.phase i).InFlight) :
    flight.length ≤ (liveReservations executionProfileId (calls j).ctx.nowMs
      (reclaimExpiredReservations executionProfileId (calls j).ctx.nowMs s.tables.reservations)).length := by
  have happroved : ∀ i ∈ flight, ∃ d v, s.phase i = .approved d v := by
    intro i hi
    cases hphase : s.phase i with
    | approved d v => exact ⟨d, v, rfl⟩
    | released auth => exact absurd hphase (hok.1 i auth)
    | _ => simp [hmem, hphase, SlotPhase.InFlight] at hi
  have hids : (flight.map fun i => (calls i).ctx.riskDecisionId).Nodup := by
    refine List.Nodup.map_on (fun i hi k hk hid => ?_) hnodup
    exact h.distinct i k (happroved i hi) (happroved k hk) hid
  have hsubset : (flight.map fun i => (calls i).ctx.riskDecisionId) ⊆
      (liveReservations executionProfileId (calls j).ctx.nowMs (reclaimExpiredReservations executionProfileId
        (calls j).ctx.nowMs s.tables.reservations)).map ReservationRow.riskDecisionId := by
    intro id hid
    obtain ⟨i, hi, rfl⟩ := List.mem_map.mp hid
    obtain ⟨r, hr, hrid⟩ := h.visible hcalls hok ((hmem i).mp hi)
    exact List.mem_map.mpr ⟨r, hr, hrid⟩
  simpa using (List.subperm_of_subset hids hsubset).length_le

theorem SlotState.setPhase_ne {i j : ℕ} {ph : SlotPhase} (h : j ≠ i) : (s.setPhase i ph).phase j = s.phase j := by
  simp [SlotState.setPhase, h]

theorem SlotState.setPhase_self {i : ℕ} {ph : SlotPhase} : (s.setPhase i ph).phase i = ph := by
  simp [SlotState.setPhase]

/-- **An approving evaluation** takes one of the remaining slots. -/
theorem SlotInv.approve (h : SlotInv row calls userId executionProfileId s)
    (hcheck : 0 < row.maxSimultaneousPositions) (hcalls : ∀ i, (calls i).For userId executionProfileId) {j : ℕ}
    (hok : Undisturbed calls s (.evaluate j)) (hidle : s.phase j = .idle) {decision : ExecutionDecision}
    (hbuilt : buildServerExecutionDecision (calls j).ctx.setup = .ok decision)
    {verdict : RiskEngineVerdict} {tables : RiskTables}
    (heval : evaluateTransaction env row (calls j) decision s.db s.tables = .ok (verdict, tables))
    (hverdict : verdict.outcome = .approved) :
    SlotInv row calls userId executionProfileId
      ⟨s.db, tables, (s.setPhase j (.approved decision verdict)).phase⟩ := by
  have haction : decision.action ≠ .close_position := by
    rw [(buildServerExecutionDecision_ok hbuilt).action_eq]
    exact entryAction_ne_close _
  obtain ⟨hv, hfresh, hdecisions, hreservations⟩ := evaluateTransaction_ok haction heval
  obtain ⟨r, hr, hrows⟩ : ∃ r, newReservation (calls j) decision verdict = .ok r ∧
      tables.reservations = reclaimExpiredReservations (calls j).ctx.executionProfileId (calls j).ctx.nowMs
        s.tables.reservations ++ [r] := by
    rcases hreservations with ⟨-, hr⟩ | ⟨hnot, -⟩
    · exact hr
    · exact absurd hverdict hnot
  obtain ⟨flight, hnodup, hmem, hroom⟩ := h.room
  have happroved : (evaluateVerdict row
      ((calls j).evaluation env decision s.db s.tables.reservations)).outcome = .approved := hv ▸ hverdict
  have hslots := evaluateVerdict_slots hcheck haction happroved
  have hlive := h.flight_le_live hcalls hok hnodup hmem
  have hnotin : j ∉ flight := by simp [hmem, hidle, SlotPhase.InFlight]
  -- a call other than `j` keeps its reservation: it has not expired for this evaluation
  have hkept : ∀ i, i ≠ j → ∀ d v, s.phase i = .approved d v →
      ∃ r ∈ tables.reservations, ReservationFor (calls i) r := by
    intro i hi d v hphase
    obtain ⟨r', hr', hfor⟩ := h.reserved i d v hphase
    refine ⟨r', ?_, hfor⟩
    rw [hrows]
    exact List.mem_append_left _ (mem_reclaim hr' (hfor.2.2 ▸ hok.2 i d v hphase))
  have hother : ∀ i ph, (s.setPhase j (.approved decision verdict)).phase i = ph → i ≠ j → s.phase i = ph :=
    fun i ph hph hi => (SlotState.setPhase_ne hi).symm.trans hph
  have hnew : ∀ i, i ≠ j → (∃ d v, s.phase i = .approved d v) →
      (calls i).ctx.riskDecisionId ≠ (calls j).ctx.riskDecisionId := by
    rintro i hi ⟨d, v, hphase⟩ hid
    exact hfresh (hid ▸ h.decided i d v hphase)
  refine ⟨h.consistent, ⟨j :: flight, hnodup.cons hnotin, ?_, ?_⟩, ?_, ?_, ?_, ?_⟩
  · intro i
    by_cases hi : i = j
    · subst hi
      simp [SlotState.setPhase_self, SlotPhase.InFlight]
    · rw [SlotState.setPhase_ne hi, ← hmem]
      simp [hi]
  · have hopen : ((calls j).evaluation env decision s.db s.tables.reservations).openPositions.length =
        (s.db.openPositions userId executionProfileId).length := by
      simp [SlotCall.evaluation, RiskEngineService.loadOpenPositions, (hcalls j).1, (hcalls j).2]
    have hreserved : ((calls j).evaluation env decision s.db s.tables.reservations).reservations.length =
        (liveReservations executionProfileId (calls j).ctx.nowMs (reclaimExpiredReservations executionProfileId
          (calls j).ctx.nowMs s.tables.reservations)).length := by
      simp [SlotCall.evaluation, loadReservations, (hcalls j).2]
    rw [hopen, hreserved] at hslots
    rw [List.length_cons]
    push_cast
    omega
  · intro i d v hphase
    by_cases hi : i = j
    · subst hi
      exact ⟨r, by simp [hrows], newReservation_ok hr⟩
    · exact hkept i hi d v (hother i _ hphase hi)
  · intro i d v hphase
    show _ ∈ tables.decisions
    rw [hdecisions]
    by_cases hi : i = j
    · subst hi
      simp
    · exact List.mem_append_left _ (h.decided i d v (hother i _ hphase hi))
  · rintro i k ⟨d, v, hi⟩ ⟨d', v', hk⟩ hid
    by_cases hij : i = j
    · by_cases hkj : k = j
      · rw [hij, hkj]
      · subst hij
        exact absurd hid.symm (hnew k hkj ⟨d', v', hother k _ hk hkj⟩)
    · by_cases hkj : k = j
      · subst hkj
        exact absurd hid (hnew i hij ⟨d, v, hother i _ hi hij⟩)
      · exact h.distinct i k ⟨d, v, hother i _ hi hij⟩ ⟨d', v', hother k _ hk hkj⟩ hid
  · intro i auth hphase
    by_cases hi : i = j
    · subst hi
      rw [SlotState.setPhase_self] at hphase
      cases hphase
    · exact h.entry i auth (hother i _ hphase hi)

theorem SlotInv.reserved_after_release (h : SlotInv row calls userId executionProfileId s) {i : ℕ}
    (happroved : ∃ d v, s.phase i = .approved d v) : ∀ j, j ≠ i → ∀ d v, s.phase j = .approved d v →
      ∃ r ∈ releaseReservation (calls i).ctx.riskDecisionId s.tables.reservations,
        ReservationFor (calls j) r := by
  intro j hj d v hphase
  obtain ⟨r, hr, hfor⟩ := h.reserved j d v hphase
  refine ⟨r, List.mem_filter.mpr ⟨hr, ?_⟩, hfor⟩
  simp only [decide_eq_true_eq]
  intro hid
  exact hj (h.distinct j i ⟨d, v, hphase⟩ happroved (hfor.2.1 ▸ hid))

theorem SlotInv.release (h : SlotInv row calls userId executionProfileId s) {i : ℕ}
    (happroved : ∃ d v, s.phase i = .approved d v) {auth : PaperAuthorization} (hkind : auth.kind = .entry) :
    SlotInv row calls userId executionProfileId
      ⟨s.db, ⟨s.tables.decisions, releaseReservation (calls i).ctx.riskDecisionId s.tables.reservations⟩,
        (s.setPhase i (.released auth)).phase⟩ := by
  obtain ⟨flight, hnodup, hmem, hroom⟩ := h.room
  have hother : ∀ j ph, (s.setPhase i (.released auth)).phase j = ph → j ≠ i → s.phase j = ph :=
    fun j ph hph hj => (SlotState.setPhase_ne hj).symm.trans hph
  have hne : ∀ j d v, (s.setPhase i (.released auth)).phase j = .approved d v → j ≠ i := by
    rintro j d v hj rfl
    rw [SlotState.setPhase_self] at hj
    cases hj
  refine ⟨h.consistent, ⟨flight, hnodup, fun j => ?_, hroom⟩, ?_, ?_, ?_, ?_⟩
  · by_cases hj : j = i
    · subst hj
      obtain ⟨d, v, hphase⟩ := happroved
      simp [hmem, SlotState.setPhase_self, hphase, SlotPhase.InFlight]
    · rw [SlotState.setPhase_ne hj, hmem]
  · intro j d v hj
    exact h.reserved_after_release happroved j (hne j d v hj) d v (hother j _ hj (hne j d v hj))
  · intro j d v hj
    exact h.decided j d v (hother j _ hj (hne j d v hj))
  · rintro j k ⟨d, v, hj⟩ ⟨d', v', hk⟩ hid
    exact h.distinct j k ⟨d, v, hother j _ hj (hne j d v hj)⟩ ⟨d', v', hother k _ hk (hne k d' v' hk)⟩ hid
  · intro j auth' hj
    by_cases hji : j = i
    · subst hji
      rw [SlotState.setPhase_self] at hj
      cases hj
      exact hkind
    · exact h.entry j auth' (hother j _ hj hji)

theorem SlotInv.fill (h : SlotInv row calls userId executionProfileId s) {i : ℕ} {auth : PaperAuthorization}
    (hphase : s.phase i = .released auth) (mode : PaperFailureMode) (fresh : Fresh) :
    SlotInv row calls userId executionProfileId
      ⟨(runFillTransaction env mode auth fresh s.db).2, s.tables, (s.setPhase i .finished).phase⟩ := by
  have hcase : RunCase env mode auth fresh s.db (runFillTransaction env mode auth fresh s.db).2 :=
    runFillTransaction_cases h.consistent
  have hopen : ((runFillTransaction env mode auth fresh s.db).2.openPositions userId executionProfileId).length ≤
      (s.db.openPositions userId executionProfileId).length + 1 := hcase.openPositions_le (h.entry i auth hphase)
  have hfinish := h.finish i (List.Subset.refl s.tables.decisions) fun j _ => h.reserved j
  obtain ⟨flight, hnodup, hmem, hroom⟩ := h.room
  have hsame : ∀ j, j ≠ i → (s.setPhase i .finished).phase j = s.phase j := fun j hj => SlotState.setPhase_ne hj
  have hleft : ¬ ((s.setPhase i .finished).phase i).InFlight := by
    simp [SlotState.setPhase_self, SlotPhase.InFlight]
  have hin : i ∈ flight := by simp [hmem, hphase, SlotPhase.InFlight]
  obtain ⟨hnodup', hmem'⟩ := room_of_left hnodup hmem hsame hleft
  refine ⟨hcase.consistent h.consistent, ⟨flight.erase i, hnodup', hmem', ?_⟩, hfinish.reserved, hfinish.decided,
    hfinish.distinct, hfinish.entry⟩
  have hlength : (flight.erase i).length + 1 = flight.length := by
    rw [List.length_erase_of_mem hin]
    have := List.length_pos_of_mem hin
    omega
  show (((runFillTransaction env mode auth fresh s.db).2.openPositions userId executionProfileId).length +
    (flight.erase i).length : ℤ) ≤ _
  omega

theorem slotStep_inv (hcheck : 0 < row.maxSimultaneousPositions)
    (hcalls : ∀ i, (calls i).For userId executionProfileId)
    (h : SlotInv row calls userId executionProfileId s) (a : SlotAct) (hok : Undisturbed calls s a) :
    SlotInv row calls userId executionProfileId (slotStep env row calls s a) := by
  have habandon : ∀ i, SlotInv row calls userId executionProfileId (s.setPhase i .finished) :=
    fun i => h.finish i (List.Subset.refl s.tables.decisions) fun j _ => h.reserved j
  cases a with
  | evaluate j =>
    cases hphase : s.phase j with
    | idle =>
      cases hbuilt : buildServerExecutionDecision (calls j).ctx.setup with
      | error refusal => simpa [slotStep, hphase, hbuilt] using habandon j
      | ok decision =>
        cases heval : evaluateTransaction env row (calls j) decision s.db s.tables with
        | error e => simpa [slotStep, hphase, hbuilt, heval] using habandon j
        | ok result =>
          obtain ⟨verdict, tables⟩ := result
          simp only [slotStep, hphase, hbuilt, heval]
          by_cases hverdict : verdict.outcome = .approved
          · rw [evaluatedPhase, if_pos hverdict]
            exact h.approve hcheck hcalls hok hphase hbuilt heval hverdict
          · rw [evaluatedPhase, if_neg hverdict]
            have haction : decision.action ≠ .close_position := by
              rw [(buildServerExecutionDecision_ok hbuilt).action_eq]
              exact entryAction_ne_close _
            obtain ⟨-, -, hdecisions, hrows⟩ := evaluateTransaction_ok haction heval
            refine h.finish j (hdecisions ▸ List.subset_append_left _ _) fun i _ d v hi => ?_
            rcases hrows with ⟨happroved, -⟩ | ⟨-, hrows⟩
            · exact absurd happroved hverdict
            · obtain ⟨r, hr, hfor⟩ := h.reserved i d v hi
              exact ⟨r, hrows ▸ mem_reclaim hr (hfor.2.2 ▸ hok.2 i d v hi), hfor⟩
    | _ => simpa [slotStep, hphase] using h
  | release i =>
    cases hphase : s.phase i with
    | approved decision verdict =>
      simp only [slotStep, hphase]
      cases hauth : authorizeEntry env (calls i).ctx decision verdict (calls i).market (calls i).attempt with
      | ok auth =>
        obtain ⟨price, size, spec, -, -, -, -, -, rfl⟩ := authorizeEntry_ok hauth
        simp only [releasedPhase, hauth]
        exact h.release ⟨_, _, hphase⟩ rfl
      | error refusal =>
        simp only [releasedPhase, hauth]
        exact h.finish i (List.Subset.refl s.tables.decisions) (h.reserved_after_release ⟨_, _, hphase⟩)
    | _ => simpa [slotStep, hphase] using h
  | fill i =>
    cases hphase : s.phase i with
    | released auth =>
      simp only [slotStep, hphase]
      exact h.fill hphase _ _
    | _ => simpa [slotStep, hphase] using h
  | abandon i => exact habandon i

end Invariant

/-- **The position limit.**  In every run of any number of simulations of a profile whose
    evaluations are undisturbed, every state reached has at most as many open positions as the
    policy allows, and an undisturbed evaluation there reads a live reservation for every approved
    call that has not filled yet. -/
theorem positions_within_limit (env : PaperEnv) (row : PolicyRow) (hcheck : 0 < row.maxSimultaneousPositions)
    (userId executionProfileId : String) (calls : ℕ → SlotCall)
    (hcalls : ∀ i, (calls i).For userId executionProfileId) {db : Db} (hcons : Consistent db)
    (hopen : ((db.openPositions userId executionProfileId).length : ℤ) ≤ row.maxSimultaneousPositions)
    (tables : RiskTables) (acts : List SlotAct)
    (hok : Meets (slotStep env row calls) (Undisturbed calls) (.start db tables) acts) {t : SlotState}
    (ht : Reached (slotStep env row calls) (.start db tables) acts t) :
    ((t.db.openPositions userId executionProfileId).length : ℤ) ≤ row.maxSimultaneousPositions ∧
      ∀ j, Undisturbed calls t (.evaluate j) → ∀ i, (t.phase i).InFlight →
        ∃ r ∈ liveReservations executionProfileId (calls j).ctx.nowMs
            (reclaimExpiredReservations executionProfileId (calls j).ctx.nowMs t.tables.reservations),
          r.riskDecisionId = (calls i).ctx.riskDecisionId := by
  have hstart : SlotInv row calls userId executionProfileId (.start db tables) := by
    refine ⟨hcons, ⟨[], List.nodup_nil, fun i => ?_, by simpa [SlotState.start] using hopen⟩, ?_, ?_, ?_, ?_⟩
    · simp [SlotState.start, SlotPhase.InFlight]
    · intro i d v h
      cases h
    · intro i d v h
      cases h
    · rintro i j ⟨d, v, h⟩
      cases h
    · intro i auth h
      cases h
  have hstep : ∀ s a, SlotInv row calls userId executionProfileId s → Undisturbed calls s a →
      SlotInv row calls userId executionProfileId (slotStep env row calls s a) :=
    fun s a hs ha => slotStep_inv hcheck hcalls hs a ha
  have hinv : SlotInv row calls userId executionProfileId t := inv_of_reached _ hstep hstart hok ht
  obtain ⟨flight, -, -, hroom⟩ := hinv.room
  exact ⟨by omega, fun j hj i hi => hinv.visible hcalls hj hi⟩

/-! ## The gap between release and fill -/

/-- One position at a time. -/
def singleRow : PolicyRow := { defaultRow with maxSimultaneousPositions := 1 }

/-- A `10000` account without trades. -/
def freshAccount : AccountRow :=
  { lossAccount with
    dailyRealizedPl := 0
    weeklyRealizedPl := 0
    consecutiveLosses := 0
    currentDrawdownPct := 0
    dailyDrawdownPct := 0
    weeklyDrawdownPct := 0
    cumulativeRealizedPl := 0 }

/-- Call 0 is on one setup, every other call on another; both are the sample long at 1.1. -/
def slotCalls (i : ℕ) : SlotCall where
  ctx := { gapContext with
    setup := { gapSetup with setupId := if i = 0 then "setup" else "other" }
    riskDecisionId := "decision-" ++ toString i
    nowMs := 1700000000000 }
  loaded := { lossContext with account := freshAccount, closed := [] }
  market := marketAt (11 / 10)
  attempt := 1
  mode := .off
  fresh := ⟨"order-" ++ toString i, "fill-" ++ toString i, "position-" ++ toString i, 1700000000000⟩

/-- Call 1 is evaluated after call 0 has released and before it fills: both are approved under a
    limit of one, and both open a position. -/
theorem release_gap_exceeds_limit :
    let acts : List SlotAct := [.evaluate 0, .release 0, .evaluate 1, .fill 0, .release 1, .fill 1]
    let t := run (slotStep sampleEnv singleRow slotCalls) (.start Db.empty ⟨[], []⟩) acts
    singleRow.maxSimultaneousPositions = 1 ∧ (t.db.openPositions "user" "profile").length = 2 := by
  decide +kernel

theorem single_simulation_within_limit :
    let acts : List SlotAct := [.evaluate 0, .release 0, .fill 0]
    let t := run (slotStep sampleEnv singleRow slotCalls) (.start Db.empty ⟨[], []⟩) acts
    ((t.db.openPositions "user" "profile").length : ℤ) ≤ singleRow.maxSimultaneousPositions ∧
      (t.db.openPositions "user" "profile").length = 1 := by
  have hcalls : ∀ i, (slotCalls i).For "user" "profile" := fun i => ⟨rfl, rfl⟩
  have hok : Meets (slotStep sampleEnv singleRow slotCalls) (Undisturbed slotCalls) (.start Db.empty ⟨[], []⟩)
      [.evaluate 0, .release 0, .fill 0] := by
    refine ⟨⟨fun i auth h => ?_, fun i d v h => ?_⟩, trivial, trivial, trivial⟩
    · cases h
    · cases h
  refine ⟨(positions_within_limit sampleEnv singleRow (by decide) "user" "profile" slotCalls hcalls consistent_empty
    (by decide) ⟨[], []⟩ _ hok (reached_last _ _ _)).1, ?_⟩
  decide +kernel

end VeltrixEye
