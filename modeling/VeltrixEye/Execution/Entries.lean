import VeltrixEye.Lib.Retries
import VeltrixEye.Execution.FillRisk

/-!
# Concurrent entries of one identity (`simulate`, `executeComposedEntry`)

Any number of direct and composed entry calls for one user, setup and profile, interleaved with each
other and with every other transaction of the service.  A call derives its attempt number from the
tables (the attempt-1 order, then the count of failed orders), passes its checks and runs the fill
transaction; a composed call presents its derived identity, is checked again and re-derives it
first.  Each table read and each transaction is one step.
-/

namespace VeltrixEye

open Runs Retries

/-! ## Identities and attempts -/

/-- What an entry identity is hashed from.  The direction column of a setup never changes. -/
structure EntryIdentity where
  userId : String
  setupId : String
  executionProfileId : String
  direction : Direction

namespace EntryIdentity

def hash (env : PaperEnv) (I : EntryIdentity) : String :=
  env.identityHash I.userId I.setupId I.executionProfileId (entryAction I.direction)

/-- An entry order of the identity. -/
def ownsOrder (I : EntryIdentity) (o : OrderRow) : Bool :=
  o.userId = I.userId ∧ o.executionProfileId = I.executionProfileId ∧ o.setupId = some I.setupId ∧
    o.decision.action ≠ .close_position

/-- A position of the identity. -/
def ownsPosition (I : EntryIdentity) (p : PositionRow) : Bool :=
  p.userId = I.userId ∧ p.executionProfileId = I.executionProfileId ∧ p.setupId = some I.setupId

/-- An authorization to enter for the identity. -/
def claims (I : EntryIdentity) (auth : PaperAuthorization) : Bool :=
  auth.kind = .entry ∧ auth.userId = I.userId ∧ auth.executionProfileId = I.executionProfileId ∧
    auth.setupId = I.setupId

def entryOrders (I : EntryIdentity) (db : Db) : List OrderRow := db.orders.filter I.ownsOrder

def entryPositions (I : EntryIdentity) (db : Db) : List PositionRow := db.positions.filter I.ownsPosition

end EntryIdentity

/-- `status IN ('failed', 'rejected')`. -/
def OrderRow.dead (o : OrderRow) : Bool := o.status = .failed ∨ o.status = .rejected

def failedAttemptCount (db : Db) (userId executionProfileId setupId : String) : ℕ :=
  db.orders.countP fun o => o.userId = userId ∧ o.executionProfileId = executionProfileId ∧
    o.setupId = some setupId ∧ o.dead ∧ o.decision.action ≠ .close_position

/-- `ComposedPaperEntryIdentity`, from `composedEntryIdsForAttempt`. -/
structure ComposedPaperEntryIdentity where
  clientOrderId : String
  orderIdempotencyKey : String
  attempt : ℕ
  deriving DecidableEq

def composedEntryIdsForAttempt (env : PaperEnv) (baseHash : String) (attempt : ℕ) : ComposedPaperEntryIdentity :=
  ⟨entryClientOrderId baseHash attempt, env.orderIdempotencyKey baseHash .entry attempt, attempt⟩

/-! ## One call -/

/-- `loadCitedRiskApproval`. -/
structure CitedRiskApproval where
  id : String
  outcome : RiskOutcome
  reason : String
  engineVersion : String
  positionSize : Option ℚ

/-- What a composed call reads on its way: the reloaded setup, the cited approval and its
    reservation, the refusal of the safety fence, whether the peeked authorization matches, and the
    error of consuming it. -/
structure ComposedChecks where
  providerSlug : String
  reloaded : SetupDecisionSource
  approval : Option CitedRiskApproval
  reservationLive : Bool
  fence : Option String
  quantity : ℚ
  exposureWithinLimits : Bool
  effectiveMinRr : Option JsNumber
  binding : Option Bool
  consume : Option String

/-- A direct call (`composed = none`) or a composed one, with everything it reads besides the
    tables. -/
structure EntryCall where
  ctx : SimulateContext
  verdict : RiskEngineVerdict
  market : Except MarketRefusal SimulatorMarketPrice
  composed : Option ComposedChecks
  mode : PaperFailureMode
  fresh : Fresh

inductive EntryRefusal where
  | text (message : String)
  | decision (refusal : DecisionRefusal)
  | gate (reason : GateReason)
  deriving DecidableEq

def rejectUnless (p : Prop) [Decidable p] (message : String) : Except EntryRefusal Unit :=
  if p then .ok () else .error (.text message)

/-- The gates of a composed entry, on the cited approval. -/
def composedGateInput (env : PaperEnv) (ctx : SimulateContext) (c : ComposedChecks) (approval : CitedRiskApproval)
    (decision : ExecutionDecision) (market : Except MarketRefusal SimulatorMarketPrice) :
    PaperSimulationGateInput where
  authenticated := true
  authorized := true
  profile := some ctx.profile
  killSwitches := ctx.killSwitches
  providerHealth := ctx.providerHealth
  decision := some decision
  setup := some ⟨c.reloaded.setupId, c.reloaded.direction, c.reloaded.state⟩
  riskDecision := some ⟨approval.outcome, some approval.reason, some approval.id, some approval.engineVersion,
    approval.positionSize.map JsNumber.fin, some c.exposureWithinLimits⟩
  effectiveMinRr := c.effectiveMinRr
  instrumentSpec := env.instrumentSpec c.reloaded.assetClass c.reloaded.symbol
  fillPrice := market.toOption.map SimulatorMarketPrice.price
  marketPrice := market.toOption.map fun p => ⟨p.price, p.ageMs, p.thresholdMs⟩
  marketPriceError := match market with | .ok _ => none | .error refusal => some refusal.reason

/-- Steps 2 to 7 of `executeComposedEntry`: everything that can reject before the order tables are
    read. -/
def verifyComposedEntry (env : PaperEnv) (ctx : SimulateContext) (c : ComposedChecks)
    (decision : ExecutionDecision) (market : Except MarketRefusal SimulatorMarketPrice) :
    Except EntryRefusal (SimulatorMarketPrice × InstrumentRiskSpec) := do
  rejectUnless (c.providerSlug = "paper" ∧ ctx.profile.environment = .paper)
    "composed paper entry requires a paper execution profile"
  rejectUnless ctx.profile.enabled "execution profile is disabled"
  let rebuilt ← match buildServerExecutionDecision c.reloaded with
    | .ok rebuilt => .ok rebuilt
    | .error refusal => .error (.decision refusal)
  rejectUnless (rebuilt = decision) "composed decision does not match the persisted setup"
  match ctx.cited with
  | .not_found => .error (.text "risk decision was not found for this account")
  | .rejected reason _ _ => .error (.text reason)
  | .fresh =>
    match c.approval with
    | none => .error (.text "cited risk decision is not an approval")
    | some approval => do
      rejectUnless (approval.outcome = .approved) "cited risk decision is not an approval"
      rejectUnless (∃ size ∈ approval.positionSize, |size - c.quantity| ≤ 1 / 10 ^ 9)
        "composed quantity does not match the cited risk approval"
      rejectUnless c.reservationLive "risk reservation lapsed before the paper fill"
      match c.fence with
      | some reason => .error (.text reason)
      | none =>
        match evaluatePaperSimulationGates (composedGateInput env ctx c approval decision market) with
        | ⟨false, _, reason, _⟩ => .error (.gate (reason.getD (.text "paper simulation refused")))
        | ⟨true, _, _, _⟩ =>
          match market, env.instrumentSpec c.reloaded.assetClass c.reloaded.symbol with
          | .error refusal, _ => .error (.text refusal.reason)
          -- the gates let no missing specification through
          | .ok _, none => .error (.text "symbol is not in the platform market universe")
          | .ok price, some spec =>
            match c.binding with
            | some true => .ok (price, spec)
            | some false => .error (.text "composed paper request does not match its B1 authorization")
            | none => .error (.text "B1 authorization was revoked or expired before the paper fill")

/-- How a call ended: refused by one of its checks, replaying an order, filling one, with the error
    of its transaction, or cut off. -/
inductive EntryOutcome where
  | refused (reason : EntryRefusal)
  | replayed (orderId : String)
  | filled (orderId : String)
  | errored (e : ServiceError)
  | abandoned
  deriving DecidableEq

inductive EntryPhase where
  | idle
  | counting
  | derived (attempt : ℕ)
  | presented (attempt : ℕ)
  | recounting (attempt : ℕ)
  | authorized (auth : PaperAuthorization)
  | finished (outcome : EntryOutcome)
  deriving DecidableEq

section Phases

variable (env : PaperEnv) (call : EntryCall) (db : Db)

/-- The decision, then the attempt-1 order: a live one is replayed, a dead one makes the call count
    the failed attempts. -/
def startPhase : EntryPhase :=
  match buildServerExecutionDecision call.ctx.setup with
  | .error refusal => .finished (.refused (.decision refusal))
  | .ok decision =>
    match db.order? (entryClientOrderId (entryIdentity env call.ctx decision) 1) with
    | some o => if o.dead then .counting else .finished (.replayed o.id)
    | none => .derived 1

def attemptNumber : ℕ :=
  failedAttemptCount db call.ctx.userId call.ctx.executionProfileId call.ctx.setup.setupId + 1

/-- A direct call passes its gates and is authorized; a composed one passes its checks and looks for
    a live order under the identity it presents. -/
def authorizePhase (attempt : ℕ) : EntryPhase :=
  match buildServerExecutionDecision call.ctx.setup with
  | .error refusal => .finished (.refused (.decision refusal))
  | .ok decision =>
    match call.composed with
    | none =>
      match authorizeEntry env call.ctx decision call.verdict call.market attempt with
      | .error refusal => .finished (.refused (.gate refusal.reason))
      | .ok auth => .authorized auth
    | some c =>
      match verifyComposedEntry env call.ctx c decision call.market with
      | .error refusal => .finished (.refused refusal)
      | .ok _ =>
        match db.order? (entryClientOrderId (entryIdentity env call.ctx decision) attempt) with
        | some o => if o.dead then .presented attempt else .finished (.replayed o.id)
        | none => .presented attempt

/-- The re-derived identity against the presented one, and the consumption of the authorization. -/
def comparePhase (attempt rederived : ℕ) : EntryPhase :=
  match buildServerExecutionDecision call.ctx.setup, call.composed with
  | .ok decision, some c =>
    match verifyComposedEntry env call.ctx c decision call.market with
    | .error refusal => .finished (.refused refusal)
    | .ok (price, spec) =>
      if composedEntryIdsForAttempt env (entryIdentity env call.ctx decision) rederived =
          composedEntryIdsForAttempt env (entryIdentity env call.ctx decision) attempt then
        match c.consume with
        | some message => .finished (.refused (.text message))
        | none => .authorized (entryAuthorization env call.ctx decision c.quantity price spec attempt)
      else .finished (.refused (.text
        "stale composed identity: the paper attempt index moved; derive a fresh identity"))
  -- a direct call never presents an identity
  | _, _ => .finished .abandoned

def rederivePhase (attempt : ℕ) : EntryPhase :=
  match buildServerExecutionDecision call.ctx.setup with
  | .error refusal => .finished (.refused (.decision refusal))
  | .ok decision =>
    match db.order? (entryClientOrderId (entryIdentity env call.ctx decision) 1) with
    | some o => if o.dead then .recounting attempt else comparePhase env call attempt 1
    | none => comparePhase env call attempt 1

def submitOutcome : Except ServiceError SubmitOutcome → EntryOutcome
  | .ok outcome => if outcome.replay then .replayed outcome.providerOrderId else .filled outcome.providerOrderId
  | .error e => .errored e

end Phases

/-! ## Interleavings -/

structure EntryState where
  db : Db
  phase : ℕ → EntryPhase

inductive EntryAct where
  | start (i : ℕ)
  | count (i : ℕ)
  | authorize (i : ℕ)
  | rederive (i : ℕ)
  | recount (i : ℕ)
  | submit (i : ℕ)
  | abandon (i : ℕ)
  | other (auth : PaperAuthorization) (mode : PaperFailureMode) (fresh : Fresh)

def EntryState.start (db : Db) : EntryState := ⟨db, fun _ => .idle⟩

def EntryState.setPhase (s : EntryState) (i : ℕ) (ph : EntryPhase) : EntryState :=
  { s with phase := fun j => if j = i then ph else s.phase j }

/-- One step; a step that is not due does nothing.  `abandon` is a call that is cut off (a crash, an
    expired authorization, any thrown error), `other` a transaction of the service that is not an
    entry of this identity. -/
def entryStep (env : PaperEnv) (I : EntryIdentity) (calls : ℕ → EntryCall) (s : EntryState) :
    EntryAct → EntryState
  | .start i =>
    match s.phase i with
    | .idle => s.setPhase i (startPhase env (calls i) s.db)
    | _ => s
  | .count i =>
    match s.phase i with
    | .counting => s.setPhase i (.derived (attemptNumber (calls i) s.db))
    | _ => s
  | .authorize i =>
    match s.phase i with
    | .derived attempt => s.setPhase i (authorizePhase env (calls i) s.db attempt)
    | _ => s
  | .rederive i =>
    match s.phase i with
    | .presented attempt => s.setPhase i (rederivePhase env (calls i) s.db attempt)
    | _ => s
  | .recount i =>
    match s.phase i with
    | .recounting attempt => s.setPhase i (comparePhase env (calls i) attempt (attemptNumber (calls i) s.db))
    | _ => s
  | .submit i =>
    match s.phase i with
    | .authorized auth =>
      { db := (runFillTransaction env (calls i).mode auth (calls i).fresh s.db).2
        phase := (s.setPhase i (.finished (submitOutcome
          (runFillTransaction env (calls i).mode auth (calls i).fresh s.db).1))).phase }
    | _ => s
  | .abandon i =>
    match s.phase i with
    | .finished _ => s
    | _ => s.setPhase i (.finished .abandoned)
  | .other auth mode fresh =>
    if I.claims auth then s else { s with db := (runFillTransaction env mode auth fresh s.db).2 }

/-! ## What a transaction does to the rows of an identity -/

/-- An authorization that claims attempt `k` of the identity. -/
structure ClaimsAttempt (env : PaperEnv) (I : EntryIdentity) (k : ℕ) (auth : PaperAuthorization) : Prop where
  kind_eq : auth.kind = .entry
  userId_eq : auth.userId = I.userId
  executionProfileId_eq : auth.executionProfileId = I.executionProfileId
  setupId_eq : auth.setupId = I.setupId
  action_ne : auth.decision.action ≠ .close_position
  clientOrderId_eq : auth.clientOrderId = entryClientOrderId (I.hash env) k
  positionKey_eq : auth.positionKey = I.hash env

/-- What tells the positions of an identity apart. -/
def positionSummary (p : PositionRow) : String × Option String := (p.id, p.providerPositionId)

section Transaction

variable {env : PaperEnv} {mode : PaperFailureMode} {auth : PaperAuthorization} {fresh : Fresh} {db db' : Db}
  {I : EntryIdentity} {k : ℕ}

theorem EntryIdentity.ownsOrder_iff {o : OrderRow} : I.ownsOrder o = true ↔
    o.userId = I.userId ∧ o.executionProfileId = I.executionProfileId ∧ o.setupId = some I.setupId ∧
      o.decision.action ≠ .close_position := by
  simp [EntryIdentity.ownsOrder]

theorem EntryIdentity.ownsPosition_iff {p : PositionRow} : I.ownsPosition p = true ↔
    p.userId = I.userId ∧ p.executionProfileId = I.executionProfileId ∧ p.setupId = some I.setupId := by
  simp [EntryIdentity.ownsPosition]

theorem EntryIdentity.claims_iff : I.claims auth = true ↔
    auth.kind = .entry ∧ auth.userId = I.userId ∧ auth.executionProfileId = I.executionProfileId ∧
      auth.setupId = I.setupId := by
  simp [EntryIdentity.claims]

theorem Inserted.ownsOrder_eq {order : OrderRow} (h : Inserted auth fresh.orderId db order)
    (hnot : I.claims auth = false) : I.ownsOrder order = false := by
  rw [← Bool.not_eq_true, EntryIdentity.ownsOrder_iff]
  rintro ⟨huser, hprofile, hsetup, haction⟩
  rw [← Bool.not_eq_true, EntryIdentity.claims_iff] at hnot
  rw [h.decision_eq, PaperAuthorization.snapshot] at haction
  split at haction
  · rename_i hkind
    rw [h.setupId_eq, Option.some.injEq] at hsetup
    exact hnot ⟨hkind, h.userId_eq ▸ huser, h.executionProfileId_eq ▸ hprofile, hsetup⟩
  · exact haction rfl

theorem ClaimsAttempt.ownsOrder (h : ClaimsAttempt env I k auth) {order : OrderRow}
    (hins : Inserted auth fresh.orderId db order) : I.ownsOrder order = true := by
  rw [EntryIdentity.ownsOrder_iff]
  refine ⟨hins.userId_eq.trans h.userId_eq, hins.executionProfileId_eq.trans h.executionProfileId_eq, ?_, ?_⟩
  · rw [hins.setupId_eq, h.setupId_eq]
  · rw [hins.decision_eq, PaperAuthorization.snapshot, if_pos h.kind_eq]
    exact h.action_ne

theorem setPosition_summaries {position row : PositionRow} {orderId : String} {reason : PaperExitReason}
    {net : Dec} (hcons : Consistent db) (hfound : db.position? position.id = some position)
    (hfrom : ClosedFrom position row orderId reason net) :
    ((db.setPosition row).positions.filter I.ownsPosition).map positionSummary =
      (db.positions.filter I.ownsPosition).map positionSummary := by
  have hkeeps : ∀ p ∈ db.positions, p.id = row.id → p = position := by
    intro p hp hid
    have hpos := hcons.position?_of_mem hp
    rw [hid, hfrom.id_eq, hfound] at hpos
    exact (Option.some.inj hpos).symm
  have howns : I.ownsPosition row = I.ownsPosition position := by
    simp only [EntryIdentity.ownsPosition, hfrom.userId_eq, hfrom.executionProfileId_eq, hfrom.setupId_eq]
  have hsummary : positionSummary row = positionSummary position := by
    simp only [positionSummary, hfrom.id_eq, hfrom.providerPositionId_eq]
  rw [Db.setPosition, List.filter_map, List.map_map]
  have hfilter : db.positions.filter (I.ownsPosition ∘ fun p => if p.id = row.id then row else p) =
      db.positions.filter I.ownsPosition := by
    refine List.filter_congr fun p hp => ?_
    simp only [Function.comp_apply]
    split
    · rename_i hid
      rw [howns, hkeeps p hp hid]
    · rfl
  rw [hfilter]
  refine List.map_congr_left fun p hp => ?_
  simp only [Function.comp_apply]
  split
  · rename_i hid
    rw [hsummary, hkeeps p (List.mem_of_mem_filter hp) hid]
  · rfl

/-- **Other transactions** leave the entries of an identity alone. -/
theorem RunCase.of_not_claims (hcase : RunCase env mode auth fresh db db') (hcons : Consistent db)
    (hnot : I.claims auth = false) :
    I.entryOrders db' = I.entryOrders db ∧
      (I.entryPositions db').map positionSummary = (I.entryPositions db).map positionSummary := by
  cases hcase with
  | unchanged => exact ⟨rfl, rfl⟩
  | failed order _ hins _ =>
    refine ⟨?_, rfl⟩
    simp [EntryIdentity.entryOrders, List.filter_append, hins.ownsOrder_eq hnot]
  | entry order fill row fillRow hkind hins _ _ hrow _ _ _ =>
    have hposition := newPositionRow_ok hrow
    have hrownot : I.ownsPosition row = false := by
      rw [← Bool.not_eq_true, EntryIdentity.ownsPosition_iff]
      rintro ⟨huser, hprofile, hsetup⟩
      rw [← Bool.not_eq_true, EntryIdentity.claims_iff] at hnot
      rw [hposition.setupId_eq, Option.some.injEq] at hsetup
      exact hnot ⟨hkind, hposition.userId_eq ▸ huser, hposition.executionProfileId_eq ▸ hprofile, hsetup⟩
    constructor
    · simp [EntryIdentity.entryOrders, List.filter_append, hins.ownsOrder_eq hnot]
    · simp [EntryIdentity.entryPositions, List.filter_append, hrownot]
  | exit order fill reason position row net account fillRow _ hins _ _ _ hfound _ hclosed _ _ =>
    constructor
    · simp [EntryIdentity.entryOrders, List.filter_append, hins.ownsOrder_eq hnot]
    · exact setPosition_summaries hcons hfound (closedRow_ok hclosed)

/-- **An entry of the identity** leaves the tables as they were, or adds one order under a name that
    was free: a dead one, or a filled one with a position under a key that was free. -/
theorem RunCase.of_claims (hcase : RunCase env mode auth fresh db db') (hclaims : ClaimsAttempt env I k auth) :
    db' = db ∨
      ∃ o, (∀ o' ∈ db.orders, o'.clientOrderId ≠ entryClientOrderId (I.hash env) k) ∧
        o.clientOrderId = entryClientOrderId (I.hash env) k ∧
        I.entryOrders db' = I.entryOrders db ++ [o] ∧
        ((o.dead = true ∧ db'.positions = db.positions) ∨
          (o.status = .filled ∧ ∃ row, I.ownsPosition row = true ∧
            row.providerPositionId = some (paperProviderPositionId (I.hash env)) ∧
            db'.positions = db.positions ++ [row] ∧
            ∀ p ∈ db.positions,
              p.holds I.executionProfileId (paperProviderPositionId (I.hash env)) = false)) := by
  cases hcase with
  | unchanged => exact .inl rfl
  | failed order _ hins hstatus =>
    refine .inr ⟨order, ?_, hins.clientOrderId_eq.trans hclaims.clientOrderId_eq, ?_, .inl ⟨?_, rfl⟩⟩
    · rw [← hclaims.clientOrderId_eq]
      exact hins.clientOrderId_fresh
    · simp [EntryIdentity.entryOrders, List.filter_append, hclaims.ownsOrder hins]
    · simp [OrderRow.dead, hstatus]
  | entry order fill row fillRow _ hins hstatus _ hrow _ hkey _ =>
    have hposition := newPositionRow_ok hrow
    refine .inr ⟨order, ?_, hins.clientOrderId_eq.trans hclaims.clientOrderId_eq, ?_,
      .inr ⟨hstatus, row, ?_, ?_, rfl, ?_⟩⟩
    · rw [← hclaims.clientOrderId_eq]
      exact hins.clientOrderId_fresh
    · simp [EntryIdentity.entryOrders, List.filter_append, hclaims.ownsOrder hins]
    · rw [EntryIdentity.ownsPosition_iff, hposition.userId_eq, hposition.executionProfileId_eq,
        hposition.setupId_eq, hclaims.userId_eq, hclaims.executionProfileId_eq, hclaims.setupId_eq]
      exact ⟨rfl, rfl, rfl⟩
    · rw [hposition.providerPositionId_eq, hclaims.positionKey_eq]
    · rw [← hclaims.executionProfileId_eq, ← hclaims.positionKey_eq]
      exact hkey
  | exit order fill reason position row net account fillRow hkind =>
    rw [hclaims.kind_eq] at hkind
    cases hkind

end Transaction

/-! ## The invariant of a run -/

/-- The call enters for the identity. -/
structure EntryCall.For (I : EntryIdentity) (call : EntryCall) : Prop where
  userId_eq : call.ctx.userId = I.userId
  executionProfileId_eq : call.ctx.executionProfileId = I.executionProfileId
  setupId_eq : call.ctx.setup.setupId = I.setupId
  direction_eq : call.ctx.setup.direction = I.direction

/-- How many attempts of the identity have failed. -/
def EntryIdentity.failures (I : EntryIdentity) (db : Db) : ℕ := (I.entryOrders db).countP OrderRow.dead

/-- The rows of an identity: numbered attempts, each dead or filled, and at most one position under
    the identity's key. -/
structure EntryRows (env : PaperEnv) (I : EntryIdentity) (db : Db) : Prop where
  log : Numbered OrderRow.clientOrderId (entryClientOrderId (I.hash env)) OrderRow.dead (I.entryOrders db)
  settled : ∀ o ∈ I.entryOrders db, o.dead = true ∨ o.status = .filled
  key : ∀ s ∈ (I.entryPositions db).map positionSummary,
    s.2 = some (paperProviderPositionId (I.hash env))
  one : ((I.entryPositions db).map positionSummary).length ≤ 1

/-- The number a call works with is never ahead of the derived one. -/
def PhaseBound (env : PaperEnv) (I : EntryIdentity) (n : ℕ) : EntryPhase → Prop
  | .derived k | .presented k | .recounting k => 1 ≤ k ∧ k ≤ n + 1
  | .authorized auth => ∃ k, 1 ≤ k ∧ k ≤ n + 1 ∧ ClaimsAttempt env I k auth
  | _ => True

structure EntryInv (env : PaperEnv) (I : EntryIdentity) (s : EntryState) : Prop where
  consistent : Consistent s.db
  rows : EntryRows env I s.db
  bound : ∀ i, PhaseBound env I (I.failures s.db) (s.phase i)

section Invariant

variable {env : PaperEnv} {I : EntryIdentity} {calls : ℕ → EntryCall} {call : EntryCall} {db db' : Db}
  {mode : PaperFailureMode} {auth : PaperAuthorization} {fresh : Fresh} {k n : ℕ}

theorem PhaseBound.mono {m : ℕ} {ph : EntryPhase} (h : PhaseBound env I n ph) (hnm : n ≤ m) :
    PhaseBound env I m ph := by
  cases ph with
  | authorized auth =>
    obtain ⟨k, h1, hk, hclaims⟩ := h
    exact ⟨k, h1, hk.trans (by omega), hclaims⟩
  | derived k => exact ⟨h.1, h.2.trans (by omega)⟩
  | presented k => exact ⟨h.1, h.2.trans (by omega)⟩
  | recounting k => exact ⟨h.1, h.2.trans (by omega)⟩
  | _ => trivial

theorem EntryInv.setPhase {s : EntryState} (h : EntryInv env I s) {i : ℕ} {ph : EntryPhase}
    (hph : PhaseBound env I (I.failures s.db) ph) : EntryInv env I (s.setPhase i ph) where
  consistent := h.consistent
  rows := h.rows
  bound j := by
    simp only [EntryState.setPhase]
    split
    · exact hph
    · exact h.bound j

theorem EntryCall.For.entryIdentity_eq (hcall : call.For I) {decision : ExecutionDecision}
    (hbuilt : buildServerExecutionDecision call.ctx.setup = .ok decision) :
    entryIdentity env call.ctx decision = I.hash env := by
  have hfrom := buildServerExecutionDecision_ok hbuilt
  rw [entryIdentity, EntryIdentity.hash, hcall.userId_eq, hcall.executionProfileId_eq, hcall.setupId_eq,
    hfrom.action_eq, hcall.direction_eq]

theorem attemptNumber_eq (hcall : call.For I) : attemptNumber call db = I.failures db + 1 := by
  rw [attemptNumber, failedAttemptCount, EntryIdentity.failures, EntryIdentity.entryOrders,
    List.countP_filter, hcall.userId_eq, hcall.executionProfileId_eq, hcall.setupId_eq]
  congr 1
  refine List.countP_congr fun o _ => ?_
  simp only [decide_eq_true_eq, Bool.and_eq_true, EntryIdentity.ownsOrder_iff]
  tauto

theorem claimsAttempt_entryAuthorization (hcall : call.For I) {decision : ExecutionDecision}
    (hbuilt : buildServerExecutionDecision call.ctx.setup = .ok decision) {size : ℚ}
    {price : SimulatorMarketPrice} {spec : InstrumentRiskSpec} :
    ClaimsAttempt env I k (entryAuthorization env call.ctx decision size price spec k) where
  kind_eq := rfl
  userId_eq := hcall.userId_eq
  executionProfileId_eq := hcall.executionProfileId_eq
  setupId_eq := hcall.setupId_eq
  action_ne := by
    have haction := (buildServerExecutionDecision_ok hbuilt).action_eq
    show decision.action ≠ _
    rw [haction]
    exact entryAction_ne_close _
  clientOrderId_eq := by
    show entryClientOrderId _ k = _
    rw [hcall.entryIdentity_eq hbuilt]
  positionKey_eq := hcall.entryIdentity_eq hbuilt

theorem startPhase_bound : PhaseBound env I n (startPhase env call db) := by
  unfold startPhase
  split
  · trivial
  · split
    · split <;> trivial
    · exact ⟨le_rfl, by omega⟩

theorem authorizePhase_bound (hcall : call.For I) (hk : 1 ≤ k ∧ k ≤ n + 1) :
    PhaseBound env I n (authorizePhase env call db k) := by
  unfold authorizePhase
  split
  · trivial
  rename_i decision hbuilt
  split
  · split
    · trivial
    · rename_i auth hauth
      obtain ⟨price, size, spec, -, -, -, -, -, rfl⟩ := authorizeEntry_ok hauth
      exact ⟨k, hk.1, hk.2, claimsAttempt_entryAuthorization hcall hbuilt⟩
  · split
    · trivial
    · split
      · split
        · exact hk
        · trivial
      · exact hk

theorem comparePhase_bound (hcall : call.For I) {rederived : ℕ} (hk : 1 ≤ k ∧ k ≤ n + 1) :
    PhaseBound env I n (comparePhase env call k rederived) := by
  unfold comparePhase
  split
  · rename_i decision c hbuilt hcomposed
    split
    · trivial
    split
    · split
      · trivial
      · exact ⟨k, hk.1, hk.2, claimsAttempt_entryAuthorization hcall hbuilt⟩
    · trivial
  · trivial

theorem rederivePhase_bound (hcall : call.For I) (hk : 1 ≤ k ∧ k ≤ n + 1) :
    PhaseBound env I n (rederivePhase env call db k) := by
  unfold rederivePhase
  split
  · trivial
  split
  · split
    · exact hk
    · exact comparePhase_bound hcall hk
  · exact comparePhase_bound hcall hk

/-- Rows with the same entries and position summaries satisfy the same invariant. -/
theorem EntryRows.congr (h : EntryRows env I db) (horders : I.entryOrders db' = I.entryOrders db)
    (hpositions : (I.entryPositions db').map positionSummary = (I.entryPositions db).map positionSummary) :
    EntryRows env I db' where
  log := horders ▸ h.log
  settled := horders ▸ h.settled
  key := hpositions ▸ h.key
  one := hpositions ▸ h.one

/-- **One entry transaction** keeps the rows in order, and never lowers the number of failures. -/
theorem EntryRows.of_claims (h : EntryRows env I db) (hcase : RunCase env mode auth fresh db db')
    (hclaims : ClaimsAttempt env I k auth) (hpos : 1 ≤ k) (hk : k ≤ I.failures db + 1) :
    EntryRows env I db' ∧ I.failures db ≤ I.failures db' := by
  rcases hcase.of_claims hclaims with rfl | ⟨o, hfree, hname, horders, hrest⟩
  · exact ⟨h, le_rfl⟩
  · have hfreeOwn : ∀ o' ∈ I.entryOrders db, o'.clientOrderId ≠ entryClientOrderId (I.hash env) k :=
      fun o' ho' => hfree o' (List.mem_of_mem_filter ho')
    obtain ⟨hnext, hdead⟩ := h.log.next hpos hk hfreeOwn
    have hlog := h.log.concat hdead (hnext ▸ hname)
    have hfailures : I.failures db ≤ I.failures db' := by
      rw [EntryIdentity.failures, EntryIdentity.failures, horders, List.countP_append]
      exact Nat.le_add_right _ _
    have hsettled : o.dead = true ∨ o.status = .filled → ∀ o' ∈ I.entryOrders db',
        o'.dead = true ∨ o'.status = .filled := by
      intro ho o' ho'
      rw [horders] at ho'
      rcases List.mem_append.mp ho' with hmem | hmem
      · exact h.settled o' hmem
      · rw [List.mem_singleton.mp hmem]
        exact ho
    rcases hrest with ⟨hodead, hpositions⟩ | ⟨hofilled, row, howns, hrowkey, hpositions, hkeyfree⟩
    · have hsame : I.entryPositions db' = I.entryPositions db := by
        rw [EntryIdentity.entryPositions, EntryIdentity.entryPositions, hpositions]
      exact ⟨⟨horders ▸ hlog, hsettled (.inl hodead), hsame ▸ h.key, hsame ▸ h.one⟩, hfailures⟩
    · -- no position of the identity can exist: its key would have been taken
      have hnone : I.entryPositions db = [] := by
        rw [EntryIdentity.entryPositions, List.filter_eq_nil_iff]
        intro p hp hpowns
        have hkey := h.key _ (List.mem_map_of_mem (List.mem_filter.mpr ⟨hp, hpowns⟩))
        have hheld : p.holds I.executionProfileId (paperProviderPositionId (I.hash env)) = true := by
          simp only [PositionRow.holds, Bool.and_eq_true, decide_eq_true_eq]
          exact ⟨(EntryIdentity.ownsPosition_iff.mp hpowns).2.1, hkey⟩
        rw [hkeyfree p hp] at hheld
        cases hheld
      have hsingle : I.entryPositions db' = [row] := by
        rw [EntryIdentity.entryPositions, hpositions, List.filter_append]
        rw [EntryIdentity.entryPositions] at hnone
        simp [hnone, howns]
      refine ⟨⟨horders ▸ hlog, hsettled (.inr hofilled), ?_, ?_⟩, hfailures⟩
      · rw [hsingle]
        simpa [positionSummary] using hrowkey
      · rw [hsingle]
        simp

theorem entryStep_inv (hcalls : ∀ i, (calls i).For I) {s : EntryState} (h : EntryInv env I s) (a : EntryAct) :
    EntryInv env I (entryStep env I calls s a) := by
  cases a with
  | start i =>
    cases hphase : s.phase i with
    | idle => simpa [entryStep, hphase] using h.setPhase startPhase_bound
    | _ => simpa [entryStep, hphase] using h
  | count i =>
    cases hphase : s.phase i with
    | counting =>
      have hbound : PhaseBound env I (I.failures s.db) (.derived (attemptNumber (calls i) s.db)) := by
        rw [attemptNumber_eq (hcalls i)]
        exact ⟨by omega, le_rfl⟩
      simpa [entryStep, hphase] using h.setPhase hbound
    | _ => simpa [entryStep, hphase] using h
  | authorize i =>
    cases hphase : s.phase i with
    | derived k =>
      have hk := h.bound i
      rw [hphase] at hk
      simpa [entryStep, hphase] using h.setPhase (authorizePhase_bound (hcalls i) hk)
    | _ => simpa [entryStep, hphase] using h
  | rederive i =>
    cases hphase : s.phase i with
    | presented k =>
      have hk := h.bound i
      rw [hphase] at hk
      simpa [entryStep, hphase] using h.setPhase (rederivePhase_bound (hcalls i) hk)
    | _ => simpa [entryStep, hphase] using h
  | recount i =>
    cases hphase : s.phase i with
    | recounting k =>
      have hk := h.bound i
      rw [hphase] at hk
      simpa [entryStep, hphase] using h.setPhase (comparePhase_bound (hcalls i) hk)
    | _ => simpa [entryStep, hphase] using h
  | submit i =>
    cases hphase : s.phase i with
    | authorized auth =>
      have hauth := h.bound i
      rw [hphase] at hauth
      obtain ⟨k, hpos, hk, hclaims⟩ := hauth
      simp only [entryStep, hphase]
      have hcase : RunCase env (calls i).mode auth (calls i).fresh s.db
          (runFillTransaction env (calls i).mode auth (calls i).fresh s.db).2 :=
        runFillTransaction_cases h.consistent
      obtain ⟨hrows, hfailures⟩ := h.rows.of_claims hcase hclaims hpos hk
      refine ⟨hcase.consistent h.consistent, hrows, fun j => ?_⟩
      simp only [EntryState.setPhase]
      split
      · trivial
      · exact (h.bound j).mono hfailures
    | _ => simpa [entryStep, hphase] using h
  | abandon i =>
    cases hphase : s.phase i with
    | finished _ => simpa [entryStep, hphase] using h
    | _ =>
      have hbound : PhaseBound env I (I.failures s.db) (.finished .abandoned) := trivial
      simpa [entryStep, hphase] using h.setPhase hbound
  | other auth mode fresh =>
    simp only [entryStep]
    split
    · exact h
    rename_i hnot
    have hcase : RunCase env mode auth fresh s.db (runFillTransaction env mode auth fresh s.db).2 :=
      runFillTransaction_cases h.consistent
    obtain ⟨horders, hpositions⟩ := hcase.of_not_claims h.consistent (Bool.not_eq_true _ ▸ hnot)
    refine ⟨hcase.consistent h.consistent, h.rows.congr horders hpositions, fun j => ?_⟩
    show PhaseBound env I (I.failures _) (s.phase j)
    rw [EntryIdentity.failures, horders]
    exact h.bound j

/-! ## After the fill -/

theorem Consistent.order?_of_mem (hcons : Consistent db) {o : OrderRow} (ho : o ∈ db.orders) :
    db.order? o.clientOrderId = some o := by
  cases hfind : db.order? o.clientOrderId with
  | none => exact absurd (decide_eq_true rfl) (List.find?_eq_none.mp hfind o ho)
  | some q =>
    have hq : q.clientOrderId = o.clientOrderId := by simpa using List.find?_some hfind
    rw [List.inj_on_of_nodup_map hcons.client_ids (List.mem_of_find?_eq_some hfind) ho hq]

theorem dead_of_filled {o : OrderRow} (h : o.status = .filled) : o.dead = false := by
  simp [OrderRow.dead, h]

/-- Once an attempt has filled, no entry of the identity changes the tables. -/
theorem EntryInv.submit_settled {s : EntryState} (h : EntryInv env I s) {o : OrderRow}
    (ho : o ∈ I.entryOrders s.db) (hfilled : o.status = .filled) {i : ℕ}
    (hphase : s.phase i = .authorized auth) : (runFillTransaction env mode auth fresh s.db).2 = s.db := by
  have hauth := h.bound i
  rw [hphase] at hauth
  obtain ⟨k, hpos, hk, hclaims⟩ := hauth
  have hcase : RunCase env mode auth fresh s.db (runFillTransaction env mode auth fresh s.db).2 :=
    runFillTransaction_cases h.consistent
  rcases hcase.of_claims hclaims with hsame | ⟨o', hfree, -⟩
  · exact hsame
  · obtain ⟨-, hdead⟩ := h.rows.log.next hpos hk fun o' ho' => hfree o' (List.mem_of_mem_filter ho')
    have hdeado := hdead o ho
    rw [dead_of_filled hfilled] at hdeado
    cases hdeado

/-- Where a call can be that started after attempt `m` filled order `o`. -/
def LatePhase (env : PaperEnv) (I : EntryIdentity) (m : ℕ) (o : OrderRow) : EntryPhase → Prop
  | .idle | .counting => True
  | .derived k => k = m
  | .authorized auth => ClaimsAttempt env I m auth
  | .finished outcome => outcome = .replayed o.id ∨ outcome = .abandoned ∨ ∃ reason, outcome = .refused reason
  | _ => False

/-- What holds after `t` once `o` is filled there. -/
structure LateInv (env : PaperEnv) (I : EntryIdentity) (t : EntryState) (o : OrderRow) (s : EntryState) :
    Prop where
  inv : EntryInv env I s
  orders : I.entryOrders s.db = I.entryOrders t.db
  positions : (I.entryPositions s.db).map positionSummary = (I.entryPositions t.db).map positionSummary
  late : ∀ i, t.phase i = .idle → LatePhase env I (I.entryOrders t.db).length o (s.phase i)

section Late

variable {s t : EntryState} {o : OrderRow}

theorem LateInv.setPhase (h : LateInv env I t o s) {i : ℕ} {ph : EntryPhase}
    (hinv : EntryInv env I (s.setPhase i ph))
    (hph : t.phase i = .idle → LatePhase env I (I.entryOrders t.db).length o ph) :
    LateInv env I t o (s.setPhase i ph) where
  inv := hinv
  orders := h.orders
  positions := h.positions
  late j hj := by
    simp only [EntryState.setPhase]
    split
    · rename_i hji
      exact hph (hji ▸ hj)
    · exact h.late j hj

theorem EntryInv.order?_settled (h : EntryInv env I s) (ho : o ∈ I.entryOrders s.db)
    (hfilled : o.status = .filled) :
    s.db.order? (entryClientOrderId (I.hash env) (I.entryOrders s.db).length) = some o ∧
      I.failures s.db + 1 = (I.entryOrders s.db).length := by
  obtain ⟨hcount, hname, -⟩ := h.rows.log.settled ho (dead_of_filled hfilled)
  exact ⟨hname ▸ h.consistent.order?_of_mem (List.mem_of_mem_filter ho), hcount⟩

theorem EntryInv.first_settled (h : EntryInv env I s) (ho : o ∈ I.entryOrders s.db)
    (hfilled : o.status = .filled) :
    ∃ first, s.db.order? (entryClientOrderId (I.hash env) 1) = some first ∧
      (first.dead = false → first = o) := by
  have hlength := List.length_pos_iff.mpr (List.ne_nil_of_mem ho)
  obtain ⟨first, hfirst, hname⟩ := h.rows.log.held le_rfl hlength
  refine ⟨first, hname ▸ h.consistent.order?_of_mem (List.mem_of_mem_filter hfirst), fun hlive => ?_⟩
  obtain ⟨-, -, hlast⟩ := h.rows.log.settled hfirst hlive
  obtain ⟨-, -, hlast'⟩ := h.rows.log.settled ho (dead_of_filled hfilled)
  exact Option.some.inj (hlast.symm.trans hlast')

theorem startPhase_late (h : EntryInv env I s) (hcall : call.For I) (ho : o ∈ I.entryOrders s.db)
    (hfilled : o.status = .filled) {m : ℕ} : LatePhase env I m o (startPhase env call s.db) := by
  obtain ⟨first, hfirst, hlive⟩ := h.first_settled ho hfilled
  unfold startPhase
  split
  · rename_i refusal _
    exact .inr (.inr ⟨_, rfl⟩)
  · rename_i decision hbuilt
    rw [hcall.entryIdentity_eq hbuilt, hfirst]
    simp only
    split
    · trivial
    · rename_i hdead
      rw [hlive (by simpa using hdead)]
      exact .inl rfl

theorem authorizePhase_late (h : EntryInv env I s) (hcall : call.For I) (ho : o ∈ I.entryOrders s.db)
    (hfilled : o.status = .filled) :
    LatePhase env I (I.entryOrders s.db).length o
      (authorizePhase env call s.db (I.entryOrders s.db).length) := by
  unfold authorizePhase
  split
  · exact .inr (.inr ⟨_, rfl⟩)
  rename_i decision hbuilt
  split
  · split
    · exact .inr (.inr ⟨_, rfl⟩)
    · rename_i auth hauth
      obtain ⟨price, size, spec, -, -, -, -, -, rfl⟩ := authorizeEntry_ok hauth
      exact claimsAttempt_entryAuthorization hcall hbuilt
  · split
    · exact .inr (.inr ⟨_, rfl⟩)
    · rw [hcall.entryIdentity_eq hbuilt, (h.order?_settled ho hfilled).1]
      simp only [dead_of_filled hfilled]
      exact .inl rfl

theorem runFillTransaction_late (h : EntryInv env I s) (ho : o ∈ I.entryOrders s.db)
    (hfilled : o.status = .filled) (hclaims : ClaimsAttempt env I (I.entryOrders s.db).length auth) :
    submitOutcome (runFillTransaction env mode auth fresh s.db).1 = .replayed o.id := by
  unfold runFillTransaction
  rw [hclaims.clientOrderId_eq, (h.order?_settled ho hfilled).1]
  rfl

/-- **One step after the fill:** no entry of the identity is added, and late calls stay on the way
    to a replay. -/
theorem entryStep_late (hcalls : ∀ i, (calls i).For I) (h : LateInv env I t o s) (ho : o ∈ I.entryOrders t.db)
    (hfilled : o.status = .filled) (a : EntryAct) : LateInv env I t o (entryStep env I calls s a) := by
  have hinv : EntryInv env I (entryStep env I calls s a) := entryStep_inv hcalls h.inv a
  have hos : o ∈ I.entryOrders s.db := h.orders ▸ ho
  cases a with
  | start i =>
    cases hphase : s.phase i with
    | idle =>
      simp only [entryStep, hphase] at hinv ⊢
      exact h.setPhase hinv fun _ => startPhase_late h.inv (hcalls i) hos hfilled
    | _ => simpa [entryStep, hphase] using h
  | count i =>
    cases hphase : s.phase i with
    | counting =>
      simp only [entryStep, hphase] at hinv ⊢
      refine h.setPhase hinv fun _ => ?_
      show attemptNumber (calls i) s.db = _
      rw [attemptNumber_eq (hcalls i), (h.inv.order?_settled hos hfilled).2, h.orders]
    | _ => simpa [entryStep, hphase] using h
  | authorize i =>
    cases hphase : s.phase i with
    | derived k =>
      simp only [entryStep, hphase] at hinv ⊢
      refine h.setPhase hinv fun hidle => ?_
      have hk := h.late i hidle
      rw [hphase] at hk
      obtain rfl : k = (I.entryOrders t.db).length := hk
      rw [← h.orders]
      exact authorizePhase_late h.inv (hcalls i) hos hfilled
    | _ => simpa [entryStep, hphase] using h
  | rederive i =>
    cases hphase : s.phase i with
    | presented k =>
      simp only [entryStep, hphase] at hinv ⊢
      refine h.setPhase hinv fun hidle => ?_
      have hk := h.late i hidle
      rw [hphase] at hk
      cases hk
    | _ => simpa [entryStep, hphase] using h
  | recount i =>
    cases hphase : s.phase i with
    | recounting k =>
      simp only [entryStep, hphase] at hinv ⊢
      refine h.setPhase hinv fun hidle => ?_
      have hk := h.late i hidle
      rw [hphase] at hk
      cases hk
    | _ => simpa [entryStep, hphase] using h
  | submit i =>
    cases hphase : s.phase i with
    | authorized auth =>
      have hlate : t.phase i = .idle → LatePhase env I (I.entryOrders t.db).length o (.finished (submitOutcome
          (runFillTransaction env (calls i).mode auth (calls i).fresh s.db).1)) := by
        intro hidle
        have hclaims := h.late i hidle
        rw [hphase, ← h.orders] at hclaims
        exact .inl (runFillTransaction_late h.inv hos hfilled hclaims)
      simp only [entryStep, hphase] at hinv ⊢
      rw [h.inv.submit_settled hos hfilled hphase] at hinv ⊢
      exact h.setPhase hinv hlate
    | _ => simpa [entryStep, hphase] using h
  | abandon i =>
    cases hphase : s.phase i with
    | finished _ => simpa [entryStep, hphase] using h
    | _ =>
      simp only [entryStep, hphase] at hinv ⊢
      exact h.setPhase hinv fun _ => .inr (.inl rfl)
  | other auth mode fresh =>
    simp only [entryStep] at hinv ⊢
    split
    · exact h
    rename_i hnot
    rw [if_neg hnot] at hinv
    have hcase : RunCase env mode auth fresh s.db (runFillTransaction env mode auth fresh s.db).2 :=
      runFillTransaction_cases h.inv.consistent
    obtain ⟨horders, hpositions⟩ := hcase.of_not_claims h.inv.consistent (Bool.not_eq_true _ ▸ hnot)
    exact ⟨hinv, horders.trans h.orders, hpositions.trans h.positions, h.late⟩

end Late

end Invariant

/-! ## Names of attempts -/

/-- A SHA-256 digest in lower-case hex. -/
def IsHexDigest (s : String) : Prop := s.toList.length = 64 ∧ ∀ c ∈ s.toList, c ∈ "0123456789abcdef".toList

theorem isHexDigest_of_all {s : String} (hlength : s.toList.length = 64)
    (hall : s.toList.all (fun c => "0123456789abcdef".toList.contains c) = true) : IsHexDigest s :=
  ⟨hlength, fun c hc => by simpa using List.all_eq_true.mp hall c hc⟩

theorem entryClientOrderId_toList_one (hash : String) :
    (entryClientOrderId hash 1).toList = "ve-".toList ++ hash.toList.take 24 := by
  simp [entryClientOrderId, paperClientOrderId, sliceTo]

theorem entryClientOrderId_toList {k : ℕ} (hash : String) (hk : k ≠ 1) :
    (entryClientOrderId hash k).toList =
      "ve-".toList ++ (hash.toList.take 20 ++ ("-r".toList ++ (toString k).toList)) := by
  simp [entryClientOrderId, hk, sliceTo]

theorem entryClientOrderId_one_ne {hash : String} (hhex : IsHexDigest hash) {k : ℕ} (hk : k ≠ 1) :
    entryClientOrderId hash 1 ≠ entryClientOrderId hash k := by
  intro h
  have hlist := congrArg String.toList h
  rw [entryClientOrderId_toList_one, entryClientOrderId_toList hash hk, List.append_cancel_left_eq] at hlist
  have hget := congrArg (fun l => l[20]?) hlist
  have hlen : (hash.toList.take 20).length = 20 := by
    rw [List.length_take, hhex.1]
    rfl
  have hlt : 20 < hash.toList.length := by
    rw [hhex.1]
    decide
  have hright : (hash.toList.take 20 ++ ("-r".toList ++ (toString k).toList))[20]? = some '-' := by
    rw [List.getElem?_append_right hlen.le, hlen]
    rfl
  have hleft : (hash.toList.take 24)[20]? = some hash.toList[20] := by
    rw [List.getElem?_take_of_lt (by decide), List.getElem?_eq_getElem hlt]
  simp only [hleft, hright, Option.some.injEq] at hget
  have hmem := hhex.2 _ (List.getElem_mem hlt)
  rw [hget] at hmem
  revert hmem
  decide

theorem entryClientOrderId_injective {hash : String} (hhex : IsHexDigest hash) :
    Function.Injective (entryClientOrderId hash) := by
  intro a b hab
  by_cases ha : a = 1
  · subst ha
    by_contra hb
    exact entryClientOrderId_one_ne hhex (Ne.symm hb) hab
  · by_cases hb : b = 1
    · subst hb
      exact absurd hab.symm (entryClientOrderId_one_ne hhex ha)
    · have hlist := congrArg String.toList hab
      rw [entryClientOrderId_toList hash ha, entryClientOrderId_toList hash hb, List.append_cancel_left_eq,
        List.append_cancel_left_eq, List.append_cancel_left_eq] at hlist
      exact Nat.repr_injective (String.toList_inj.mp hlist)

/-! ## One fill per identity -/

theorem EntryRows.of_none {env : PaperEnv} {I : EntryIdentity} {db : Db} (horders : I.entryOrders db = [])
    (hpositions : I.entryPositions db = []) : EntryRows env I db where
  log := horders ▸ numbered_nil
  settled := by simp [horders]
  key := by simp [hpositions]
  one := by simp [hpositions]

/-- **An identity fills once.**  Over every interleaving of any number of direct and composed entry
    calls of an identity, failing ones included, with any other transactions of the service: at most
    one position and at most one filled entry order exist; attempts have different names, and an
    attempt that finds its name taken replays the order that holds it; once an order is filled, no
    later step adds an entry order or a position, and a call that starts later and is neither
    refused by its checks nor cut off replays the filled order. -/
theorem entry_identity_fills_once (env : PaperEnv) (I : EntryIdentity) (hhex : IsHexDigest (I.hash env))
    (calls : ℕ → EntryCall) (hcalls : ∀ i, (calls i).For I) {db : Db} (hcons : Consistent db)
    (horders : I.entryOrders db = []) (hpositions : I.entryPositions db = []) (acts : List EntryAct)
    {t : EntryState} (ht : Reached (entryStep env I calls) (.start db) acts t) :
    (I.entryPositions t.db).length ≤ 1 ∧
      ((I.entryOrders t.db).filter fun o => o.status = .filled).length ≤ 1 ∧
      (Function.Injective (entryClientOrderId (I.hash env)) ∧
        ((I.entryOrders t.db).map OrderRow.clientOrderId).Nodup ∧
        ∀ i auth o, t.phase i = .authorized auth → t.db.order? auth.clientOrderId = some o →
          (entryStep env I calls t (.submit i)).db = t.db ∧
            (entryStep env I calls t (.submit i)).phase i = .finished (.replayed o.id)) ∧
      ∀ o ∈ I.entryOrders t.db, o.status = .filled →
        ∀ (later : List EntryAct) (t' : EntryState), Reached (entryStep env I calls) t later t' →
          I.entryOrders t'.db = I.entryOrders t.db ∧
            (I.entryPositions t'.db).map positionSummary = (I.entryPositions t.db).map positionSummary ∧
            ∀ i outcome, t.phase i = .idle → t'.phase i = .finished outcome →
              outcome = .replayed o.id ∨ outcome = .abandoned ∨ ∃ reason, outcome = .refused reason := by
  have hstart : EntryInv env I (.start db) := ⟨hcons, .of_none horders hpositions, fun _ => trivial⟩
  have hstep : ∀ s a, EntryInv env I s → EntryInv env I (entryStep env I calls s a) :=
    fun s a hs => entryStep_inv hcalls hs a
  have hinv : EntryInv env I t := inv_of_reached_always _ hstep hstart ht
  refine ⟨?_, ?_, ⟨entryClientOrderId_injective hhex, ?_, ?_⟩, ?_⟩
  · simpa using hinv.rows.one
  · refine le_trans (List.Sublist.length_le ?_) hinv.rows.log.succeeded_le_one
    refine List.monotone_filter_right _ fun o ho => ?_
    simp only [decide_eq_true_eq] at ho
    simp [dead_of_filled ho]
  · exact (List.filter_sublist.map _).nodup hinv.consistent.client_ids
  · intro i auth o hphase hheld
    simp [entryStep, hphase, runFillTransaction, hheld, EntryState.setPhase, submitOutcome]
  · intro o ho hfilled later t' ht'
    have hlate : LateInv env I t o t := ⟨hinv, rfl, rfl, fun i hidle => by rw [hidle]; trivial⟩
    have hlater : ∀ s a, LateInv env I t o s → LateInv env I t o (entryStep env I calls s a) :=
      fun s a hs => entryStep_late hcalls hs ho hfilled a
    have hfinal : LateInv env I t o t' := inv_of_reached_always _ hlater hlate ht'
    refine ⟨hfinal.orders, hfinal.positions, fun i outcome hidle hfinished => ?_⟩
    have hphase := hfinal.late i hidle
    rw [hfinished] at hphase
    exact hphase

/-- The sample identity. -/
def sampleIdentity : EntryIdentity := ⟨"user", "setup", "profile", .long⟩

/-- Direct calls on the sample setup at its entry price; `i` names the rows they would add. -/
def sampleCall (state : SetupState) (mode : PaperFailureMode) (i : ℕ) : EntryCall where
  ctx := { gapContext with setup := { gapSetup with state } }
  verdict := evaluateRisk gapInput
  market := marketAt (11 / 10)
  composed := none
  mode := mode
  fresh := ⟨"order-" ++ toString i, "fill-" ++ toString i, "position-" ++ toString i, 120000⟩

/-- Call 0 finds the simulator in its failing mode. -/
def retriedCalls (i : ℕ) : EntryCall := sampleCall .confirmed ⟨i = 0, false⟩ i

/-- Call 0 fails, call 1 fills under the second number, call 2 replays the order of call 1. -/
theorem failed_attempt_is_retried_once :
    let acts : List EntryAct := [.start 0, .authorize 0, .submit 0, .start 1, .count 1, .authorize 1, .submit 1,
      .start 2, .count 2, .authorize 2, .submit 2]
    let t := run (entryStep sampleEnv sampleIdentity retriedCalls) (.start Db.empty) acts
    (sampleIdentity.entryPositions t.db).length ≤ 1 ∧ t.phase 2 = .finished (.replayed "order-1") := by
  have hcalls : ∀ i, (retriedCalls i).For sampleIdentity := fun i => ⟨rfl, rfl, rfl, rfl⟩
  have hhex : IsHexDigest (sampleIdentity.hash sampleEnv) := by
    have hdigest : sampleIdentity.hash sampleEnv =
        "bcdf9341c7a7826d2c7c52e57ba08b47145b6b72f7204a8f5d6ec36765605d11" := by decide +kernel
    rw [hdigest]
    exact isHexDigest_of_all (by rw [String.toList_ofList]; rfl) (by rw [String.toList_ofList]; decide +kernel)
  refine ⟨(entry_identity_fills_once sampleEnv sampleIdentity hhex retriedCalls hcalls consistent_empty rfl rfl _
    (reached_last _ _ _)).1, ?_⟩
  decide +kernel

/-- Call 1 finds the setup completed. -/
def completedCalls (i : ℕ) : EntryCall := sampleCall (if i = 0 then .confirmed else .completed) .off i

/-- After the fill of call 0, call 1 is refused before it looks at any order: it does not replay. -/
theorem completed_setup_is_not_replayed :
    let acts : List EntryAct := [.start 0, .authorize 0, .submit 0, .start 1]
    let t := run (entryStep sampleEnv sampleIdentity completedCalls) (.start Db.empty) acts
    (sampleIdentity.entryOrders t.db).map OrderRow.status = [.filled] ∧
      t.phase 0 = .finished (.filled "order-0") ∧
      t.phase 1 = .finished (.refused (.decision
        (.text "setup state \"completed\" is not eligible for execution"))) := by
  decide +kernel

end VeltrixEye
