import VeltrixEye.Execution.Reconciliation

/-!
# The fill transaction (`PaperExecutionService.runFillTransaction`)

The only transaction that turns an authorized paper order into a fill.  It replays an order that
already holds the identity, inserts a new one, fills it, opens or closes its position, posts the
realized P&L of a close, appends the fill and reconciles the result; a finding or any other error
rolls everything back.  It runs under the user's and the profile's advisory locks, so it is one
atomic step over `Db`.

What the transaction can leave behind is stated once in `Execution.FillTransaction`.
-/

namespace VeltrixEye

/-! ## State -/

/-- The tables the transaction writes. -/
structure Db where
  orders : List OrderRow
  fills : List FillRow
  positions : List PositionRow
  accounts : String → String → Option AccountRow

namespace Db

def empty : Db := ⟨[], [], [], fun _ _ => none⟩

def order? (db : Db) (clientOrderId : String) : Option OrderRow :=
  db.orders.find? fun o => o.clientOrderId = clientOrderId

def position? (db : Db) (id : String) : Option PositionRow := db.positions.find? fun p => p.id = id

/-- The fills of a position that are not its entry. -/
def exitFills (db : Db) (positionId : String) : List FillRow :=
  db.fills.filter fun f => f.positionId = some positionId ∧ f.fillType ≠ .entry

/-- The entry fills of a position. -/
def entryFills (db : Db) (positionId : String) : List FillRow :=
  db.fills.filter fun f => f.positionId = some positionId ∧ f.fillType = .entry

end Db

/-- What the transaction reads besides the tables. -/
structure PaperEnv where
  costs : PaperCostModel
  sha256 : String → String
  instrumentSpec : String → String → Option InstrumentRiskSpec
  paperEquity : String → Option PaperEquity

/-- `PaperFailureMode`, a test hook. -/
structure PaperFailureMode where
  fillFailure : Bool
  orderRejection : Bool

def PaperFailureMode.off : PaperFailureMode := ⟨false, false⟩

/-- `PaperAuthorization`: the verified bundle a fill runs on. -/
structure PaperAuthorization where
  userId : String
  executionProfileId : String
  setupId : String
  assetClass : String
  symbol : String
  side : OrderSide
  kind : PaperFillType
  quantity : JsNumber
  clientOrderId : String
  idempotencyKey : String
  decision : ExecutionDecision
  positionId : Option String
  positionKey : String
  referencePrice : JsNumber
  referencePriceMs : ℤ
  spec : InstrumentRiskSpec
  createdMs : ℤ
  deriving DecidableEq

/-- The row ids `gen_random_uuid` hands out, and the database clock. -/
structure Fresh where
  orderId : String
  fillId : String
  positionId : String
  dbNow : ℤ

/-- `ExecutionSubmitOrderOutcome` of an accepted order. -/
structure SubmitOutcome where
  providerOrderId : String
  filledQuantity : JsNumber
  averagePrice : Option ℚ
  replay : Bool

/-- A table constraint. -/
def constraint (p : Prop) [Decidable p] (name : String) : Except ServiceError Unit :=
  if p then .ok () else .error (.constraintViolation name)

@[simp] theorem constraint_ok {p : Prop} [Decidable p] {name : String} {u : Unit} :
    constraint p name = .ok u ↔ p := by
  unfold constraint
  split <;> simp_all

/-! ## Identities -/

def RiskAction.text : RiskAction → String
  | open_long => "open_long"
  | open_short => "open_short"
  | close_position => "close_position"

def PaperFillType.text : PaperFillType → String
  | entry => "entry"
  | stop_loss => "stop_loss"
  | take_profit => "take_profit"
  | close => "close"

/-- `executionIdempotencyKey`: the parts joined by colons. -/
def executionIdempotencyKey (userId setupId executionProfileId : String) (action : RiskAction) : String :=
  ":".intercalate ["exec", userId, setupId, executionProfileId, action.text]

/-- `hashIdentity(executionIdempotencyKey(…))`. -/
def PaperEnv.identityHash (env : PaperEnv) (userId setupId executionProfileId : String)
    (action : RiskAction) : String :=
  env.sha256 (executionIdempotencyKey userId setupId executionProfileId action)

def PaperEnv.orderIdempotencyKey (env : PaperEnv) (hash : String) (kind : PaperFillType) (attempt : ℕ) :
    String :=
  env.sha256 ("paper:order:" ++ kind.text ++ ":" ++ hash ++ ":" ++ toString attempt)

/-! ## Orders -/

def PaperFillType.exitReason : PaperFillType → Option PaperExitReason
  | .entry => none
  | .stop_loss => some .stop_loss
  | .take_profit => some .take_profit
  | .close => some .close

theorem PaperFillType.exitReason_eq_none {kind : PaperFillType} : kind.exitReason = none ↔ kind = .entry := by
  cases kind <;> simp [exitReason]

/-- The decision snapshot an order carries: an exit closes the position. -/
def PaperAuthorization.snapshot (auth : PaperAuthorization) : ExecutionDecision :=
  if auth.kind = .entry then auth.decision else { auth.decision with action := .close_position }

def insertOrder (auth : PaperAuthorization) (id : String) (db : Db) : Except ServiceError OrderRow := do
  let quantity ← storeAmount auth.quantity
  let _ ← storeAmount (.fin auth.decision.stopLossPrice)
  let _ ← storeAmount (.fin auth.decision.takeProfitPrice)
  let referencePrice ← storeAmount auth.referencePrice
  constraint (0 < quantity.units) "execution_orders_quantity_check"
  constraint (0 < referencePrice.units) "execution_orders_reference_price_check"
  constraint (∀ o ∈ db.orders, o.id ≠ id) "execution_orders_pkey"
  constraint (∀ o ∈ db.orders, o.clientOrderId ≠ auth.clientOrderId) "execution_orders_client_order_id_idx"
  constraint (∀ o ∈ db.orders, o.idempotencyKey ≠ auth.idempotencyKey) "execution_orders_idempotency_idx"
  return {
    id
    userId := auth.userId
    executionProfileId := auth.executionProfileId
    clientOrderId := auth.clientOrderId
    idempotencyKey := auth.idempotencyKey
    setupId := some auth.setupId
    symbol := auth.symbol
    side := auth.side
    quantity
    filledQuantity := 0
    averageFillPrice := none
    fees := 0
    slippage := 0
    status := .requested
    rejectReason := none
    decision := auth.snapshot }

/-- The fill of an authorization: the entry at the market reference, an exit at its level. -/
def computeFill (env : PaperEnv) (auth : PaperAuthorization) : Except ServiceError FillComputation :=
  match Dec.fromNumber auth.quantity, Dec.fromNumber auth.referencePrice with
  | some quantity, some referencePrice => do
    let fill ← throwOverflow <| match auth.kind.exitReason with
      | none => computeEntryFill
          ⟨auth.decision.direction, referencePrice, quantity, some auth.spec, env.costs⟩
      | some reason => computeExitFill
          ⟨auth.decision.direction, reason, referencePrice, referencePrice, quantity, some auth.spec, env.costs⟩
    match fill with
    | some fill => return fill
    | none => .error (.provider "paper fill could not be computed from the server-supplied state")
  -- a null decimal is dereferenced
  | _, _ => .error (.internal "TypeError")

/-! ## Positions -/

/-- The row `openPositionRow` inserts. -/
def newPositionRow (auth : PaperAuthorization) (fresh : Fresh) (fill : FillComputation) :
    Except ServiceError PositionRow := do
  let quantity ← storeAmount auth.quantity
  let averageEntryPrice ← storeDec fill.price
  let stopLossPrice ← storeAmount (.fin auth.decision.stopLossPrice)
  let takeProfitPrice ← storeAmount (.fin auth.decision.takeProfitPrice)
  let fees ← storeDec fill.fees
  let slippage ← storeDec fill.slippageCost
  return {
    id := fresh.positionId
    userId := auth.userId
    executionProfileId := auth.executionProfileId
    providerPositionId := some (paperProviderPositionId auth.positionKey)
    assetClass := auth.assetClass
    symbol := auth.symbol
    direction := auth.decision.direction
    quantity
    averageEntryPrice
    stopLossPrice := some stopLossPrice
    takeProfitPrice := some takeProfitPrice
    realizedPl := none
    status := .«open»
    openedAt := auth.createdMs
    closedAt := none
    setupId := some auth.setupId
    openedByOrderId := some fresh.orderId
    closedByOrderId := none
    exitPrice := none
    exitReason := none
    fees
    slippage
    simulated := true }

/-- The unique index `(execution_profile_id, provider_position_id)`. -/
def PositionRow.holds (p : PositionRow) (executionProfileId providerPositionId : String) : Bool :=
  p.executionProfileId = executionProfileId && p.providerPositionId = some providerPositionId

/-- `openPositionRow`: the conflicting row of the identity is reused, never duplicated. -/
def openPositionRow (auth : PaperAuthorization) (fresh : Fresh) (fill : FillComputation) (db : Db) :
    Except ServiceError (String × Db) :=
  match db.positions.find? fun p =>
      p.holds auth.executionProfileId (paperProviderPositionId auth.positionKey) with
  | some existing => .ok (existing.id, db)
  | none => do
    let row ← newPositionRow auth fresh fill
    constraint (∀ p ∈ db.positions, p.id ≠ row.id) "execution_positions_pkey"
    return (row.id, { db with positions := db.positions ++ [row] })

/-- What closing a position gives: nothing when it was closed already. -/
structure CloseResult where
  positionId : String
  realizedPl : Option Dec

/-- The net P&L of closing `position` with `fill`. -/
def closingPl (auth : PaperAuthorization) (position : PositionRow) (fill : FillComputation) :
    Except ServiceError (Dec × Dec) :=
  match Dec.fromNumber (.fin position.averageEntryPrice.toRat), Dec.fromNumber (.fin position.quantity.toRat) with
  | some entryPrice, some quantity => do
    let entryFees := (Dec.fromUnknown position.fees).getD Dec.zero
    match ← throwOverflow (grossRealizedPl
        ⟨position.direction, entryPrice, fill.price, quantity, some auth.spec⟩) with
    | none => .error (.provider "realized P&L could not be computed")
    | some gross =>
      match netRealizedPl gross entryFees fill.fees with
      | none => .error (.provider "net P&L could not be computed")
      | some net => return (net, entryFees)
  | _, _ => .error (.provider "paper position has invalid entry state")

/-- The closed row. -/
def closedRow (auth : PaperAuthorization) (orderId : String) (reason : PaperExitReason)
    (position : PositionRow) (fill : FillComputation) : Except ServiceError (Dec × PositionRow) := do
  let (net, entryFees) ← closingPl auth position fill
  let totalFees ← throwOverflow (entryFees.add fill.fees)
  let totalSlippage ← throwOverflow (((Dec.fromUnknown position.slippage).getD Dec.zero).add fill.slippageCost)
  let exitPrice ← storeDec fill.price
  let realizedPl ← storeDec net
  let fees ← storeDec totalFees
  let slippage ← storeDec totalSlippage
  return (net, { position with
    status := .closed
    exitPrice := some exitPrice
    exitReason := some reason
    realizedPl := some realizedPl
    fees
    slippage
    closedAt := some auth.createdMs
    closedByOrderId := some orderId })

/-- `UPDATE execution_positions … WHERE id = $1`. -/
def Db.setPosition (db : Db) (row : PositionRow) : Db :=
  { db with positions := db.positions.map fun p => if p.id = row.id then row else p }

/-- `closePositionRow`, under the row lock. -/
def closePositionRow (auth : PaperAuthorization) (orderId : String) (reason : PaperExitReason)
    (fill : FillComputation) (db : Db) : Except ServiceError (CloseResult × Db) :=
  match auth.positionId with
  | none => .error (.provider "exit order has no target position")
  | some positionId =>
    match db.position? positionId with
    | none => .error (.provider "paper position to close was not found")
    | some position =>
      if position.status ≠ .«open» then .ok (⟨positionId, none⟩, db)
      else if position.symbol ≠ auth.symbol then
        .error (.provider "exit authorization does not match the position")
      else do
        let (net, row) ← closedRow auth orderId reason position fill
        return (⟨positionId, some net⟩, db.setPosition row)

/-! ## The ledger and the fill -/

/-- `recordRealizedPlInTransaction` on the account of the authorization's profile. -/
def Db.recordRealizedPl (env : PaperEnv) (auth : PaperAuthorization) (dbNow : ℤ) (net : Dec) (db : Db) :
    Except ServiceError Db :=
  match recordRealizedPlInTransaction (db.accounts auth.userId auth.executionProfileId)
      (env.paperEquity auth.userId) (.fin net.toRat) auth.createdMs dbNow with
  | .error e => .error (.account e)
  | .ok row => .ok { db with accounts := fun u p =>
      if u = auth.userId ∧ p = auth.executionProfileId then some row else db.accounts u p }

/-- The fill row of an authorization. -/
def newFillRow (env : PaperEnv) (auth : PaperAuthorization) (fresh : Fresh) (positionId : String)
    (fill : FillComputation) : Except ServiceError FillRow := do
  let quantity ← storeAmount auth.quantity
  let price ← storeDec fill.price
  let fees ← storeDec fill.fees
  let slippage ← storeDec fill.slippageCost
  return {
    id := fresh.fillId
    userId := auth.userId
    executionProfileId := auth.executionProfileId
    orderId := fresh.orderId
    positionId := some positionId
    sequence := 1
    fillType := auth.kind
    quantity
    price
    fees
    slippage
    idempotencyKey := env.sha256 ("paper:fill:" ++ auth.idempotencyKey) }

/-- The insert: `ON CONFLICT (idempotency_key) DO NOTHING`. -/
def insertFill (env : PaperEnv) (auth : PaperAuthorization) (fresh : Fresh) (positionId : String)
    (fill : FillComputation) (db : Db) : Except ServiceError Db := do
  let row ← newFillRow env auth fresh positionId fill
  if ∃ f ∈ db.fills, f.idempotencyKey = row.idempotencyKey then return db
  else
    constraint (∀ f ∈ db.fills, f.id ≠ row.id) "execution_fills_pkey"
    return { db with fills := db.fills ++ [row] }

def reconcileInTransaction (env : PaperEnv) (orderId positionId : String) (db : Db) :
    List PaperReconciliationFinding :=
  match db.orders.find? fun o => o.id = orderId with
  | none => [.order_filled_but_no_fill_row]
  | some order =>
    let orderFindings := reconcileOrderState order (db.fills.filter fun f => f.orderId = orderId)
    match db.position? positionId with
    | none => dedupe (orderFindings ++ [.position_missing])
    | some position =>
      let openingOrder := position.openedByOrderId.bind fun id => db.orders.find? fun o => o.id = id
      let closingOrder := if some order.id ≠ position.openedByOrderId then some order else none
      dedupe (orderFindings ++ reconcilePositionState position openingOrder closingOrder
        (db.fills.filter fun f => f.positionId = some positionId)
        (env.instrumentSpec position.assetClass position.symbol))

/-- What the position step of a fill leaves behind. -/
structure PositionStep where
  positionId : String
  applied : Bool
  db : Db

/-- The position part of `fillOrder`, with the ledger posting of an applied close. -/
def applyPosition (env : PaperEnv) (auth : PaperAuthorization) (fresh : Fresh) (fill : FillComputation)
    (db : Db) : Except ServiceError PositionStep :=
  match auth.kind.exitReason with
  | none => do
    let (positionId, db) ← openPositionRow auth fresh fill db
    return ⟨positionId, true, db⟩
  | some reason => do
    let (closed, db) ← closePositionRow auth fresh.orderId reason fill db
    match closed.realizedPl with
    | none => return ⟨closed.positionId, false, db⟩
    | some net => do
      let db ← db.recordRealizedPl env auth fresh.dbNow net
      return ⟨closed.positionId, true, db⟩

/-- `UPDATE execution_orders SET status = 'filled', …`. -/
def filledOrder (order : OrderRow) (fill : FillComputation) : Except ServiceError OrderRow := do
  let price ← storeDec fill.price
  let fees ← storeDec fill.fees
  let slippage ← storeDec fill.slippageCost
  return { order with
    status := .filled
    filledQuantity := order.quantity
    averageFillPrice := some price
    fees
    slippage }

/-- The fill is appended only when the position step was applied. -/
def recordFill (env : PaperEnv) (auth : PaperAuthorization) (fresh : Fresh) (fill : FillComputation)
    (step : PositionStep) : Except ServiceError Db :=
  if step.applied then insertFill env auth fresh step.positionId fill step.db else .ok step.db

/-- `fillOrder`, on the order just inserted. -/
def fillOrder (env : PaperEnv) (auth : PaperAuthorization) (fresh : Fresh) (order : OrderRow) (db : Db) :
    Except ServiceError (SubmitOutcome × Db) := do
  let fill ← computeFill env auth
  let filled ← filledOrder order fill
  let step ← applyPosition env auth fresh fill { db with orders := db.orders ++ [filled] }
  let after ← recordFill env auth fresh fill step
  match reconcileInTransaction env order.id step.positionId after with
  | [] => return (⟨order.id, auth.quantity, some fill.price.toRat, false⟩, after)
  | findings => .error (.integrity findings)

/-! ## The transaction -/

def failureReason (mode : PaperFailureMode) : String :=
  if mode.orderRejection then "simulated order rejection (deterministic failure mode)"
  else "simulated fill failure (deterministic failure mode)"

/-- `runFillTransaction`.  An error leaves the tables as they were, except that the failure mode
    commits the order as `failed`. -/
def runFillTransaction (env : PaperEnv) (mode : PaperFailureMode) (auth : PaperAuthorization)
    (fresh : Fresh) (db : Db) : Except ServiceError SubmitOutcome × Db :=
  match db.order? auth.clientOrderId with
  | some existing =>
    (.ok ⟨existing.id, .fin existing.filledQuantity.toRat, existing.averageFillPrice.map Numeric.toRat, true⟩, db)
  | none =>
    match insertOrder auth fresh.orderId db with
    | .error e => (.error e, db)
    | .ok order =>
      if mode.orderRejection || mode.fillFailure then
        (.error (.provider (failureReason mode)),
          { db with orders := db.orders ++
            [{ order with status := .failed, rejectReason := some (failureReason mode) }] })
      else
        match fillOrder env auth fresh order db with
        | .error e => (.error e, db)
        | .ok (outcome, after) => (.ok outcome, after)

end VeltrixEye
