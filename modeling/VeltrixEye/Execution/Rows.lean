import VeltrixEye.Risk.Engine
import VeltrixEye.Execution.PaperMarket

/-!
# Execution rows (`0016_execution_architecture.sql`, `0018_paper_execution.sql`)

The columns of `execution_orders`, `execution_fills` and `execution_positions` that the paper
service reads or writes, and what its transactions throw.
-/

namespace VeltrixEye

/-- `ExecutionDecisionInput`: the server-built decision a simulation runs on.  Its schema admits
    finite prices only. -/
structure ExecutionDecision where
  strategyId : String
  setupId : String
  action : RiskAction
  assetClass : String
  symbol : String
  timeframe : Timeframe
  direction : Direction
  entryPrice : ℚ
  stopLossPrice : ℚ
  takeProfitPrice : ℚ
  qualityScore : ℤ
  minQualityScore : ℤ
  asOfMs : ℤ
  deriving DecidableEq

inductive OrderSide where
  | buy
  | sell
  deriving DecidableEq

inductive OrderStatus where
  | requested
  | validating
  | submitted
  | accepted
  | partially_filled
  | filled
  | rejected
  | cancelled
  | expired
  | failed
  deriving DecidableEq

/-- `execution_orders`; every row the simulator writes is a simulated market order. -/
structure OrderRow where
  id : String
  userId : String
  executionProfileId : String
  clientOrderId : String
  idempotencyKey : String
  setupId : Option String
  symbol : String
  side : OrderSide
  quantity : Numeric 24 10
  filledQuantity : Numeric 24 10
  averageFillPrice : Option (Numeric 24 10)
  fees : Numeric 24 10
  slippage : Numeric 24 10
  status : OrderStatus
  rejectReason : Option String
  decision : ExecutionDecision
  deriving DecidableEq

/-- `execution_fills`. -/
structure FillRow where
  id : String
  userId : String
  executionProfileId : String
  orderId : String
  positionId : Option String
  sequence : ℤ
  fillType : PaperFillType
  quantity : Numeric 24 10
  price : Numeric 24 10
  fees : Numeric 24 10
  slippage : Numeric 24 10
  idempotencyKey : String

inductive PositionStatus where
  | «open»
  | closed
  deriving DecidableEq

/-- `execution_positions`. -/
structure PositionRow where
  id : String
  userId : String
  executionProfileId : String
  providerPositionId : Option String
  assetClass : String
  symbol : String
  direction : Direction
  quantity : Numeric 24 10
  averageEntryPrice : Numeric 24 10
  stopLossPrice : Option (Numeric 24 10)
  takeProfitPrice : Option (Numeric 24 10)
  realizedPl : Option (Numeric 24 10)
  status : PositionStatus
  openedAt : ℤ
  closedAt : Option ℤ
  setupId : Option String
  openedByOrderId : Option String
  closedByOrderId : Option String
  exitPrice : Option (Numeric 24 10)
  exitReason : Option PaperExitReason
  fees : Numeric 24 10
  slippage : Numeric 24 10
  simulated : Bool
  deriving DecidableEq

/-- `LoadedPosition`: a position joined with its opening order, its instrument and the timeframe
    it is watched on. -/
structure LoadedPosition extends PositionRow where
  instrumentId : Option String
  openingDecision : Option ExecutionDecision
  timeframe : Option Timeframe

/-- `PAPER_RECONCILIATION_FINDINGS`. -/
inductive PaperReconciliationFinding where
  | order_fill_quantity_mismatch
  | order_filled_but_no_fill_row
  | order_fill_exceeds_quantity
  | order_filled_without_price
  | order_terminal_without_reason
  | fill_ledger_sum_mismatch
  | position_missing
  | position_quantity_not_positive
  | position_entry_price_invalid
  | position_open_with_exit_data
  | position_open_without_order
  | position_metadata_missing
  | position_closed_without_exit_price
  | position_closed_without_realized_pl
  | position_direction_conflicts_with_order
  | position_symbol_conflicts_with_order
  | position_realized_pl_mismatch
  | position_duplicate_exit_fills
  | position_order_tenant_mismatch
  deriving DecidableEq

/-- What a paper transaction throws.  `provider` is an `ExecutionProviderError`, which the callers
    turn into a refusal; everything else reaches the caller's caller. -/
inductive ServiceError where
  | provider (message : String)
  | integrity (findings : List PaperReconciliationFinding)
  | account (e : AccountError)
  | decimalOverflow
  | numericFieldOverflow
  | constraintViolation (constraint : String)
  | internal (message : String)
  deriving DecidableEq

/-- A number written to a `numeric(24, 10)` column. -/
def storeAmount (x : JsNumber) : Except ServiceError (Numeric 24 10) :=
  match x with
  | .fin q =>
    match Numeric.ofRat? 24 10 q with
    | some n => .ok n
    | none => .error .numericFieldOverflow
  | _ => .error .numericFieldOverflow

/-- `dec.toFixed(10)` written to a `numeric(24, 10)` column. -/
def storeDec (d : Dec) : Except ServiceError (Numeric 24 10) := storeAmount (.fin d.toRat)

theorem storeAmount_ok {q : ℚ} {n : Numeric 24 10} (h : storeAmount (.fin q) = .ok n) :
    n.units = Rounding.halfAway (q * 10 ^ 10) := by
  simp only [storeAmount] at h
  split at h
  · rename_i m hm
    cases h
    exact Numeric.ofRat?_eq_some.mp hm
  · cases h

theorem storeDec_ok {d : Dec} {n : Numeric 24 10} (h : storeDec d = .ok n) : n.units = d.units := by
  have hscale : d.toRat * 10 ^ 10 = d.units := Dec.toRat_mul_scale d
  rw [storeAmount_ok h, hscale, Rounding.halfAway_intCast]

theorem storeDec_toRat {d : Dec} {n : Numeric 24 10} (h : storeDec d = .ok n) : n.toRat = d.toRat := by
  rw [Numeric.toRat, storeDec_ok h, Dec.toRat, SCALE, DEC_SCALE]
  push_cast
  rfl

/-- Unguarded `Dec` arithmetic in the service. -/
def throwOverflow {α : Type} : Calc α → Except ServiceError α
  | .ok a => .ok a
  | .error _ => .error .decimalOverflow

@[simp] theorem throwOverflow_ok {α : Type} {x : Calc α} {a : α} :
    throwOverflow x = .ok a ↔ x = .ok a := by
  cases x <;> simp [throwOverflow]

end VeltrixEye
