import VeltrixEye.Execution.Rows

/-!
# Simulator-side reconciliation (`execution/reconciliation.ts`)

Pure checks of an order and a position against the fill ledger.  Findings are reported, never
repaired: the caller rolls its transaction back on any of them.
-/

namespace VeltrixEye

open PaperReconciliationFinding

/-- `if (p) findings.push(finding)`. -/
def findingIf (p : Prop) [Decidable p] (finding : PaperReconciliationFinding) :
    List PaperReconciliationFinding :=
  if p then [finding] else []

@[simp] theorem findingIf_eq_nil {p : Prop} [Decidable p] {finding : PaperReconciliationFinding} :
    findingIf p finding = [] ↔ ¬ p := by
  unfold findingIf
  split <;> simp_all

/-- `dedupe`: the first occurrence of each finding, in order. -/
def dedupe (findings : List PaperReconciliationFinding) : List PaperReconciliationFinding :=
  findings.eraseDups

@[simp] theorem dedupe_eq_nil {findings : List PaperReconciliationFinding} :
    dedupe findings = [] ↔ findings = [] := by
  cases findings with
  | nil => simp [dedupe]
  | cons f fs => simp [dedupe, List.eraseDups_cons]

/-! ## Orders -/

def OrderStatus.filledLike (s : OrderStatus) : Bool := s = .filled || s = .partially_filled

/-- The quantities of the fills, summed. -/
def fillSum (fills : List FillRow) : ℚ := (fills.map fun f => f.quantity.toRat).sum

def reconcileOrderState (order : OrderRow) (fills : List FillRow) : List PaperReconciliationFinding :=
  let orderFills := fills.filter fun f => f.orderId = order.id
  let filled := order.filledQuantity.toRat
  let quantity := order.quantity.toRat
  dedupe <|
    findingIf (∃ f ∈ orderFills, f.userId ≠ order.userId ∨ f.executionProfileId ≠ order.executionProfileId)
      position_order_tenant_mismatch ++
    findingIf (1 / 10 ^ 9 < |fillSum orderFills - filled|) fill_ledger_sum_mismatch ++
    findingIf (1 / 10 ^ 9 < fillSum orderFills - quantity) order_fill_exceeds_quantity ++
    findingIf (1 / 10 ^ 9 < filled - quantity) order_fill_quantity_mismatch ++
    findingIf (order.status.filledLike ∧ orderFills = []) order_filled_but_no_fill_row ++
    findingIf (order.status = .filled ∧ order.averageFillPrice = none) order_filled_without_price ++
    findingIf (order.status = .filled ∧ 1 / 10 ^ 9 < |filled - quantity|) order_fill_quantity_mismatch ++
    findingIf ((order.status = .failed ∨ order.status = .rejected) ∧ order.rejectReason.getD "" = "")
      order_terminal_without_reason ++
    findingIf (0 < filled ∧ ¬ order.status.filledLike) order_fill_quantity_mismatch ++
    findingIf (∃ f ∈ orderFills, f.sequence < 1) fill_ledger_sum_mismatch

theorem order_finding_of_no_fills {order : OrderRow} {fills : List FillRow}
    (hstatus : order.status = .filled) (hfills : ∀ f ∈ fills, f.orderId ≠ order.id) :
    reconcileOrderState order fills ≠ [] := by
  have hnone : fills.filter (fun f => decide (f.orderId = order.id)) = [] := by
    rw [List.filter_eq_nil_iff]
    intro f hf
    simpa using hfills f hf
  intro h
  simp [reconcileOrderState, hnone, hstatus, OrderStatus.filledLike] at h

/-! ## Positions -/

/-- `computeExpectedNetPl`: `null` when it cannot be computed. -/
def computeExpectedNetPl (direction : Direction) (quantity entryPrice : ℚ) (exitPrice : Option ℚ)
    (spec : Option InstrumentRiskSpec) (fees : ℚ) : Option ℚ := do
  let spec ← spec
  let exitPrice ← exitPrice
  guard (0 < quantity ∧ 0 < entryPrice ∧ 0 < exitPrice)
  let qty ← Dec.fromNumber (.fin quantity)
  let contract ← Dec.fromNumber spec.contractSize
  let entry ← Dec.fromNumber (.fin entryPrice)
  let exit ← Dec.fromNumber (.fin exitPrice)
  let move ← (match direction with
    | .long => exit.sub entry
    | .short => entry.sub exit).toOption
  let product ← (qty.mul contract).toOption
  let perUnit ← match spec.pnlMode with
    | .quote_linear => some product
    | .base_linear => ((product.div entry).toOption).join
  let gross ← (move.mul perUnit).toOption
  let feeDec ← Dec.fromNumber (.fin fees)
  let net ← (gross.sub feeDec).toOption
  return net.toRat

def reconcilePositionState (position : PositionRow) (openingOrder closingOrder : Option OrderRow)
    (fills : List FillRow) (spec : Option InstrumentRiskSpec) : List PaperReconciliationFinding :=
  let positionFills := fills.filter fun f => f.positionId = some position.id
  let exitFills := positionFills.filter fun f => f.fillType ≠ .entry
  let entryFills := positionFills.filter fun f => f.fillType = .entry
  let fees := (positionFills.map fun f => f.fees.toRat).sum
  let expectedPl := computeExpectedNetPl position.direction position.quantity.toRat
    position.averageEntryPrice.toRat (position.exitPrice.map Numeric.toRat) spec fees
  dedupe <|
    findingIf (¬ 0 < position.quantity.toRat) position_quantity_not_positive ++
    findingIf (¬ 0 < position.averageEntryPrice.toRat) position_entry_price_invalid ++
    findingIf (position.status = .«open» ∧ (position.exitPrice ≠ none ∨ position.exitReason ≠ none))
      position_open_with_exit_data ++
    findingIf (position.status = .«open» ∧ position.closedAt ≠ none) position_open_with_exit_data ++
    findingIf (position.status = .«open» ∧ position.openedByOrderId = none) position_open_without_order ++
    findingIf (position.status = .closed ∧ position.exitPrice = none) position_closed_without_exit_price ++
    findingIf (position.status = .closed ∧ position.realizedPl = none) position_closed_without_realized_pl ++
    findingIf (position.status = .closed ∧ position.exitReason = none) position_closed_without_exit_price ++
    findingIf (1 < exitFills.length) position_duplicate_exit_fills ++
    findingIf (0 < positionFills.length ∧ entryFills.length ≠ 1) position_open_without_order ++
    findingIf (position.openedByOrderId = none ∧ position.status = .«open») position_metadata_missing ++
    (match openingOrder with
     | none => []
     | some order =>
       findingIf (order.userId ≠ position.userId ∨ order.executionProfileId ≠ position.executionProfileId)
         position_order_tenant_mismatch ++
       findingIf (order.symbol ≠ position.symbol) position_symbol_conflicts_with_order ++
       findingIf (position.direction ≠ if order.side = .buy then .long else .short)
         position_direction_conflicts_with_order) ++
    findingIf (∃ order ∈ closingOrder, order.symbol ≠ position.symbol)
      position_symbol_conflicts_with_order ++
    findingIf (position.status = .closed ∧ ∃ pl ∈ expectedPl, ∃ stored ∈ position.realizedPl,
      1 / 10 ^ 6 < |pl - stored.toRat|) position_realized_pl_mismatch

theorem entry_fill_of_reconciled {position : PositionRow} {openingOrder closingOrder : Option OrderRow}
    {fills : List FillRow} {spec : Option InstrumentRiskSpec} {f : FillRow} (hf : f ∈ fills)
    (hpos : f.positionId = some position.id)
    (h : reconcilePositionState position openingOrder closingOrder fills spec = []) :
    (fills.filter fun g => g.positionId = some position.id ∧ g.fillType = .entry).length = 1 := by
  unfold reconcilePositionState at h
  simp only [dedupe_eq_nil, List.append_eq_nil_iff, findingIf_eq_nil, List.filter_filter] at h
  have hcount := h.1.1.1.1.2
  rw [not_and_or, not_not, not_lt, Nat.le_zero, List.length_eq_zero_iff] at hcount
  rcases hcount with hnone | hone
  · rw [List.filter_eq_nil_iff] at hnone
    exact absurd (decide_eq_true hpos) (hnone f hf)
  · rw [← hone]
    congr 1
    refine List.filter_congr fun g _ => ?_
    simp [and_comm]

end VeltrixEye
