import VeltrixEye.Execution.Rows

/-!
# Comparing the rows with a provider snapshot (`execution/reconciliation-service.ts`)

The pure part of a reconciliation run: matching the internal orders and positions with the ones of a
provider snapshot by their stable identifiers, and the findings about what does not agree.

* `compareStates` — the findings and the matched pairs.
* `needsAttention_eq_true` — every finding needs attention.
-/

namespace VeltrixEye.Reconciliation

/-! ## Findings -/

/-- `RECONCILIATION_MISMATCH_CODES`. -/
inductive MismatchCode where
  | internal_order_missing_at_provider
  | provider_order_missing_internally
  | internal_position_missing_at_provider
  | provider_position_missing_internally
  | status_mismatch
  | partial_fill_quantity_mismatch
  | filled_quantity_mismatch
  | direction_mismatch
  | symbol_mismatch
  | entry_price_mismatch
  | stop_loss_mismatch
  | take_profit_mismatch
  | unexpected_provider_state
  | stale_state
  | uncertain_outcome
  | provider_unavailable
  | ambiguous_match
  | tenant_mismatch
  deriving DecidableEq

inductive Severity where
  | info
  | warning
  | error
  | critical
  deriving DecidableEq

inductive FindingScope where
  | order
  | position
  | provider
  | snapshot
  | run

/-- `Mismatch`, less the compared values it carries for display. -/
structure Mismatch where
  code : MismatchCode
  severity : Severity
  scope : FindingScope
  internalOrderId : Option String
  internalPositionId : Option String
  providerOrderId : Option String
  providerPositionId : Option String
  expectedField : Option String

def needsAttention : MismatchCode → Bool
  | .provider_unavailable => true
  | .internal_order_missing_at_provider => true
  | .internal_position_missing_at_provider => true
  | .provider_order_missing_internally => true
  | .provider_position_missing_internally => true
  | .status_mismatch => true
  | .partial_fill_quantity_mismatch => true
  | .filled_quantity_mismatch => true
  | .direction_mismatch => true
  | .symbol_mismatch => true
  | .entry_price_mismatch => true
  | .stop_loss_mismatch => true
  | .take_profit_mismatch => true
  | .unexpected_provider_state => true
  | .stale_state => true
  | .uncertain_outcome => true
  | .ambiguous_match => true
  | .tenant_mismatch => true

@[simp] theorem needsAttention_eq_true (code : MismatchCode) : needsAttention code = true := by
  cases code <;> rfl

/-! ## The two sides -/

/-- `LoadedOrder`: what the comparison reads of an order row. -/
structure LoadedOrder where
  id : String
  clientOrderId : String
  providerOrderId : Option String
  symbol : String
  side : OrderSide
  quantity : Numeric 24 10
  filledQuantity : Numeric 24 10
  averageFillPrice : Option (Numeric 24 10)
  stopLossPrice : Option (Numeric 24 10)
  takeProfitPrice : Option (Numeric 24 10)
  status : OrderStatus
  idempotencyKey : String
  deriving DecidableEq

/-- `LoadedPosition`: what the comparison reads of a position row. -/
structure LoadedPosition where
  id : String
  providerPositionId : Option String
  symbol : String
  direction : Direction
  quantity : Numeric 24 10
  averageEntryPrice : Numeric 24 10
  stopLossPrice : Option (Numeric 24 10)
  takeProfitPrice : Option (Numeric 24 10)
  status : PositionStatus
  deriving DecidableEq

/-- `RECONCILIATION_SNAPSHOT_ORDER_STATUSES`. -/
inductive SnapshotStatus where
  | known (status : OrderStatus)
  | uncertain
  deriving DecidableEq

def SnapshotStatus.known? : SnapshotStatus → Option OrderStatus
  | .known status => some status
  | .uncertain => none

/-- `ReconciliationProviderOrder`.  The outer `Option` of a level is `undefined`, the inner one
    `null`. -/
structure ProviderOrder where
  providerOrderId : String
  clientOrderId : Option String
  idempotencyKey : Option String
  symbol : Option String
  side : Option OrderSide
  filledQuantity : Option ℚ
  averagePrice : Option ℚ
  stopLossPrice : Option (Option ℚ)
  takeProfitPrice : Option (Option ℚ)
  status : Option SnapshotStatus
  statusUncertain : Bool

/-- `ReconciliationProviderPosition`. -/
structure ProviderPosition where
  providerPositionId : String
  symbol : Option String
  direction : Option Direction
  quantity : Option ℚ
  averageEntryPrice : Option ℚ
  stopLossPrice : Option (Option ℚ)
  takeProfitPrice : Option (Option ℚ)

/-- `ReconciliationProviderSnapshot`. -/
structure ProviderSnapshot where
  orders : List ProviderOrder
  positions : List ProviderPosition
  providerUnavailable : Bool

/-- `new Map(rows.map((row) => [key(row), row]))`: a repeated key keeps its place and takes the later
    row. -/
def mapByKey {α : Type} (key : α → String) (rows : List α) : List α :=
  rows.foldl (fun acc row =>
    if acc.any fun other => key other = key row then
      acc.map fun other => if key other = key row then row else other
    else acc ++ [row]) []

/-- A text is truthy when it is not empty. -/
def truthyText (text : Option String) : Option String := text.filter fun t => t ≠ ""

def NUM_TOLERANCE : ℚ := 1 / 10 ^ 6

/-! ## Field comparisons -/

def providerStateIsUncertain (order : ProviderOrder) : Bool :=
  order.statusUncertain || order.status = some .uncertain

def terminalStatus : OrderStatus → Bool
  | .filled => true
  | .rejected => true
  | .cancelled => true
  | .expired => true
  | .failed => true
  | _ => false

def hardStatusDrift (internal provider : OrderStatus) : Bool :=
  (internal = .filled && provider ≠ .filled && provider ≠ .partially_filled) ||
  (internal = .rejected && provider ≠ .rejected) ||
  (provider = .rejected && internal ≠ .rejected && internal ≠ .failed) ||
  (terminalStatus internal && terminalStatus provider && internal ≠ provider)

/-- A finding about a matched order. -/
def orderFinding (internal : LoadedOrder) (provider : ProviderOrder) (code : MismatchCode)
    (field : String) (severity : Severity) : Mismatch :=
  ⟨code, severity, .order, some internal.id, none, some provider.providerOrderId, none, some field⟩

/-- A finding about a matched position. -/
def positionFinding (internal : LoadedPosition) (provider : ProviderPosition) (code : MismatchCode)
    (field : String) (severity : Severity) : Mismatch :=
  ⟨code, severity, .position, none, some internal.id, none, some provider.providerPositionId, some field⟩

/-- `provider.level !== undefined && internal.level !== null && …`: a level the provider does not
    have, or has elsewhere. -/
def levelDiffers (internal : Option (Numeric 24 10)) (provider : Option (Option ℚ)) : Prop :=
  ∃ level ∈ internal, ∃ observed ∈ provider, ∀ value ∈ observed, NUM_TOLERANCE < |value - level.toRat|

instance (internal : Option (Numeric 24 10)) (provider : Option (Option ℚ)) :
    Decidable (levelDiffers internal provider) :=
  inferInstanceAs (Decidable (∃ level ∈ internal, ∃ observed ∈ provider,
    ∀ value ∈ observed, NUM_TOLERANCE < |value - level.toRat|))

/-- `exp > 0 && Math.abs(price - exp) / exp > 1e-4`. -/
def priceDiffers (expected observed : ℚ) : Prop :=
  0 < expected ∧ 1 / 10 ^ 4 < |observed - expected| / expected

instance (expected observed : ℚ) : Decidable (priceDiffers expected observed) :=
  inferInstanceAs (Decidable (_ ∧ _))

/-- The code of a filled-quantity difference. -/
def filledQuantityCode (internal : LoadedOrder) (observed : ℚ) : MismatchCode :=
  if (internal.status = .filled ∧ NUM_TOLERANCE < |observed - internal.quantity.toRat|) ∨
      (|internal.filledQuantity.toRat - internal.quantity.toRat| < NUM_TOLERANCE ∧
        observed < internal.quantity.toRat - NUM_TOLERANCE) then
    .filled_quantity_mismatch
  else .partial_fill_quantity_mismatch

/-- `if (p) add(finding)`. -/
def addIf (p : Prop) [Decidable p] (finding : Mismatch) : List Mismatch := if p then [finding] else []

@[simp] theorem addIf_eq_nil {p : Prop} [Decidable p] {finding : Mismatch} :
    addIf p finding = [] ↔ ¬ p := by
  unfold addIf
  split <;> simp_all

def compareOrderFields (internal : LoadedOrder) (provider : ProviderOrder) : List Mismatch :=
  let add := orderFinding internal provider
  if providerStateIsUncertain provider then [add .uncertain_outcome "provider_order_status" .critical]
  else
    addIf (∃ status ∈ provider.status.bind SnapshotStatus.known?, status ≠ internal.status ∧
      hardStatusDrift internal.status status) (add .status_mismatch "status" .warning) ++
    (match provider.filledQuantity with
     | none => []
     | some observed =>
       addIf (NUM_TOLERANCE < |observed - internal.filledQuantity.toRat|)
         (add (filledQuantityCode internal observed) "filledQuantity" .error)) ++
    addIf (∃ side ∈ provider.side, side ≠ internal.side) (add .direction_mismatch "side" .error) ++
    addIf (∃ symbol ∈ truthyText provider.symbol, symbol ≠ internal.symbol)
      (add .symbol_mismatch "symbol" .error) ++
    addIf (∃ price ∈ provider.averagePrice, ∃ filled ∈ internal.averageFillPrice,
      priceDiffers filled.toRat price) (add .entry_price_mismatch "averagePrice" .warning) ++
    addIf (levelDiffers internal.stopLossPrice provider.stopLossPrice)
      (add .stop_loss_mismatch "stopLossPrice" .error) ++
    addIf (levelDiffers internal.takeProfitPrice provider.takeProfitPrice)
      (add .take_profit_mismatch "takeProfitPrice" .error)

def comparePositionFields (internal : LoadedPosition) (provider : ProviderPosition) : List Mismatch :=
  let add := positionFinding internal provider
  addIf (∃ direction ∈ provider.direction, direction ≠ internal.direction)
    (add .direction_mismatch "direction" .error) ++
  addIf (∃ symbol ∈ truthyText provider.symbol, symbol ≠ internal.symbol)
    (add .symbol_mismatch "symbol" .error) ++
  addIf (∃ quantity ∈ provider.quantity, NUM_TOLERANCE < |quantity - internal.quantity.toRat|)
    (add .filled_quantity_mismatch "quantity" .error) ++
  addIf (∃ price ∈ provider.averageEntryPrice, priceDiffers internal.averageEntryPrice.toRat price)
    (add .entry_price_mismatch "averageEntryPrice" .warning) ++
  addIf (levelDiffers internal.stopLossPrice provider.stopLossPrice)
    (add .stop_loss_mismatch "stopLossPrice" .error) ++
  addIf (levelDiffers internal.takeProfitPrice provider.takeProfitPrice)
    (add .take_profit_mismatch "takeProfitPrice" .error)

/-! ## Orders -/

def awaitIsUncertain (order : LoadedOrder) : Bool :=
  (order.status = .requested || order.status = .validating || order.status = .submitted) &&
    (truthyText order.providerOrderId).isNone

def isTerminalWithoutOutcome (order : LoadedOrder) : Bool :=
  (order.status = .failed || order.status = .rejected || order.status = .cancelled ||
    order.status = .expired) && (truthyText order.providerOrderId).isNone

def requiresProviderPresence (status : OrderStatus) : Bool :=
  status = .submitted || status = .accepted || status = .partially_filled || status = .filled

/-- `clientMatches || idempMatches`. -/
def sameIdentity (internal : LoadedOrder) (provider : ProviderOrder) : Bool :=
  truthyText provider.clientOrderId = some internal.clientOrderId ||
    truthyText provider.idempotencyKey = some internal.idempotencyKey

/-- The provider order an internal order is matched with, and the finding of an ambiguous match. -/
def matchOrder (internal : LoadedOrder) (unmatched : List ProviderOrder) :
    Option ProviderOrder × List Mismatch :=
  match (truthyText internal.providerOrderId).bind fun id =>
      unmatched.find? fun o => o.providerOrderId = id with
  | some provider => (some provider, [])
  | none =>
    match unmatched.filter fun o => sameIdentity internal o with
    | [] => (none, [])
    | [provider] => (some provider, [])
    | _ => (none, [⟨.ambiguous_match, .error, .order, some internal.id, none, none, none,
        some "provider_order_id"⟩])

/-- The finding about an internal order the provider does not show. -/
def missingOrder (internal : LoadedOrder) : List Mismatch :=
  if awaitIsUncertain internal then
    [⟨.uncertain_outcome, .critical, .order, some internal.id, none, internal.providerOrderId, none,
      some "provider_order"⟩]
  else
    addIf (isTerminalWithoutOutcome internal = false ∧ requiresProviderPresence internal.status)
      ⟨.internal_order_missing_at_provider, .error, .order, some internal.id, none,
        internal.providerOrderId, none, some "provider_order"⟩

/-- What matching leaves: the rows not matched yet, the findings and the pairs. -/
structure Matching (α : Type) where
  unmatched : List α
  findings : List Mismatch
  pairs : List (String × String)

def matchOrderStep (m : Matching ProviderOrder) (internal : LoadedOrder) : Matching ProviderOrder :=
  match matchOrder internal m.unmatched with
  | (some provider, found) =>
    ⟨m.unmatched.filter fun o => o.providerOrderId ≠ provider.providerOrderId,
      m.findings ++ found ++ compareOrderFields internal provider,
      m.pairs ++ [(internal.id, provider.providerOrderId)]⟩
  | (none, found) => ⟨m.unmatched, m.findings ++ found ++ missingOrder internal, m.pairs⟩

/-- The finding about a provider order no internal one was matched with. -/
def unexplainedOrder (provider : ProviderOrder) : Mismatch :=
  if providerStateIsUncertain provider then
    ⟨.uncertain_outcome, .critical, .order, none, none, some provider.providerOrderId, none,
      some "internal_order"⟩
  else
    ⟨.provider_order_missing_internally, .warning, .order, none, none, some provider.providerOrderId,
      none, some "internal_order"⟩

def matchOrders (internal : List LoadedOrder) (provider : List ProviderOrder) :
    Matching ProviderOrder :=
  internal.foldl matchOrderStep ⟨mapByKey (·.providerOrderId) provider, [], []⟩

/-! ## Positions -/

/-- The provider positions an open one without an identifier may be. -/
def positionCandidate (internal : LoadedPosition) (provider : ProviderPosition) : Bool :=
  (truthyText provider.symbol).all (fun symbol => symbol = internal.symbol) &&
  provider.direction.all (fun direction => direction = internal.direction) &&
  provider.quantity.all (fun quantity => ¬ NUM_TOLERANCE < |quantity - internal.quantity.toRat|)

def matchPosition (internal : LoadedPosition) (unmatched : List ProviderPosition) :
    Option ProviderPosition × List Mismatch :=
  match (truthyText internal.providerPositionId).bind fun id =>
      unmatched.find? fun p => p.providerPositionId = id with
  | some provider => (some provider, [])
  | none =>
    match unmatched.filter fun p => positionCandidate internal p with
    | [] => (none, [])
    | [provider] => (some provider, [])
    | _ => (none, [⟨.ambiguous_match, .error, .position, none, some internal.id, none, none,
        some "provider_position_id"⟩])

/-- The pair of a matched position, its findings, and the rows left. -/
def takePosition (m : Matching ProviderPosition) (internal : LoadedPosition) (provider : ProviderPosition)
    (found : List Mismatch) : Matching ProviderPosition :=
  ⟨m.unmatched.filter fun p => p.providerPositionId ≠ provider.providerPositionId, m.findings ++ found,
    m.pairs ++ [(internal.id, provider.providerPositionId)]⟩

def matchPositionStep (m : Matching ProviderPosition) (internal : LoadedPosition) :
    Matching ProviderPosition :=
  match internal.status with
  | .closed =>
    match (truthyText internal.providerPositionId).bind fun id =>
        m.unmatched.find? fun p => p.providerPositionId = id with
    | some stillOpen => takePosition m internal stillOpen
        [⟨.unexpected_provider_state, .error, .position, none, some internal.id, none,
          internal.providerPositionId, some "position_status"⟩]
    | none => m
  | .«open» =>
    match matchPosition internal m.unmatched with
    | (some provider, found) => takePosition m internal provider (found ++ comparePositionFields internal provider)
    | (none, found) =>
      ⟨m.unmatched, m.findings ++ found ++
        [⟨.internal_position_missing_at_provider, .error, .position, none, some internal.id, none,
          internal.providerPositionId, some "provider_position"⟩], m.pairs⟩

def matchPositions (internal : List LoadedPosition) (provider : List ProviderPosition) :
    Matching ProviderPosition :=
  internal.foldl matchPositionStep ⟨mapByKey (·.providerPositionId) provider, [], []⟩

/-! ## The comparison -/

structure Compared where
  findings : List Mismatch
  matchedOrderPairs : List (String × String)
  matchedPositionPairs : List (String × String)

def compareStates (orders : List LoadedOrder) (positions : List LoadedPosition)
    (snapshot : ProviderSnapshot) : Compared :=
  let matchedOrders := matchOrders orders snapshot.orders
  let matchedPositions := matchPositions positions snapshot.positions
  ⟨matchedOrders.findings ++ matchedOrders.unmatched.map unexplainedOrder ++
      matchedPositions.findings ++ matchedPositions.unmatched.map fun p =>
        ⟨.provider_position_missing_internally, .warning, .position, none, none, none,
          some p.providerPositionId, some "internal_position"⟩,
    matchedOrders.pairs, matchedPositions.pairs⟩

end VeltrixEye.Reconciliation
