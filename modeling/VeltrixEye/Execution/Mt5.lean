import VeltrixEye.Execution.BridgeProtocol
import VeltrixEye.Mutations.Ledger

/-!
# Order submission to an MT5 terminal (`execution/mt5.ts`, `execution/protocol.ts`)

`submitOrder` of the provider, up to the point where it hands an order to the transport.  What the
transport answers, what the authorizations decide and what the clock shows are inputs of a call.

* `requireAvailable`, `instrumentContract` — the environment, the health record and the symbol row.

What becomes of the terminal's answer to the order is not modelled.
-/

namespace VeltrixEye.Bridge

/-! ## Orders -/

structure ExecutionSubmitOrderRequest where
  clientOrderId : String
  idempotencyKey : String
  authorizationId : Option String
  assetClass : String
  symbol : String
  side : OrderSide
  orderType : OrderType
  quantity : JsNumber
  requestedPrice : Option JsNumber
  stopLossPrice : Option JsNumber
  takeProfitPrice : Option JsNumber

/-- What the transport is asked to submit. -/
structure MT5OrderRequest where
  clientOrderId : String
  symbol : String
  side : OrderSide
  orderType : OrderType
  volume : JsNumber
  price : Option JsNumber
  stopLoss : JsNumber
  takeProfit : JsNumber
  deriving DecidableEq

def sideText : OrderSide → String
  | .buy => "buy"
  | .sell => "sell"

def orderTypeText : OrderType → String
  | .market => "market"
  | .limit => "limit"
  | .stop => "stop"
  | .stop_limit => "stop_limit"

def nullable (n : Option JsNumber) : JsValue :=
  match n with
  | some n => .number n
  | none => .null

/-- The request as an object. -/
def ExecutionSubmitOrderRequest.toValue (request : ExecutionSubmitOrderRequest) : JsValue :=
  .object
    ([("clientOrderId", .string request.clientOrderId),
      ("idempotencyKey", .string request.idempotencyKey)] ++
      request.authorizationId.toList.map (fun id => ("authorizationId", JsValue.string id)) ++
      [("assetClass", .string request.assetClass), ("symbol", .string request.symbol),
        ("side", .string (sideText request.side)),
        ("orderType", .string (orderTypeText request.orderType)),
        ("quantity", .number request.quantity), ("requestedPrice", nullable request.requestedPrice),
        ("stopLossPrice", nullable request.stopLossPrice),
        ("takeProfitPrice", nullable request.takeProfitPrice)])

/-! ## Configuration and inputs -/

inductive MT5Environment where
  | demo
  | live
  deriving DecidableEq

/-- What `submitOrder` reads of `MT5ProviderConfig`. -/
structure MT5ProviderConfig where
  enabled : Bool
  environment : MT5Environment
  symbols : List (String × String)
  maxQuoteAgeMs : Option JsNumber
  clockSkewMs : Option JsNumber

inductive ExecutionFailureCategory where
  | authentication
  | validation
  | unavailable
  | invalid_symbol
  | invalid_volume
  | invalid_price
  | invalid_protection
  | uncertain
  deriving DecidableEq

/-- Why no order is sent. -/
inductive SubmitRefusal where
  | provider (category : ExecutionFailureCategory)
  /-- A transport call failed; `normalizeMT5Error` names the category. -/
  | transport
  deriving DecidableEq

/-- A barrier that the Gate 9 predicate returned. -/
structure PresentedBarrier where
  providerCallPermitted : JsValue
  clientOrderId : String
  idempotencyKey : String
  requestHash : String

/-- A barrier that has authorized a submission. -/
structure Presentation where
  clientOrderId : String
  idempotencyKey : String
  requestHash : String
  deriving DecidableEq

/-- What the authorization service does with the authorization of a request. -/
inductive AuthorizationAnswer where
  | consumed
  | refused (category : ExecutionFailureCategory)

/-- The inputs of one call.  `none` is an option that is not wired, a predicate that throws or returns
    nothing, or a transport call that fails. -/
structure SubmitInputs where
  gate9 : Option (Option PresentedBarrier)
  /-- What earlier calls have presented. -/
  presentedBarriers : List Presentation
  authorization : Option AuthorizationAnswer
  health : Option JsValue
  symbolRow : Option JsValue
  priorOrder : Option JsValue
  nowMs : JsNumber

/-! ## The checks -/

def refuse (category : ExecutionFailureCategory) : SubmitRefusal := .provider category

/-- The Gate 9 barrier of the request; the result is what has been presented then. -/
def presentBarrier (env : MutationEnv) (inputs : SubmitInputs) (request : ExecutionSubmitOrderRequest) :
    Except SubmitRefusal (List Presentation) :=
  match inputs.gate9 with
  | none => .ok inputs.presentedBarriers
  | some answer => do
    let barrier ← require (refuse .unavailable) answer
    ensure (refuse .unavailable) (isExplicitTrue barrier.providerCallPermitted)
    ensure (refuse .unavailable)
      (request.clientOrderId ≠ "" && request.idempotencyKey ≠ "" &&
        barrier.clientOrderId = request.clientOrderId &&
        barrier.idempotencyKey = request.idempotencyKey)
    let requestHash ← require (refuse .unavailable)
      (canonicalMutationRequestHash env
        (.object [("clientOrderId", .string request.clientOrderId),
          ("idempotencyKey", .string request.idempotencyKey),
          ("canonicalRequest", request.toValue)]))
    ensure (refuse .unavailable) (barrier.requestHash = requestHash)
    let key : Presentation := ⟨request.clientOrderId, request.idempotencyKey, requestHash⟩
    ensure (refuse .unavailable) (key ∉ inputs.presentedBarriers)
    return inputs.presentedBarriers ++ [key]

/-- The identity and the authorization of the request. -/
def authorize (inputs : SubmitInputs) (request : ExecutionSubmitOrderRequest) :
    Except SubmitRefusal Unit := do
  ensure (refuse .validation) (validateBridgeClientOrderId request.clientOrderId = "ok")
  ensure (refuse .validation) (request.authorizationId.any (· ≠ ""))
  match inputs.authorization with
  | some (.refused category) => throw (refuse category)
  | _ => return ()

def readinessCategory : TransportReadinessCode → ExecutionFailureCategory
  | .not .authenticated => .authentication
  | _ => .unavailable

def requireAvailable (config : MT5ProviderConfig) (inputs : SubmitInputs) :
    Except SubmitRefusal Unit := do
  ensure (refuse .validation) (config.environment ≠ .live)
  ensure (refuse .unavailable) config.enabled
  let health ← require .transport inputs.health
  let code := resolveBridgeReadiness health transportHealth
  ensure (refuse (readinessCategory code)) (code = .ready)

/-- `value !== undefined`. -/
def isDefined : JsValue → Bool
  | .undefined => false
  | _ => true

/-- `instrumentContract`: the row's own symbol and asset class are also what is expected of it. -/
def instrumentContract (canonical : String) (row : JsValue) :
    Except InstrumentContractCode BridgeInstrumentContract :=
  let quoted := isDefined (member row "bid") && isDefined (member row "ask") &&
    isDefined (member row "quoteTimestampMs")
  validateInstrumentContract
    { assetClass := member row "assetClass"
      canonicalSymbol := canonical
      providerSymbol := member row "symbol"
      contractSize := member row "contractSize"
      tickSize := member row "tickSize"
      priceDigits := member row "digits"
      minVolume := member row "volumeMin"
      maxVolume := member row "volumeMax"
      volumeStep := member row "volumeStep"
      orderTypes := member row "orderTypes"
      tradingStatus := member row "tradeMode"
      quote := if quoted then
          some ⟨member row "symbol", member row "bid", member row "ask", member row "quoteTimestampMs"⟩
        else none }
    { canonicalSymbol := canonical
      providerSymbol := member row "symbol"
      assetClass := member row "assetClass" }

/-- `validateBridgeInstrument`'s category of a failure. -/
def contractCategory : InstrumentContractCode → ExecutionFailureCategory
  | .symbol_mismatch => .invalid_symbol
  | .volume_step_invalid => .invalid_volume
  | _ => .validation

def validatedContract (canonical : String) (row : JsValue) :
    Except SubmitRefusal BridgeInstrumentContract :=
  (instrumentContract canonical row).mapError fun code => refuse (contractCategory code)

/-- `null` and the other falsy answers. -/
def isAbsent : JsValue → Bool
  | .undefined => true
  | .null => true
  | .bool b => !b
  | .number n => !n.truthy
  | .string s => s = ""
  | _ => false

/-- The broker symbol of a canonical one; an empty mapping counts as none. -/
def MT5ProviderConfig.brokerSymbol? (config : MT5ProviderConfig) (canonical : String) :
    Option String :=
  (config.symbols.lookup canonical).filter (· ≠ "")

/-- The symbol row, of the asset class of the request. -/
def symbolRow (inputs : SubmitInputs) (request : ExecutionSubmitOrderRequest) :
    Except SubmitRefusal JsValue := do
  let row ← require .transport inputs.symbolRow
  ensure (refuse .invalid_symbol)
    (!isAbsent row && (member row "assetClass").text? = some request.assetClass)
  return row

/-- `!(stopLoss && takeProfit)` refuses: the two prices, when neither is null, zero or `NaN`. -/
def protection (request : ExecutionSubmitOrderRequest) : Except SubmitRefusal (JsNumber × JsNumber) := do
  let stopLoss ← require (refuse .invalid_protection) (request.stopLossPrice.filter JsNumber.truthy)
  let takeProfit ← require (refuse .invalid_protection)
    (request.takeProfitPrice.filter JsNumber.truthy)
  return (stopLoss, takeProfit)

/-- `bridgeQuoteError` of a market order. -/
def checkQuote (config : MT5ProviderConfig) (inputs : SubmitInputs) (orderType : OrderType)
    (contract : BridgeInstrumentContract) : Except SubmitRefusal Unit :=
  if orderType = .market then
    ensure (refuse .invalid_price)
      (evaluateQuoteFreshness contract.quote inputs.nowMs
        (config.maxQuoteAgeMs.getD MT5_BRIDGE_DEFAULT_MAX_QUOTE_AGE_MS)
        (config.clockSkewMs.getD MT5_BRIDGE_DEFAULT_CLOCK_SKEW_MS) = .fresh)
  else .ok ()

/-- `submitOrder`: `some order` where the transport is asked to submit the order, `none` where an order
    with the client id is known already. -/
def submitOrder (env : MutationEnv) (config : MT5ProviderConfig) (inputs : SubmitInputs)
    (request : ExecutionSubmitOrderRequest) : Except SubmitRefusal (Option MT5OrderRequest) := do
  let _ ← presentBarrier env inputs request
  authorize inputs request
  requireAvailable config inputs
  let brokerSymbol ← require (refuse .invalid_symbol) (config.brokerSymbol? request.symbol)
  let row ← symbolRow inputs request
  let contract ← validatedContract request.symbol row
  ensure (refuse .validation)
    (request.orderType ∈ contract.orderTypes && contract.tradingStatus = .open)
  ensure (refuse .invalid_volume)
    (validateVolumeAgainstInstrument request.quantity contract = .valid)
  let (stopLoss, takeProfit) ← protection request
  checkQuote config inputs request.orderType contract
  let existing ← require .transport inputs.priorOrder
  if isAbsent existing then
    return some
      { clientOrderId := request.clientOrderId
        symbol := brokerSymbol
        side := request.side
        orderType := request.orderType
        volume := request.quantity
        price := request.requestedPrice
        stopLoss
        takeProfit }
  else if (normalizeProviderOrderStatus (member existing "status")).statusUncertain then
    throw (refuse .uncertain)
  else return none

/-! ## What is checked before an order is sent -/

section Sent

variable {env : MutationEnv} {config : MT5ProviderConfig} {inputs : SubmitInputs}
  {request : ExecutionSubmitOrderRequest} {order : MT5OrderRequest}

/-- The facts of a call that sends an order. -/
structure Sent (config : MT5ProviderConfig) (inputs : SubmitInputs)
    (request : ExecutionSubmitOrderRequest) (order : MT5OrderRequest) (health row : JsValue)
    (contract : BridgeInstrumentContract) : Prop where
  available : config.environment = .demo ∧ config.enabled = true
  healthRead : inputs.health = some health
  ready : resolveBridgeReadiness health transportHealth = .ready
  mapped : config.brokerSymbol? request.symbol = some order.symbol
  rowRead : inputs.symbolRow = some row
  assetClass : (member row "assetClass").text? = some request.assetClass
  validated : instrumentContract request.symbol row = .ok contract
  orderType : request.orderType ∈ contract.orderTypes
  tradable : contract.tradingStatus = .open
  volume : validateVolumeAgainstInstrument request.quantity contract = .valid
  stopLoss : request.stopLossPrice = some order.stopLoss
  takeProfit : request.takeProfitPrice = some order.takeProfit
  quote : request.orderType = .market →
    evaluateQuoteFreshness contract.quote inputs.nowMs
      (config.maxQuoteAgeMs.getD MT5_BRIDGE_DEFAULT_MAX_QUOTE_AGE_MS)
      (config.clockSkewMs.getD MT5_BRIDGE_DEFAULT_CLOCK_SKEW_MS) = .fresh
  identity : order.clientOrderId = request.clientOrderId
  side : order.side = request.side
  kind : order.orderType = request.orderType
  quantity : order.volume = request.quantity
  price : order.price = request.requestedPrice

theorem requireAvailable_ok {u : Unit} (h : requireAvailable config inputs = .ok u) :
    config.environment = .demo ∧ config.enabled = true ∧ ∃ health, inputs.health = some health ∧
      resolveBridgeReadiness health transportHealth = .ready := by
  simp only [requireAvailable, Except.bind_ok_iff, ensure_ok, require_ok, decide_eq_true_eq] at h
  obtain ⟨-, hlive, -, henabled, health, hhealth, hready⟩ := h
  refine ⟨?_, henabled, health, hhealth, hready⟩
  cases henv : config.environment with
  | demo => rfl
  | live => exact (hlive henv).elim

theorem symbolRow_ok {row : JsValue} (h : symbolRow inputs request = .ok row) :
    inputs.symbolRow = some row ∧ (member row "assetClass").text? = some request.assetClass := by
  simp only [symbolRow, Except.bind_ok_iff, ensure_ok, require_ok, Bool.and_eq_true,
    decide_eq_true_eq] at h
  obtain ⟨row', hrow, -, hasset, h⟩ := h
  cases h
  exact ⟨hrow, hasset.2⟩

theorem validatedContract_ok {canonical : String} {row : JsValue} {contract : BridgeInstrumentContract}
    (h : validatedContract canonical row = .ok contract) :
    instrumentContract canonical row = .ok contract := by
  unfold validatedContract at h
  cases hcontract : instrumentContract canonical row with
  | error code =>
    rw [hcontract] at h
    cases h
  | ok c =>
    rw [hcontract] at h
    cases h
    rfl

theorem protection_ok {prices : JsNumber × JsNumber} (h : protection request = .ok prices) :
    request.stopLossPrice = some prices.1 ∧ request.takeProfitPrice = some prices.2 := by
  simp only [protection, Except.bind_ok_iff, require_ok] at h
  obtain ⟨stopLoss, hstop, takeProfit, hprofit, h⟩ := h
  cases h
  exact ⟨(Option.filter_eq_some_iff.mp hstop).1, (Option.filter_eq_some_iff.mp hprofit).1⟩

/-- **Inversion.** An order is sent only after every check. -/
theorem submitOrder_sends (h : submitOrder env config inputs request = .ok (some order)) :
    ∃ health row contract, Sent config inputs request order health row contract := by
  simp only [submitOrder, Except.bind_ok_iff, ensure_ok, require_ok, Bool.and_eq_true,
    decide_eq_true_eq] at h
  obtain ⟨presented, -, u₁, -, u₂, hready, h⟩ := h
  obtain ⟨brokerSymbol, hmapped, row, hrow, contract, hcontract, u₃, ⟨htype, htradable⟩, h⟩ := h
  obtain ⟨u₄, hvolume, prices, hprices, u₅, hquote, existing, -, h⟩ := h
  obtain ⟨henv, henabled, health, hhealth, hready⟩ := requireAvailable_ok hready
  obtain ⟨hrow, hasset⟩ := symbolRow_ok hrow
  obtain ⟨hstop, hprofit⟩ := protection_ok hprices
  have hfresh : request.orderType = .market →
      evaluateQuoteFreshness contract.quote inputs.nowMs
        (config.maxQuoteAgeMs.getD MT5_BRIDGE_DEFAULT_MAX_QUOTE_AGE_MS)
        (config.clockSkewMs.getD MT5_BRIDGE_DEFAULT_CLOCK_SKEW_MS) = .fresh := by
    intro hmarket
    unfold checkQuote at hquote
    rw [if_pos hmarket, ensure_ok] at hquote
    simpa using hquote
  split at h
  · cases h
    exact ⟨health, row, contract, ⟨henv, henabled⟩, hhealth, hready, hmapped, hrow, hasset,
      validatedContract_ok hcontract, htype, htradable, hvolume, hstop, hprofit, hfresh, rfl, rfl, rfl,
      rfl, rfl⟩
  · split at h
    · cases h
    · cases h

end Sent

/-! ## Verified orders -/

/-- A quote at most so old and at most so far ahead as the configuration allows. -/
def FreshQuote (config : MT5ProviderConfig) (nowMs : JsNumber) (quote : Option BridgeQuote) : Prop :=
  ∃ row maxAge clockSkew, ∃ now : ℤ, quote = some row ∧
    config.maxQuoteAgeMs.getD MT5_BRIDGE_DEFAULT_MAX_QUOTE_AGE_MS = .fin maxAge ∧
    config.clockSkewMs.getD MT5_BRIDGE_DEFAULT_CLOCK_SKEW_MS = .fin clockSkew ∧ nowMs = .fin now ∧
    (now : ℚ) - row.timestampMs ≤ maxAge ∧ row.timestampMs - (now : ℚ) ≤ clockSkew

/-- The contract is the one of the order's symbol and asset class, and admits the order. -/
structure AdmittedBy (config : MT5ProviderConfig) (inputs : SubmitInputs)
    (request : ExecutionSubmitOrderRequest) (order : MT5OrderRequest) (row : JsValue)
    (contract : BridgeInstrumentContract) : Prop where
  read : inputs.symbolRow = some row
  validated : instrumentContract request.symbol row = .ok contract
  symbol : member row "symbol" = .string order.symbol
  assetClass : member row "assetClass" = .string request.assetClass
  tradable : contract.tradingStatus = .open
  orderType : order.orderType ∈ contract.orderTypes
  volume : ∃ v, order.volume = .fin v ∧ OnVolumeGrid contract v ∧ v ≤ contract.maxVolume
  quote : order.orderType = .market → FreshQuote config inputs.nowMs contract.quote

/-- What an order that reaches the terminal should be. -/
structure Verified (config : MT5ProviderConfig) (inputs : SubmitInputs)
    (request : ExecutionSubmitOrderRequest) (order : MT5OrderRequest) : Prop where
  identity : order.clientOrderId = request.clientOrderId
  side : order.side = request.side
  orderType : order.orderType = request.orderType
  volume : order.volume = request.quantity
  price : order.price = request.requestedPrice
  stopLoss : request.stopLossPrice = some order.stopLoss
  takeProfit : request.takeProfitPrice = some order.takeProfit
  mapped : config.symbols.lookup request.symbol = some order.symbol
  instrument : ∃ row contract, AdmittedBy config inputs request order row contract
  prices : submitPriceRules order.orderType order.price order.stopLoss order.takeProfit = true
  demo : config.environment = .demo
  ready : ∃ health, inputs.health = some health ∧
    ∀ c ∈ transportHealth, member health c.text = .bool true

/-- What the checks leave to the caller and the transport: the row that came back is the one asked for,
    the volume does not exceed its maximum by a fraction of a step, and the prices are prices. -/
structure Intended (config : MT5ProviderConfig) (inputs : SubmitInputs)
    (request : ExecutionSubmitOrderRequest) : Prop where
  symbol : ∃ row brokerSymbol, inputs.symbolRow = some row ∧
    config.symbols.lookup request.symbol = some brokerSymbol ∧
    member row "symbol" = .string brokerSymbol
  volume : ∃ row v maximum, inputs.symbolRow = some row ∧ request.quantity = .fin v ∧
    member row "volumeMax" = .number (.fin maximum) ∧ v ≤ maximum
  prices : ∃ stopLoss takeProfit, request.stopLossPrice = some stopLoss ∧
    request.takeProfitPrice = some takeProfit ∧
    submitPriceRules request.orderType request.requestedPrice stopLoss takeProfit = true

/-- **An order that is sent is verified** exactly when the row is the mapped symbol's, the volume is at
    most its maximum and the request's prices meet the price rules. -/
theorem submitted_order_is_verified_iff (env : MutationEnv) (config : MT5ProviderConfig)
    (inputs : SubmitInputs) (request : ExecutionSubmitOrderRequest) (order : MT5OrderRequest)
    (hsent : submitOrder env config inputs request = .ok (some order)) :
    Verified config inputs request order ↔ Intended config inputs request := by
  obtain ⟨health, row, contract, sent⟩ := submitOrder_sends hsent
  have hmapped : config.symbols.lookup request.symbol = some order.symbol :=
    (Option.filter_eq_some_iff.mp sent.mapped).1
  obtain ⟨-, -, hmaximum⟩ := validateInstrumentContract_ok sent.validated
  constructor
  · intro verified
    obtain ⟨row', contract', admitted⟩ := verified.instrument
    have hrow : row' = row := by
      have := admitted.read
      rw [sent.rowRead] at this
      exact (Option.some.inj this).symm
    subst hrow
    have hcontract : contract' = contract := by
      have := admitted.validated
      rw [sent.validated] at this
      exact (Except.ok.inj this).symm
    subst hcontract
    obtain ⟨v, hv, -, hle⟩ := admitted.volume
    refine ⟨⟨row', order.symbol, sent.rowRead, hmapped, admitted.symbol⟩,
      ⟨row', v, contract'.maxVolume, sent.rowRead, verified.volume.symm.trans hv, hmaximum, hle⟩,
      ⟨order.stopLoss, order.takeProfit, sent.stopLoss, sent.takeProfit, ?_⟩⟩
    rw [← sent.kind, ← sent.price]
    exact verified.prices
  · intro intended
    obtain ⟨row₁, brokerSymbol, hrow₁, hbroker, hsymbol⟩ := intended.symbol
    obtain ⟨row₂, v, maximum, hrow₂, hv, hmax, hle⟩ := intended.volume
    obtain ⟨stopLoss, takeProfit, hstop, hprofit, hprices⟩ := intended.prices
    rw [sent.rowRead] at hrow₁ hrow₂
    cases hrow₁
    cases hrow₂
    rw [hmapped] at hbroker
    cases hbroker
    rw [sent.stopLoss] at hstop
    cases hstop
    rw [sent.takeProfit] at hprofit
    cases hprofit
    have hbound : contract.maxVolume = maximum := by
      have := hmaximum.symm.trans hmax
      injection this with this
      injection this
    obtain ⟨v', hv', -, hgrid, -⟩ := validateVolumeAgainstInstrument_valid sent.volume
    rw [hv] at hv'
    cases hv'
    refine ⟨sent.identity, sent.side, sent.kind, sent.quantity, sent.price, sent.stopLoss,
      sent.takeProfit, hmapped, ⟨row, contract, ?_⟩, ?_, sent.available.1, health, sent.healthRead,
      resolveBridgeReadiness_ready sent.ready⟩
    · refine ⟨sent.rowRead, sent.validated, hsymbol, JsValue.text?_eq_some.mp sent.assetClass,
        sent.tradable, ?_, ⟨v, sent.quantity.trans hv, hgrid, hbound ▸ hle⟩, ?_⟩
      · rw [sent.kind]
        exact sent.orderType
      · intro hmarket
        rw [sent.kind] at hmarket
        exact evaluateQuoteFreshness_fresh (sent.quote hmarket)
    · rw [sent.kind, sent.price]
      exact hprices

/-! ### Two symbol rows -/

def sampleEnv : MutationEnv := ⟨fun _ => "", fun _ => none⟩

def sampleMt5Config : MT5ProviderConfig := ⟨true, .demo, [("EURUSD", "EURUSD.m")], none, none⟩

/-- A forex row with a fresh quote. -/
def forexRow (symbol : String) : JsValue :=
  .object [("symbol", .string symbol), ("assetClass", .string "forex"), ("bid", .number (.fin 1)),
    ("ask", .number (.fin 1)), ("quoteTimestampMs", .number (.fin 1000)),
    ("contractSize", .number (.fin 100000)), ("volumeMin", .number (.fin (1 / 100))),
    ("volumeMax", .number (.fin 100)), ("volumeStep", .number (.fin (1 / 100))),
    ("digits", .number (.fin 5)), ("tickSize", .number (.fin (1 / 100000))),
    ("orderTypes", .array [.string "market"]), ("tradeMode", .string "open")]

/-- A healthy transport that answers with the row of a symbol and knows no order. -/
def answersWith (symbol : String) : SubmitInputs where
  gate9 := none
  presentedBarriers := []
  authorization := none
  health := some (.object [("configured", .bool true), ("authenticated", .bool true),
    ("connected", .bool true), ("healthy", .bool true)])
  symbolRow := some (forexRow symbol)
  priorOrder := some .null
  nowMs := .fin 2000

/-- Buy one lot of EURUSD at the market. -/
def buyEurUsd : ExecutionSubmitOrderRequest where
  clientOrderId := String.ofList ("ve-".toList ++ List.replicate 24 '0')
  idempotencyKey := String.ofList (List.replicate 64 '0')
  authorizationId := some "a"
  assetClass := "forex"
  symbol := "EURUSD"
  side := .buy
  orderType := .market
  quantity := .fin 1
  requestedPrice := none
  stopLossPrice := some (.fin (9 / 10))
  takeProfitPrice := some (.fin (11 / 10))

/-- The order of `buyEurUsd`. -/
def eurUsdOrder : MT5OrderRequest where
  clientOrderId := buyEurUsd.clientOrderId
  symbol := "EURUSD.m"
  side := .buy
  orderType := .market
  volume := .fin 1
  price := none
  stopLoss := .fin (9 / 10)
  takeProfit := .fin (11 / 10)

/-- The theorem holds of the row of the mapped symbol. -/
theorem mapped_row_is_verified :
    submitOrder sampleEnv sampleMt5Config (answersWith "EURUSD.m") buyEurUsd =
      .ok (some eurUsdOrder) ∧
    Verified sampleMt5Config (answersWith "EURUSD.m") buyEurUsd eurUsdOrder := by
  have hsent : submitOrder sampleEnv sampleMt5Config (answersWith "EURUSD.m") buyEurUsd =
      .ok (some eurUsdOrder) := by
    decide +kernel
  refine ⟨hsent, (submitted_order_is_verified_iff sampleEnv sampleMt5Config (answersWith "EURUSD.m")
    buyEurUsd eurUsdOrder hsent).mpr ⟨?_, ?_, ?_⟩⟩
  · exact ⟨forexRow "EURUSD.m", "EURUSD.m", rfl, by decide, rfl⟩
  · exact ⟨forexRow "EURUSD.m", 1, 100, rfl, rfl, rfl, by norm_num⟩
  · exact ⟨_, _, rfl, rfl, by decide +kernel⟩

/-- The transport answers the lookup of `EURUSD.m` with the row of `GBPUSD.m`, and the order is sent. -/
theorem another_row_is_not_refused :
    ¬ ∀ (env : MutationEnv) (config : MT5ProviderConfig) (inputs : SubmitInputs)
      (request : ExecutionSubmitOrderRequest) (order : MT5OrderRequest),
      submitOrder env config inputs request = .ok (some order) →
        Verified config inputs request order := by
  intro h
  have hsent : submitOrder sampleEnv sampleMt5Config (answersWith "GBPUSD.m") buyEurUsd =
      .ok (some eurUsdOrder) := by
    decide +kernel
  obtain ⟨row, contract, admitted⟩ :=
    (h sampleEnv sampleMt5Config (answersWith "GBPUSD.m") buyEurUsd eurUsdOrder hsent).instrument
  have hrow : row = forexRow "GBPUSD.m" := (Option.some.inj admitted.read).symm
  have hsymbol := admitted.symbol
  rw [hrow] at hsymbol
  have : (member (forexRow "GBPUSD.m") "symbol").text? = some "EURUSD.m" := by
    rw [hsymbol]
    rfl
  revert this
  decide

end VeltrixEye.Bridge
