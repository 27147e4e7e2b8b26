import VeltrixEye.JsValue
import VeltrixEye.Execution.Rows

/-!
# The MT5 bridge contract (`contracts/mt5-bridge-protocol.ts`, `execution/readiness.ts`)

What a health record, an instrument row, a quote and a volume have to be before an order may be sent.
The input is whatever a transport handed over.
-/

namespace VeltrixEye.Bridge

/-- `value[key]`. -/
def member (value : JsValue) (key : String) : JsValue :=
  match value with
  | .object fields => JsValue.lookup fields key
  | _ => .undefined

/-- `if (!condition) throw`. -/
def ensure {ε : Type} (code : ε) (condition : Bool) : Except ε Unit :=
  if condition then .ok () else .error code

/-- The value, or the failure. -/
def require {ε α : Type} (code : ε) (value : Option α) : Except ε α :=
  match value with
  | some v => .ok v
  | none => .error code

theorem ensure_ok {ε : Type} {code : ε} {condition : Bool} {u : Unit} :
    ensure code condition = .ok u ↔ condition = true := by
  cases condition <;> simp [ensure]

theorem require_ok {ε α : Type} {code : ε} {value : Option α} {v : α} :
    require code value = .ok v ↔ value = some v := by
  cases value <;> simp [require]

/-! ## Readiness -/

/-- `TRANSPORT_READINESS_CONDITIONS`. -/
inductive TransportReadinessCondition where
  | configured
  | authenticated
  | connected
  | available
  | healthy
  deriving DecidableEq

def TransportReadinessCondition.text : TransportReadinessCondition → String
  | configured => "configured"
  | authenticated => "authenticated"
  | connected => "connected"
  | available => "available"
  | healthy => "healthy"

inductive TransportReadinessCode where
  | ready
  | health_missing
  | health_not_an_object
  | health_malformed
  | state_uncertain
  | not (condition : TransportReadinessCondition)
  deriving DecidableEq

/-- `READINESS_DEPENDENCIES`. -/
def readinessDependencies : TransportReadinessCondition → List TransportReadinessCondition
  | .configured => []
  | .authenticated => [.configured]
  | .connected => [.configured, .authenticated]
  | .available => [.configured, .authenticated, .connected]
  | .healthy => [.configured, .available]

def transportHealth : List TransportReadinessCondition :=
  [.configured, .authenticated, .connected, .healthy]

def isExplicitTrue : JsValue → Bool
  | .bool true => true
  | _ => false

def isExplicitFalse : JsValue → Bool
  | .bool false => true
  | _ => false

def isBoolean : JsValue → Bool
  | .bool _ => true
  | _ => false

/-- The code of `resolveBridgeReadiness`. -/
def resolveBridgeReadiness (health : JsValue) (required : List TransportReadinessCondition) :
    TransportReadinessCode :=
  match health with
  | .undefined => .health_missing
  | .null => .health_missing
  | .object fields =>
    let row := JsValue.object fields
    if required.any fun c => !isBoolean (member row c.text) then .health_malformed
    else if (member row "state").text? = some "uncertain" ∨ (member row "state").text? = some "unknown"
    then .state_uncertain
    else
      match required.find? fun c => !isExplicitTrue (member row c.text) with
      | some failing => .not failing
      | none =>
        match (required.flatMap readinessDependencies).find?
            fun c => isExplicitFalse (member row c.text) with
        | some dependency => .not dependency
        | none => .ready
  | _ => .health_not_an_object

theorem resolveBridgeReadiness_ready {health : JsValue} {required : List TransportReadinessCondition}
    (h : resolveBridgeReadiness health required = .ready) :
    ∀ c ∈ required, member health c.text = .bool true := by
  unfold resolveBridgeReadiness at h
  cases health with
  | object fields =>
    simp only at h
    split at h
    · cases h
    split at h
    · cases h
    split at h
    · cases h
    rename_i hnone
    intro c hc
    have htrue := List.find?_eq_none.mp hnone c hc
    cases hvalue : member (.object fields) c.text with
    | bool b =>
      cases b with
      | false => simp [hvalue, isExplicitTrue] at htrue
      | true => rfl
    | _ => simp [hvalue, isExplicitTrue] at htrue
  | _ => cases h

/-! ## Bounded values -/

def MAX_PROTOCOL_PRICE : ℚ := 1000000000000

def MAX_PROTOCOL_VOLUME : ℚ := 1000000

def MAX_PROTOCOL_PRICE_DIGITS : ℕ := 12

def MAX_EPOCH_MS : ℤ := 9999999999999

/-- A finite positive number up to a cap. -/
def boundedPositive (cap : ℚ) : JsNumber → Option ℚ
  | .fin q => if 0 < q ∧ q ≤ cap then some q else none
  | _ => none

theorem boundedPositive_eq_some {cap q : ℚ} {n : JsNumber} :
    boundedPositive cap n = some q ↔ n = .fin q ∧ 0 < q ∧ q ≤ cap := by
  cases n with
  | fin p =>
    simp only [boundedPositive, Option.ite_none_right_eq_some, Option.some.injEq, JsNumber.fin.injEq]
    constructor
    · rintro ⟨h, rfl⟩
      exact ⟨rfl, h⟩
    · rintro ⟨rfl, h⟩
      exact ⟨h, rfl⟩
  | _ => simp [boundedPositive]

/-- `z.number()`. -/
def number? : JsValue → Option JsNumber
  | .number n => some n
  | _ => none

def positiveNumber (cap : ℚ) (value : JsValue) : Option ℚ :=
  (number? value).bind (boundedPositive cap)

/-- An integer between two bounds. -/
def boundedInteger (min max : ℤ) (value : JsValue) : Option ℤ :=
  match value with
  | .number (.fin q) => if q.den = 1 ∧ min ≤ q.num ∧ q.num ≤ max then some q.num else none
  | _ => none

def isSymbolRest (c : Char) : Bool := c.isAlphanum || c ∈ ['.', '_', ':', '-']

/-- `bridgeProviderSymbolSchema`. -/
def bridgeProviderSymbol (text : String) : Bool :=
  match text.toList with
  | [] => false
  | c :: rest => c.isAlphanum && rest.length ≤ 31 && rest.all isSymbolRest

/-- `bridgeCanonicalSymbolSchema`. -/
def bridgeCanonicalSymbol (text : String) : Bool :=
  match text.toList with
  | [] => false
  | c :: rest =>
    (c.isUpper || c.isDigit) && rest.length ≤ 31 && rest.all fun d => isSymbolRest d && !d.isLower

/-! ## Quotes -/

def MT5_BRIDGE_DEFAULT_CLOCK_SKEW_MS : JsNumber := 5000

def MT5_BRIDGE_DEFAULT_MAX_QUOTE_AGE_MS : JsNumber := 15000

/-- `bridgeQuoteSchema`. -/
structure BridgeQuote where
  symbol : String
  bid : ℚ
  ask : ℚ
  timestampMs : ℤ
  bidPositive : 0 < bid
  askPositive : 0 < ask

inductive QuoteFreshnessCode where
  | fresh
  | quote_missing
  | quote_clock_unavailable
  | quote_spread_inverted
  | quote_stale
  | quote_future_beyond_clock_skew
  deriving DecidableEq

/-- `Number.isSafeInteger`. -/
def safeInteger? : JsNumber → Option ℤ
  | .fin q => if q.den = 1 ∧ |q.num| ≤ 2 ^ 53 - 1 then some q.num else none
  | _ => none

/-- A finite number that is not negative. -/
def finiteNonnegative? : JsNumber → Option ℚ
  | .fin q => if 0 ≤ q then some q else none
  | _ => none

/-- The code of `evaluateQuoteFreshness` for a validated quote. -/
def evaluateQuoteFreshness (quote : Option BridgeQuote) (nowMs maxAgeMs clockSkewMs : JsNumber) :
    QuoteFreshnessCode :=
  match finiteNonnegative? maxAgeMs, finiteNonnegative? clockSkewMs, safeInteger? nowMs with
  | some maxAge, some clockSkew, some now =>
    match quote with
    | none => .quote_missing
    | some row =>
      if row.ask < row.bid then .quote_spread_inverted
      else
        let ageMs : ℚ := now - row.timestampMs
        if ageMs < -clockSkew then .quote_future_beyond_clock_skew
        else if maxAge < max 0 ageMs then .quote_stale
        else .fresh
  | _, _, _ => .quote_clock_unavailable

theorem evaluateQuoteFreshness_fresh {quote : Option BridgeQuote}
    {nowMs maxAgeMs clockSkewMs : JsNumber}
    (h : evaluateQuoteFreshness quote nowMs maxAgeMs clockSkewMs = .fresh) :
    ∃ row maxAge clockSkew, ∃ now : ℤ, quote = some row ∧ maxAgeMs = .fin maxAge ∧
      clockSkewMs = .fin clockSkew ∧ nowMs = .fin now ∧ (now : ℚ) - row.timestampMs ≤ maxAge ∧
      row.timestampMs - (now : ℚ) ≤ clockSkew := by
  have finite : ∀ {n : JsNumber} {q : ℚ}, finiteNonnegative? n = some q → n = .fin q := by
    intro n q hn
    cases n with
    | fin p =>
      simp only [finiteNonnegative?, Option.ite_none_right_eq_some, Option.some.injEq] at hn
      rw [hn.2]
    | _ => cases hn
  have safe : ∀ {n : JsNumber} {z : ℤ}, safeInteger? n = some z → n = .fin z := by
    intro n z hn
    cases n with
    | fin p =>
      simp only [safeInteger?, Option.ite_none_right_eq_some, Option.some.injEq] at hn
      rw [← hn.2, Rat.coe_int_num_of_den_eq_one hn.1.1]
    | _ => cases hn
  unfold evaluateQuoteFreshness at h
  split at h
  · rename_i maxAge clockSkew now hmax hskew hnow
    cases quote with
    | none => cases h
    | some row =>
      simp only at h
      split at h
      · cases h
      split at h
      · cases h
      split at h
      · cases h
      rename_i hfuture hstale
      refine ⟨row, maxAge, clockSkew, now, rfl, finite hmax, finite hskew, safe hnow, ?_, ?_⟩
      · exact le_trans (le_max_right _ _) (not_lt.mp hstale)
      · linarith [not_lt.mp hfuture]
  · cases h

/-! ## Instruments -/

def ASSET_CLASSES : List String :=
  ["forex", "commodity", "index", "crypto", "stock", "etf", "other"]

inductive OrderType where
  | market
  | limit
  | stop
  | stop_limit
  deriving DecidableEq

def OrderType.ofValue? : JsValue → Option OrderType
  | .string "market" => some .market
  | .string "limit" => some .limit
  | .string "stop" => some .stop
  | .string "stop_limit" => some .stop_limit
  | _ => none

inductive TradingStatus where
  | «open»
  | closed
  | disabled
  | unknown
  deriving DecidableEq

def TradingStatus.ofValue? : JsValue → Option TradingStatus
  | .string "open" => some .open
  | .string "closed" => some .closed
  | .string "disabled" => some .disabled
  | .string "unknown" => some .unknown
  | _ => none

/-- `bridgeInstrumentContractSchema`, with the relations between its volumes. -/
structure BridgeInstrumentContract where
  assetClass : String
  canonicalSymbol : String
  providerSymbol : String
  contractSize : ℚ
  tickSize : ℚ
  priceDigits : ℤ
  minVolume : ℚ
  maxVolume : ℚ
  volumeStep : ℚ
  orderTypes : List OrderType
  tradingStatus : TradingStatus
  quote : Option BridgeQuote
  minVolume_pos : 0 < minVolume
  volumeStep_pos : 0 < volumeStep
  minVolume_le : minVolume ≤ maxVolume
  volumeStep_le : volumeStep ≤ maxVolume

/-- The record the adapter builds from a symbol row, before any of it is checked. -/
structure RawQuote where
  symbol : JsValue
  bid : JsValue
  ask : JsValue
  timestampMs : JsValue

structure RawInstrument where
  assetClass : JsValue
  canonicalSymbol : String
  providerSymbol : JsValue
  contractSize : JsValue
  tickSize : JsValue
  priceDigits : JsValue
  minVolume : JsValue
  maxVolume : JsValue
  volumeStep : JsValue
  orderTypes : JsValue
  tradingStatus : JsValue
  quote : Option RawQuote

/-- What the record is expected to be about. -/
structure ExpectedInstrument where
  canonicalSymbol : String
  providerSymbol : JsValue
  assetClass : JsValue

inductive InstrumentContractCode where
  | instrument_malformed
  | contract_size_invalid
  | tick_size_invalid
  | price_digits_invalid
  | volume_min_invalid
  | volume_max_invalid
  | volume_range_inverted
  | volume_step_invalid
  | order_types_invalid
  | trading_status_invalid
  | symbol_mismatch

/-- `expected === undefined || expected === actual`; the adapter hands over one object twice. -/
def matchesExpected (expected actual : JsValue) : Bool :=
  match expected, actual with
  | .undefined, _ => true
  | .string a, .string b => a = b
  | .null, .null => true
  | .bool a, .bool b => a = b
  | .number a, .number b => a = b && a ≠ .nan
  | .array _, .array _ => true
  | .object _, .object _ => true
  | _, _ => false

/-- `bridgeQuoteSchema.nullable()`. -/
def parseQuote : Option RawQuote → Except InstrumentContractCode (Option BridgeQuote)
  | none => .ok none
  | some raw => do
    let symbol ← require .instrument_malformed (raw.symbol.text?.filter bridgeProviderSymbol)
    let bid ← require .instrument_malformed (positiveNumber MAX_PROTOCOL_PRICE raw.bid)
    let ask ← require .instrument_malformed (positiveNumber MAX_PROTOCOL_PRICE raw.ask)
    let timestampMs ← require .instrument_malformed (boundedInteger 1 MAX_EPOCH_MS raw.timestampMs)
    if h : 0 < bid ∧ 0 < ask then .ok (some ⟨symbol, bid, ask, timestampMs, h.1, h.2⟩)
    else .error .instrument_malformed

/-- The order types of a row: between one and four of the known ones. -/
def parseOrderTypes : JsValue → Option (List OrderType)
  | .array items =>
    if items.length = 0 ∨ 4 < items.length then none else items.mapM OrderType.ofValue?
  | _ => none

def validateInstrumentContract (raw : RawInstrument) (expected : ExpectedInstrument) :
    Except InstrumentContractCode BridgeInstrumentContract := do
  let contractSize ← require .contract_size_invalid (positiveNumber MAX_PROTOCOL_VOLUME raw.contractSize)
  let tickSize ← require .tick_size_invalid (positiveNumber MAX_PROTOCOL_PRICE raw.tickSize)
  let priceDigits ← require .price_digits_invalid
    (boundedInteger 0 MAX_PROTOCOL_PRICE_DIGITS raw.priceDigits)
  let minVolume ← require .volume_min_invalid (positiveNumber MAX_PROTOCOL_VOLUME raw.minVolume)
  let maxVolume ← require .volume_max_invalid (positiveNumber MAX_PROTOCOL_VOLUME raw.maxVolume)
  ensure .volume_range_inverted (minVolume ≤ maxVolume)
  let volumeStep ← require .volume_step_invalid (positiveNumber MAX_PROTOCOL_VOLUME raw.volumeStep)
  let orderTypes ← require .order_types_invalid (parseOrderTypes raw.orderTypes)
  let tradingStatus ← require .trading_status_invalid (TradingStatus.ofValue? raw.tradingStatus)
  let providerSymbol ← require .instrument_malformed raw.providerSymbol.text?
  ensure .symbol_mismatch (raw.canonicalSymbol = expected.canonicalSymbol)
  ensure .symbol_mismatch (matchesExpected expected.providerSymbol raw.providerSymbol)
  ensure .symbol_mismatch (matchesExpected expected.assetClass raw.assetClass)
  let assetClass ← require .instrument_malformed (raw.assetClass.text?.filter (· ∈ ASSET_CLASSES))
  ensure .instrument_malformed
    (bridgeCanonicalSymbol raw.canonicalSymbol && bridgeProviderSymbol providerSymbol)
  let quote ← parseQuote raw.quote
  if h : 0 < minVolume ∧ 0 < volumeStep ∧ minVolume ≤ maxVolume ∧ volumeStep ≤ maxVolume then
    .ok
      { assetClass, canonicalSymbol := raw.canonicalSymbol, providerSymbol, contractSize, tickSize,
        priceDigits, minVolume, maxVolume, volumeStep, orderTypes, tradingStatus, quote,
        minVolume_pos := h.1, volumeStep_pos := h.2.1, minVolume_le := h.2.2.1,
        volumeStep_le := h.2.2.2 }
  else .error .instrument_malformed

theorem validateInstrumentContract_ok {raw : RawInstrument} {expected : ExpectedInstrument}
    {contract : BridgeInstrumentContract}
    (h : validateInstrumentContract raw expected = .ok contract) :
    raw.providerSymbol = .string contract.providerSymbol ∧
      raw.assetClass = .string contract.assetClass ∧
      raw.maxVolume = .number (.fin contract.maxVolume) := by
  unfold validateInstrumentContract at h
  simp only [Except.bind_ok_iff, require_ok, ensure_ok] at h
  obtain ⟨contractSize, -, tickSize, -, priceDigits, -, minVolume, -, maxVolume, hmax, -, -, volumeStep,
    -, orderTypes, -, tradingStatus, -, providerSymbol, hsymbol, -, -, -, -, -, -, assetClass, hasset,
    -, -, quote, -, h⟩ := h
  split at h
  · cases h
    refine ⟨JsValue.text?_eq_some.mp hsymbol, ?_, ?_⟩
    · exact JsValue.text?_eq_some.mp (Option.filter_eq_some_iff.mp hasset).1
    · unfold positiveNumber at hmax
      obtain ⟨n, hn, hbounded⟩ := Option.bind_eq_some_iff.mp hmax
      obtain ⟨rfl, -⟩ := boundedPositive_eq_some.mp hbounded
      cases hraw : raw.maxVolume with
      | number m =>
        rw [hraw] at hn
        cases hn
        rfl
      | _ =>
        rw [hraw] at hn
        cases hn
  · cases h

/-! ## Volumes -/

def VOLUME_STEP_TOLERANCE : ℚ := 1 / 100000000

inductive VolumeRuleCode where
  | valid
  | volume_not_finite
  | volume_not_positive
  | volume_above_maximum
  | volume_below_minimum
  | volume_not_on_step
  deriving DecidableEq

/-- The code of `validateVolumeAgainstInstrument`; the contract's own volumes are positive. -/
def validateVolumeAgainstInstrument (volume : JsNumber) (contract : BridgeInstrumentContract) :
    VolumeRuleCode :=
  match volume with
  | .fin v =>
    if ¬ 0 < v then .volume_not_positive
    else if MAX_PROTOCOL_VOLUME < v then .volume_above_maximum
    else if VOLUME_STEP_TOLERANCE * contract.volumeStep < v - contract.maxVolume then
      .volume_above_maximum
    else if VOLUME_STEP_TOLERANCE * contract.volumeStep < contract.minVolume - v then
      .volume_below_minimum
    else
      let steps := (v - contract.minVolume) / contract.volumeStep
      let rounded := ⌊steps + 1 / 2⌋
      if rounded < 0 then .volume_below_minimum
      else if VOLUME_STEP_TOLERANCE < |steps - rounded| then .volume_not_on_step
      else .valid
  | _ => .volume_not_finite

/-- The volume is on the grid of the contract, up to the tolerance. -/
def OnVolumeGrid (contract : BridgeInstrumentContract) (v : ℚ) : Prop :=
  ∃ k : ℕ, |v - (contract.minVolume + k * contract.volumeStep)| ≤
    VOLUME_STEP_TOLERANCE * contract.volumeStep

theorem validateVolumeAgainstInstrument_valid {volume : JsNumber} {contract : BridgeInstrumentContract}
    (h : validateVolumeAgainstInstrument volume contract = .valid) :
    ∃ v, volume = .fin v ∧ 0 < v ∧ OnVolumeGrid contract v ∧
      v ≤ contract.maxVolume + VOLUME_STEP_TOLERANCE * contract.volumeStep := by
  have hstep := contract.volumeStep_pos
  cases volume with
  | fin v =>
    simp only [validateVolumeAgainstInstrument] at h
    split at h
    · cases h
    rename_i hpos
    split at h
    · cases h
    split at h
    · cases h
    rename_i habove
    split at h
    · cases h
    split at h
    · cases h
    rename_i hrounded
    split at h
    · cases h
    rename_i hgrid
    refine ⟨v, rfl, not_not.mp hpos, ?_, by linarith [not_lt.mp habove]⟩
    obtain ⟨k, hk⟩ := Int.eq_ofNat_of_zero_le (not_lt.mp hrounded)
    refine ⟨k, ?_⟩
    rw [hk] at hgrid
    have hdiff : v - (contract.minVolume + k * contract.volumeStep) =
        ((v - contract.minVolume) / contract.volumeStep - (k : ℤ)) *
          contract.volumeStep := by
      push_cast
      field_simp
      ring
    rw [hdiff, abs_mul, abs_of_pos hstep]
    exact mul_le_mul_of_nonneg_right (not_lt.mp hgrid) hstep.le
  | _ => cases h

/-! ## Prices -/

/-- A price of the protocol. -/
def protocolPrice (price : JsNumber) : Bool := (boundedPositive MAX_PROTOCOL_PRICE price).isSome

/-- What `bridgeSubmitOrderSchema` asks of the prices: no price exactly for a market order, and every
    price positive and bounded. -/
def submitPriceRules (orderType : OrderType) (price : Option JsNumber) (stopLoss takeProfit : JsNumber) :
    Bool :=
  decide (orderType = .market ↔ price = none) && price.all protocolPrice && protocolPrice stopLoss &&
    protocolPrice takeProfit

end VeltrixEye.Bridge
