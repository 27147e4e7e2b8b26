import VeltrixEye.Risk.Sizing

/-!
# The paper execution engine (`execution/paper-engine.ts`)

Pure functions over `Dec`: the simulated fills, the P&L of a closed position, the walk over the
candles that decides which level was reached first, and the order identities.

* `Calc (Option α)` — a function that may return `null` and may also throw
  `DecimalOverflowError`; a `try … catch` around the arithmetic turns the latter into the former.
-/

namespace VeltrixEye

/-! ## Cost model and money helpers -/

structure PaperCostModel where
  entrySlippagePips : JsNumber
  exitSlippagePips : JsNumber
  feePipsPerSide : JsNumber

def PAPER_COST_MODEL_NONE : PaperCostModel := ⟨0, 0, 0⟩

inductive PaperFillType where
  | entry
  | stop_loss
  | take_profit
  | close
  deriving DecidableEq

inductive PaperExitReason where
  | stop_loss
  | take_profit
  | close
  deriving DecidableEq

/-- Every exit reason is a fill type; `entry` is the one that is not. -/
def PaperExitReason.fillType : PaperExitReason → PaperFillType
  | stop_loss => .stop_loss
  | take_profit => .take_profit
  | close => .close

@[simp] theorem PaperExitReason.fillType_ne_entry (r : PaperExitReason) : r.fillType ≠ .entry := by
  cases r <;> simp [fillType]

/-- `moneyPerPriceUnit`: money moved by a price move of one, for `quantity` units. -/
def moneyPerPriceUnit (spec : Option InstrumentRiskSpec) (price quantity : Dec) : Option Dec := do
  let spec ← spec
  let contract ← Dec.fromNumber spec.contractSize
  guard contract.isPositive
  guard quantity.isPositive
  let perUnit ← (quantity.mul contract).toOption
  match spec.pnlMode with
  | .quote_linear => return perUnit
  | .base_linear =>
    guard price.isPositive
    let q ← (perUnit.div price).toOption
    q

/-- `pipsToPrice`; its product is not guarded against overflow. -/
def pipsToPrice (spec : Option InstrumentRiskSpec) (pips : JsNumber) : Calc (Option Dec) :=
  if !pips.isFinite || JsNumber.lt pips 0 then .ok none
  else if pips = 0 then .ok (some Dec.zero)
  else
    match spec.bind (fun s => Dec.fromNumber s.pipSize), Dec.fromNumber pips with
    | some pip, some p => if pip.isPositive then some <$> pip.mul p else .ok none
    | _, _ => .ok none

/-- `feeMoney`: the commission of one side. -/
def feeMoney (spec : Option InstrumentRiskSpec) (entryPrice quantity : Dec) (feePips : JsNumber) :
    Calc (Option Dec) :=
  if !feePips.isFinite || JsNumber.lt feePips 0 then .ok none
  else if feePips = 0 then .ok (some Dec.zero)
  else do
    let delta ← pipsToPrice spec feePips
    return do
      let vpu ← moneyPerPriceUnit spec entryPrice quantity
      let delta ← delta
      (vpu.mul delta).toOption

def signedPriceMoveValue (spec : Option InstrumentRiskSpec) (referencePrice a b quantity : Dec) :
    Option Dec := do
  let vpu ← moneyPerPriceUnit spec referencePrice quantity
  let move ← (b.sub a).toOption
  (move.mul vpu).toOption

/-! ## Fills -/

/-- What a fill is made of; the slippage is already inside the price. -/
structure FillComputation where
  price : Dec
  slippageCost : Dec
  fees : Dec

structure EntryFillInput where
  direction : Direction
  referencePrice : Dec
  quantity : Dec
  spec : Option InstrumentRiskSpec
  costs : PaperCostModel

/-- The common tail of the two fill functions: `base` is what the price slipped from, `charged`
    the price the fee is charged at. -/
def fillAt (spec : Option InstrumentRiskSpec) (base price charged quantity : Dec)
    (feePips : JsNumber) : Calc (Option FillComputation) :=
  if price.isPositive then do
    let fees ← feeMoney spec charged quantity feePips
    return do
      let slippageCost ← signedPriceMoveValue spec base base price quantity
      let fees ← fees
      return ⟨price, slippageCost.abs, fees⟩
  else .ok none

/-- A buy pays up, a sell receives less. -/
def slipEntry (direction : Direction) (referencePrice slip : Dec) : Calc Dec :=
  match direction with
  | .long => referencePrice.add slip
  | .short => referencePrice.sub slip

def computeEntryFill (input : EntryFillInput) : Calc (Option FillComputation) :=
  if input.referencePrice.isPositive then do
    match ← pipsToPrice input.spec input.costs.entrySlippagePips with
    | none => return none
    | some slip =>
      let price ← slipEntry input.direction input.referencePrice slip
      fillAt input.spec input.referencePrice price price input.quantity input.costs.feePipsPerSide
  else .ok none

structure ExitFillInput where
  direction : Direction
  reason : PaperExitReason
  level : Dec
  referencePrice : Dec
  quantity : Dec
  spec : Option InstrumentRiskSpec
  costs : PaperCostModel

/-- The other side of the same trade. -/
def slipExit (direction : Direction) (base slip : Dec) : Calc Dec :=
  match direction with
  | .long => base.sub slip
  | .short => base.add slip

/-- The exit price before costs: the market reference for a `close`, the level otherwise. -/
def ExitFillInput.base (input : ExitFillInput) : Dec :=
  if input.reason = .close then input.referencePrice else input.level

/-- `computeExitFill`: a target is a resting limit and does not slip. -/
def computeExitFill (input : ExitFillInput) : Calc (Option FillComputation) :=
  if input.base.isPositive then
    if input.reason = .take_profit then
      fillAt input.spec input.base input.base input.base input.quantity input.costs.feePipsPerSide
    else do
      match ← pipsToPrice input.spec input.costs.exitSlippagePips with
      | none => return none
      | some slip =>
        let price ← slipExit input.direction input.base slip
        fillAt input.spec input.base price input.base input.quantity input.costs.feePipsPerSide
  else .ok none

/-! ## P&L -/

structure PnlInput where
  direction : Direction
  entryPrice : Dec
  exitPrice : Dec
  quantity : Dec
  spec : Option InstrumentRiskSpec

/-- `grossRealizedPl`; the price difference is taken outside the guarded helper. -/
def grossRealizedPl (input : PnlInput) : Calc (Option Dec) := do
  let move ← match input.direction with
    | .long => input.exitPrice.sub input.entryPrice
    | .short => input.entryPrice.sub input.exitPrice
  return signedPriceMoveValue input.spec input.entryPrice Dec.zero move input.quantity

/-- `unrealizedPl`: the same, marked at `markPrice`. -/
def unrealizedPl (input : PnlInput) (markPrice : Dec) : Calc (Option Dec) :=
  grossRealizedPl { input with exitPrice := markPrice }

/-- `netRealizedPl`: gross less both sides' fees. -/
def netRealizedPl (gross entryFees exitFees : Dec) : Option Dec :=
  (do let afterEntry ← gross.sub entryFees; afterEntry.sub exitFees : Calc Dec).toOption

/-! ## Market path -/

def PAPER_MAX_EVALUATION_CANDLES : ℕ := 500

structure PaperCandle where
  time : ℤ
  «open» : JsNumber
  high : JsNumber
  low : JsNumber
  close : JsNumber
  deriving DecidableEq

structure ExitDetection where
  reason : PaperExitReason
  level : JsNumber
  candleTime : ℤ
  conflict : Bool
  candlesEvaluated : ℕ
  invalidCandles : ℕ

def isUsableCandle (candle : PaperCandle) : Bool :=
  decide (0 < candle.time) && candle.open.isFinite && candle.high.isFinite && candle.low.isFinite &&
    candle.close.isFinite && JsNumber.lt 0 candle.high && JsNumber.lt 0 candle.low &&
    JsNumber.le candle.low candle.high

def slHit (direction : Direction) (sl : JsNumber) (candle : PaperCandle) : Bool :=
  match direction with
  | .long => JsNumber.le candle.low sl
  | .short => JsNumber.le sl candle.high

def tpHit (direction : Direction) (tp : JsNumber) (candle : PaperCandle) : Bool :=
  match direction with
  | .long => JsNumber.le tp candle.high
  | .short => JsNumber.le candle.low tp

/-- The loop of `detectExit`, with its two counters. -/
def detectLoop (direction : Direction) (sl tp : JsNumber) :
    ℕ → ℕ → List PaperCandle → Option ExitDetection
  | _, _, [] => none
  | evaluated, invalid, candle :: candles =>
    if !isUsableCandle candle then detectLoop direction sl tp evaluated (invalid + 1) candles
    else if slHit direction sl candle && tpHit direction tp candle then
      some ⟨.stop_loss, sl, candle.time, true, evaluated + 1, invalid⟩
    else if slHit direction sl candle then
      some ⟨.stop_loss, sl, candle.time, false, evaluated + 1, invalid⟩
    else if tpHit direction tp candle then
      some ⟨.take_profit, tp, candle.time, false, evaluated + 1, invalid⟩
    else detectLoop direction sl tp (evaluated + 1) invalid candles

def detectExit (direction : Direction) (stopLossPrice takeProfitPrice : JsNumber)
    (candles : List PaperCandle) (maxCandles : Option ℕ := none) : Option ExitDetection :=
  if !JsNumber.lt 0 stopLossPrice || !JsNumber.lt 0 takeProfitPrice then none
  else
    let limit := min (maxCandles.getD PAPER_MAX_EVALUATION_CANDLES) PAPER_MAX_EVALUATION_CANDLES
    detectLoop direction stopLossPrice takeProfitPrice 0 0 (candles.take limit)

/-- The candle reaches the stop or the target. -/
def touches (direction : Direction) (sl tp : JsNumber) (candle : PaperCandle) : Bool :=
  slHit direction sl candle || tpHit direction tp candle

/-- The reason a touching candle closes the position with: the stop wins a conflict. -/
def exitReasonOf (direction : Direction) (sl : JsNumber) (candle : PaperCandle) : PaperExitReason :=
  if slHit direction sl candle then .stop_loss else .take_profit

theorem detectLoop_reason (direction : Direction) (sl tp : JsNumber) (candles : List PaperCandle)
    (evaluated invalid : ℕ) :
    (detectLoop direction sl tp evaluated invalid candles).map ExitDetection.reason =
      (candles.find? fun c => isUsableCandle c && touches direction sl tp c).map
        (exitReasonOf direction sl) := by
  induction candles generalizing evaluated invalid with
  | nil => rfl
  | cons c cs ih =>
    rw [List.find?_cons, detectLoop]
    cases hu : isUsableCandle c with
    | false => simp [ih]
    | true =>
      cases hs : slHit direction sl c <;> cases ht : tpHit direction tp c <;>
        simp [touches, exitReasonOf, hs, ht, ih]

/-- **Exit detection.**  With positive levels the reason is that of the first touching candle among
    the first `PAPER_MAX_EVALUATION_CANDLES` supplied. -/
theorem detectExit_reason {direction : Direction} {sl tp : JsNumber} (hsl : JsNumber.lt 0 sl = true)
    (htp : JsNumber.lt 0 tp = true) (candles : List PaperCandle) :
    (detectExit direction sl tp candles).map ExitDetection.reason =
      ((candles.take PAPER_MAX_EVALUATION_CANDLES).find? fun c =>
        isUsableCandle c && touches direction sl tp c).map (exitReasonOf direction sl) := by
  simp [detectExit, hsl, htp, detectLoop_reason]

/-! ## The frictionless cost model -/

@[simp] theorem pipsToPrice_zero (spec : Option InstrumentRiskSpec) :
    pipsToPrice spec 0 = .ok (some Dec.zero) := by
  have hlt : JsNumber.lt (0 : JsNumber) 0 = false := by decide
  have hfin : JsNumber.isFinite (0 : JsNumber) = true := rfl
  simp [pipsToPrice, hlt, hfin]

theorem fillAt_price {spec : Option InstrumentRiskSpec} {base price charged quantity : Dec}
    {feePips : JsNumber} {fill : FillComputation}
    (h : fillAt spec base price charged quantity feePips = .ok (some fill)) :
    fill.price = price ∧ 0 < price.units := by
  unfold fillAt at h
  split at h
  · rename_i hpos
    obtain ⟨fees, -, h⟩ := Except.bind_ok_iff.mp h
    have h := Except.ok.inj h
    obtain ⟨cost, -, h⟩ := Option.bind_eq_some_iff.mp h
    obtain ⟨f, -, h⟩ := Option.bind_eq_some_iff.mp h
    cases h
    exact ⟨rfl, Dec.isPositive_iff.mp hpos⟩
  · cases h

theorem computeEntryFill_frictionless {input : EntryFillInput} {fill : FillComputation}
    (hcosts : input.costs = PAPER_COST_MODEL_NONE) (h : computeEntryFill input = .ok (some fill)) :
    fill.price = input.referencePrice := by
  unfold computeEntryFill at h
  split at h
  · obtain ⟨slip, hslip, h⟩ := Except.bind_ok_iff.mp h
    rw [hcosts] at hslip
    -- no slippage in pips is no slippage in price
    have hzero : slip = some Dec.zero := (Except.ok.inj ((pipsToPrice_zero input.spec).symm.trans hslip)).symm
    subst hzero
    obtain ⟨price, hprice, h⟩ := Except.bind_ok_iff.mp h
    have hunits : price.units = input.referencePrice.units := by
      cases hd : input.direction <;> rw [hd] at hprice <;> simpa [slipEntry] using hprice
    rw [(fillAt_price h).1]
    exact Dec.ext hunits
  · cases h

/-! ## Identities -/

/-- `s.slice(0, n)`. -/
def sliceTo (n : ℕ) (s : String) : String := String.ofList (s.toList.take n)

def paperClientOrderId (idempotencyHash : String) : PaperFillType → String
  | .entry => "ve-" ++ sliceTo 24 idempotencyHash
  | .stop_loss => "ve-" ++ sliceTo 16 idempotencyHash ++ "-x-" ++ "sl"
  | .take_profit => "ve-" ++ sliceTo 16 idempotencyHash ++ "-x-" ++ "tp"
  | .close => "ve-" ++ sliceTo 16 idempotencyHash ++ "-x-" ++ "cl"

def paperProviderPositionId (idempotencyHash : String) : String :=
  "paper-" ++ sliceTo 24 idempotencyHash

end VeltrixEye
